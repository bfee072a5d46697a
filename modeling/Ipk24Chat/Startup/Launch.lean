/-
**From the command line to the chat: `main`, `dns_lookup` and `establish_connection`.**

The operating system is a parameter, `Network`. The program reads its options, creates the socket, looks the
name up, connects for TCP, and comes to the first `poll` of the client that the last `-t` names. Each of these
may end it.

* `Launches`: the ways to a chat, and the ways out before it;
* `main_of_taken`, `main_of_openSocket`, `main_of_dnsLookup`: the parts of `main`;
* `launch_iff`: the program goes these ways and no others.
-/

import Ipk24Chat.Clients.Tcp
import Ipk24Chat.Clients.Udp
import Ipk24Chat.Startup.Parsing
import Ipk24Chat.Startup.Socket

namespace Ipk24Chat

/-! ### The network -/

/-- An address of `dns_results`; the program looks at `sin_port` only. -/
structure Address where
  sinPort : UInt16
  deriving DecidableEq, Repr

/-- The system calls before the chat begins. -/
structure Network extends Kernel where
  /-- `getaddrinfo`; `none` when it does not return 0. -/
  getaddrinfo : (ipHostname port : Str) → (aiSocktype : UInt16) → Option Address
  /-- `connect`, which returns 0 when it succeeds. -/
  connect : (socketFd : Int) → Address → Int

/-- The texts printed before the chat begins, those of the network among them. -/
inductive LaunchNotice
  | start (n : StartNotice)
  | unresolvedHostname
  | notConnected
  deriving DecidableEq, Repr

/-- The two errors of the network are printed on `std::cout`. -/
def LaunchNotice.stream : LaunchNotice → Stream
  | .start n => n.stream
  | _ => .cout

def LaunchNotice.text : LaunchNotice → String
  | .start n => n.text
  | .unresolvedHostname => "ERR: Could not resolve hostname."
  | .notConnected => "ERR: Could not connect to the server."

/-- How the program ends before the chat begins. -/
inductive LaunchHalt
  | exited (printed : LaunchNotice) (retState : ExitCode)
  | uncaught (e : StoiError)
  deriving DecidableEq, Repr

def Halt.launch : Halt → LaunchHalt
  | .exited n retState => .exited (.start n) retState
  | .uncaught e => .uncaught e

/-! ### `main` -/

def dnsLookup (net : Network) (s : ClientSocket) (info : ConnectionInfo) : Except LaunchHalt Address :=
  match net.getaddrinfo info.ipHostname info.port s.type with
  | some address => .ok address
  | none => .error (.exited .unresolvedHostname .failure)

def establishConnection (net : Network) (s : ClientSocket) (address : Address) : Except LaunchHalt Unit :=
  if net.connect s.socketFd address ≠ 0 then .error (.exited .notConnected .failure) else .ok ()

/-- `create_socket` of a client that has been constructed with these arguments. -/
def openSocket (net : Network) (info : ConnectionInfo) : Except LaunchHalt ClientSocket :=
  (info.socket net.toKernel).result.mapError Halt.launch

/-- `start_tcp_chat`, up to its first `poll`. -/
def TCPClient.startTcpChat (net : Network) (revents : Revents) (info : ConnectionInfo) :
    Except LaunchHalt TCPClient.State := do
  let s ← openSocket net info
  let address ← dnsLookup net s info
  establishConnection net s address
  return start revents

/-- `start_udp_chat`, up to its first `poll`. -/
def UDPClient.startUdpChat (net : Network) (revents : Revents) (info : ConnectionInfo) :
    Except LaunchHalt UDPClient.State := do
  let s ← openSocket net info
  let address ← dnsLookup net s info
  return start address.sinPort info.maxUdpRetransmission revents

/-- The client that runs. -/
inductive Running
  | tcp (s : TCPClient.State)
  | udp (s : UDPClient.State)

/-- `main`, up to the first `poll`; `revents` is what the array of the client happens to hold. -/
def main (net : Network) (revents : Revents) (opts : List Opt) : Except LaunchHalt Running := do
  let info ← (parseArgs opts).mapError Halt.launch
  if info.sockType = SOCK_STREAM then return .tcp (← TCPClient.startTcpChat net revents info)
  else return .udp (← UDPClient.startUdpChat net revents info)

/-! ### Command lines and networks -/

/-- Every option is taken, and the last `-t` names this protocol. -/
def Taken (opts : List Opt) (sockType : UInt16) : Prop :=
  opts.findSome? Opt.halt = none ∧ lastGiven Opt.protocol opts = some sockType

/-- The socket is created, and takes the timeout when it is one of datagrams. -/
structure Opens (net : Network) (info : ConnectionInfo) : Prop where
  created : net.socket info.sockType ≠ -1
  timed : info.sockType = SOCK_DGRAM →
    net.setsockopt (net.socket info.sockType) info.timeval ≠ -1

/-- The name is looked up with the port of the command line. -/
def Resolves (net : Network) (info : ConnectionInfo) (address : Address) : Prop :=
  net.getaddrinfo info.ipHostname info.port info.sockType = some address

/-- **How the program comes to a chat, or ends before.** -/
inductive Launches (net : Network) (revents : Revents) (opts : List Opt) :
    Except LaunchHalt Running → Prop
  /-- The first option that is not taken. -/
  | halted {halt : Halt} : opts.findSome? Opt.halt = some halt →
      Launches net revents opts (.error halt.launch)
  | noProtocol : opts.findSome? Opt.halt = none → lastGiven Opt.protocol opts = none →
      Launches net revents opts (.error (.exited (.start .noProtocol) .failure))
  | creatingSocket {t : UInt16} : Taken opts t → net.socket t = -1 →
      Launches net revents opts (.error (.exited (.start .creatingSocket) .failure))
  | settingTimeout : Taken opts SOCK_DGRAM → net.socket SOCK_DGRAM ≠ -1 →
      net.setsockopt (net.socket SOCK_DGRAM) (described opts SOCK_DGRAM).timeval = -1 →
      Launches net revents opts (.error (.exited (.start .settingTimeout) .failure))
  | unresolvedHostname {t : UInt16} : Taken opts t → Opens net (described opts t) →
      (∀ address, ¬ Resolves net (described opts t) address) →
      Launches net revents opts (.error (.exited .unresolvedHostname .failure))
  | notConnected {address : Address} : Taken opts SOCK_STREAM → Opens net (described opts SOCK_STREAM) →
      Resolves net (described opts SOCK_STREAM) address →
      net.connect (net.socket SOCK_STREAM) address ≠ 0 →
      Launches net revents opts (.error (.exited .notConnected .failure))
  | tcp {address : Address} : Taken opts SOCK_STREAM → Opens net (described opts SOCK_STREAM) →
      Resolves net (described opts SOCK_STREAM) address →
      net.connect (net.socket SOCK_STREAM) address = 0 →
      Launches net revents opts (.ok (.tcp (TCPClient.start revents)))
  /-- The datagrams go to the port that was found, and the last `-r` limits the retransmissions. -/
  | udp {address : Address} : Taken opts SOCK_DGRAM → Opens net (described opts SOCK_DGRAM) →
      Resolves net (described opts SOCK_DGRAM) address →
      Launches net revents opts (.ok (.udp (UDPClient.start address.sinPort
        (setting 3 (lastGiven Opt.retransmissions opts)) revents)))

theorem Taken.known {opts : List Opt} {t : UInt16} (taken : Taken opts t) :
    t = SOCK_DGRAM ∨ t = SOCK_STREAM := by
  obtain ⟨o, _, given⟩ := lastGiven_mem taken.2
  exact protocol_known given

/-! ### The parts of `main` -/

variable {net : Network} {revents : Revents} {opts : List Opt} {info : ConnectionInfo}

/-- The socket that `create_socket` leaves behind. -/
def opened (net : Network) (info : ConnectionInfo) : ClientSocket where
  socketFd := net.socket info.sockType
  type := info.sockType
  tv := if info.sockType = SOCK_DGRAM then info.timeval else ⟨0, 0⟩

theorem openSocket_of_opens (opens : Opens net info) : openSocket net info = .ok (opened net info) := by
  unfold openSocket ConnectionInfo.socket ClientSocket.createSocket ClientSocket.new opened
  simp only [if_neg opens.created]
  by_cases datagram : info.sockType = SOCK_DGRAM
  · have timed := opens.timed datagram
    rw [ConnectionInfo.timeval] at timed
    rw [if_pos datagram, if_neg timed, if_pos datagram]
    rfl
  · rw [if_neg datagram, if_neg datagram]
    rfl

theorem openSocket_uncreated (failed : net.socket info.sockType = -1) :
    openSocket net info = .error (.exited (.start .creatingSocket) .failure) := by
  unfold openSocket ConnectionInfo.socket ClientSocket.createSocket ClientSocket.new
  simp only [if_pos failed]
  rfl

theorem openSocket_untimed (created : net.socket info.sockType ≠ -1)
    (datagram : info.sockType = SOCK_DGRAM)
    (refused : net.setsockopt (net.socket info.sockType) info.timeval = -1) :
    openSocket net info = .error (.exited (.start .settingTimeout) .failure) := by
  unfold openSocket ConnectionInfo.socket ClientSocket.createSocket ClientSocket.new
  rw [ConnectionInfo.timeval] at refused
  simp only [if_neg created, if_pos datagram, if_pos refused]
  rfl

theorem dnsLookup_of_resolves {address : Address} (resolves : Resolves net info address) :
    dnsLookup net (opened net info) info = .ok address := by
  unfold dnsLookup opened
  rw [resolves]

theorem dnsLookup_unresolved (unknown : ∀ address, ¬ Resolves net info address) :
    dnsLookup net (opened net info) info = .error (.exited .unresolvedHostname .failure) := by
  unfold dnsLookup opened
  cases found : net.getaddrinfo info.ipHostname info.port info.sockType with
  | some address => exact absurd found (unknown address)
  | none => rfl

theorem establishConnection_connected (info : ConnectionInfo) {address : Address}
    (connected : net.connect (net.socket info.sockType) address = 0) :
    establishConnection net (opened net info) address = .ok () :=
  if_neg fun refused => refused connected

theorem establishConnection_refused (info : ConnectionInfo) {address : Address}
    (refused : net.connect (net.socket info.sockType) address ≠ 0) :
    establishConnection net (opened net info) address = .error (.exited .notConnected .failure) :=
  if_pos refused

/-- A command line that is taken leaves the rest to the client. -/
theorem main_of_taken {t : UInt16} (taken : Taken opts t) : main net revents opts =
    if t = SOCK_STREAM then
      (TCPClient.startTcpChat net revents (described opts t)).map .tcp
    else (UDPClient.startUdpChat net revents (described opts t)).map .udp := by
  unfold main
  rw [parseArgs_eq, taken.1]
  simp only [taken.2]
  show (if t = SOCK_STREAM then _ else _) = _
  split
  · rfl
  · rfl

/-- The client does not come to the chat when one of its calls fails. -/
theorem main_of_openSocket {t : UInt16} (taken : Taken opts t) {e : LaunchHalt}
    (failed : openSocket net (described opts t) = .error e) : main net revents opts = .error e := by
  rw [main_of_taken taken]
  unfold TCPClient.startTcpChat UDPClient.startUdpChat
  rw [failed]
  split
  · rfl
  · rfl

theorem main_of_dnsLookup {t : UInt16} (taken : Taken opts t) (opens : Opens net (described opts t))
    {e : LaunchHalt}
    (failed : dnsLookup net (opened net (described opts t)) (described opts t) = .error e) :
    main net revents opts = .error e := by
  rw [main_of_taken taken]
  unfold TCPClient.startTcpChat UDPClient.startUdpChat
  rw [openSocket_of_opens opens]
  show (if _ then Except.map _ (dnsLookup _ _ _ >>= _) else Except.map _ (dnsLookup _ _ _ >>= _)) = _
  rw [failed]
  split
  · rfl
  · rfl

/-! ### The launch -/

/-- What `Launches` says is what `main` does. -/
theorem Launches.main {result : Except LaunchHalt Running} (launches : Launches net revents opts result) :
    Ipk24Chat.main net revents opts = result := by
  cases launches with
  | halted halts =>
    unfold Ipk24Chat.main
    rw [parseArgs_eq, halts]
    rfl
  | noProtocol taken absent =>
    unfold Ipk24Chat.main
    rw [parseArgs_eq, taken]
    simp only [absent]
    rfl
  | creatingSocket taken failed => exact main_of_openSocket taken (openSocket_uncreated failed)
  | settingTimeout taken created refused =>
    exact main_of_openSocket taken (openSocket_untimed created rfl refused)
  | unresolvedHostname taken opens unknown =>
    exact main_of_dnsLookup taken opens (dnsLookup_unresolved unknown)
  | notConnected taken opens resolves refused =>
    rw [main_of_taken taken, if_pos rfl, TCPClient.startTcpChat, openSocket_of_opens opens]
    show Except.map _ (dnsLookup _ _ _ >>= _) = _
    rw [dnsLookup_of_resolves resolves]
    show Except.map _ (establishConnection _ _ _ >>= _) = _
    rw [establishConnection_refused (described opts SOCK_STREAM) refused]
    rfl
  | tcp taken opens resolves connected =>
    rw [main_of_taken taken, if_pos rfl, TCPClient.startTcpChat, openSocket_of_opens opens]
    show Except.map _ (dnsLookup _ _ _ >>= _) = _
    rw [dnsLookup_of_resolves resolves]
    show Except.map _ (establishConnection _ _ _ >>= _) = _
    rw [establishConnection_connected (described opts SOCK_STREAM) connected]
    rfl
  | udp taken opens resolves =>
    rw [main_of_taken taken, if_neg (by decide), UDPClient.startUdpChat, openSocket_of_opens opens]
    show Except.map _ (dnsLookup _ _ _ >>= _) = _
    rw [dnsLookup_of_resolves resolves]
    rfl

/-- There is always something that happens. -/
theorem launches_some (net : Network) (revents : Revents) (opts : List Opt) :
    ∃ result, Launches net revents opts result := by
  cases halts : opts.findSome? Opt.halt with
  | some halt => exact ⟨_, .halted halts⟩
  | none =>
    cases last : lastGiven Opt.protocol opts with
    | none => exact ⟨_, .noProtocol halts last⟩
    | some t =>
      have taken : Taken opts t := ⟨halts, last⟩
      by_cases created : net.socket t = -1
      · exact ⟨_, .creatingSocket taken created⟩
      by_cases refused : t = SOCK_DGRAM ∧
          net.setsockopt (net.socket t) (described opts t).timeval = -1
      · obtain ⟨rfl, refused⟩ := refused
        exact ⟨_, .settingTimeout taken created refused⟩
      have opens : Opens net (described opts t) :=
        ⟨created, fun datagram untimed => refused ⟨datagram, untimed⟩⟩
      by_cases resolves : ∃ address, Resolves net (described opts t) address
      · obtain ⟨address, resolves⟩ := resolves
        rcases taken.known with rfl | rfl
        · exact ⟨_, .udp taken opens resolves⟩
        · by_cases connected : net.connect (net.socket SOCK_STREAM) address = 0
          · exact ⟨_, .tcp taken opens resolves connected⟩
          · exact ⟨_, .notConnected taken opens resolves connected⟩
      · exact ⟨_, .unresolvedHostname taken opens (not_exists.mp resolves)⟩

/-- **The launch**, for every network and every command line: the program comes to a chat, or ends before it,
exactly as `Launches` says. -/
theorem launch_iff (net : Network) (revents : Revents) (opts : List Opt)
    (result : Except LaunchHalt Running) :
    main net revents opts = result ↔ Launches net revents opts result := by
  constructor
  · rintro rfl
    obtain ⟨result, launches⟩ := launches_some net revents opts
    rw [launches.main]
    exact launches
  · exact Launches.main

/-- **A chat begins in an initial state** of the client that is launched, so that what holds of its runs holds
of the program. -/
theorem Launches.init {running : Running} (launches : Launches net revents opts (.ok running)) :
    (∃ s, running = .tcp s ∧ TCPClient.machine.init s) ∨
      ∃ s address, running = .udp s ∧ Resolves net (described opts SOCK_DGRAM) address ∧
        (UDPClient.machine address.sinPort).init s := by
  cases launches with
  | tcp => exact Or.inl ⟨_, rfl, revents, rfl⟩
  | udp _ _ resolves => exact Or.inr ⟨_, _, rfl, resolves, _, revents, rfl⟩

end Ipk24Chat
