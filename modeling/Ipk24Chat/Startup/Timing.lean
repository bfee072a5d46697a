/-
**The timing options, from the command line to the socket and to `handle_timeout`.**

A timeout is stored in 16 bits, replaced by 250 when they are 0, and passed to the kernel as microseconds
below a second; a number of retransmissions is stored in 16 bits and replaced by 3 when they are 0.

* `setting_eq_iff`: the integers that the fields hold as given;
* `givesUpAfter_with_iff`: the number of retransmissions of a client with a given limit;
* `timing_iff`: both options take effect as given exactly for timeouts of 1 to 999 ms and 1 to 65535
  retransmissions, unless the kernel refuses the timeout.
-/

import Ipk24Chat.Startup.Socket
import Ipk24Chat.Udp.Retransmission
import Ipk24Chat.Stdin.UserInput

namespace Ipk24Chat

open Reactive Numeral

/-! ### The fields of 16 bits -/

/-- **The integers that a field holds as given.** -/
theorem setting_eq_iff {default : UInt16} (some : default ≠ 0) (v : Int) :
    ((setting default (.some v)).toNat : Int) = v ↔ 1 ≤ v ∧ v ≤ 65535 := by
  have positive : default.toNat ≠ 0 := fun zero => some (UInt16.toNat_inj.mp zero)
  have below := default.toNat_lt
  rw [setting_some]
  split
  · constructor
    · intro same
      omega
    · intro inside
      omega
  · omega

/-- The timeouts that the kernel refuses. -/
theorem setting_long_iff (given : Option Int) : 1000 ≤ (setting 250 given).toNat ↔
    ∃ v, given = some v ∧ 1000 ≤ v % 65536 := by
  cases given with
  | none => exact iff_of_false (by decide) (by rintro ⟨v, absent, _⟩; cases absent)
  | some v =>
    have value := setting_some 250 v
    simp only [Option.some.injEq, exists_eq_left']
    rw [show (250 : UInt16).toNat = 250 from rfl] at value
    split at value <;> omega

/-! ### The number of retransmissions -/

namespace UDPClient

/-- `handle_timeout` has been entered in a run of the client with this limit. -/
def EnteredWith (port limit : UInt16) (s : State) (m : UDPMessage) : Prop :=
  ∃ revents events before outs line out,
    Drive (machine port) (start port limit revents) events before outs ∧
      step before (.getline line) = some (s, out) ∧ s.control = .handleTimeout m 0

theorem EnteredWith.entered {port limit : UInt16} {s : State} {m : UDPMessage}
    (entered : EnteredWith port limit s m) :
    Entered port s m ∧ s.client.maxUdpRetransmission = limit := by
  obtain ⟨revents, events, before, outs, line, out, driven, made, control⟩ := entered
  have initial : (machine port).init (start port limit revents) := ⟨limit, revents, rfl⟩
  refine ⟨⟨before, line, out, (Reachable.start initial).drive driven, made, control⟩, ?_⟩
  rw [step_limit made, drive_limit driven]
  rfl

/-- A client with any limit waits for the CONFIRM of its first AUTH. -/
theorem enteredWith_auth (port limit : UInt16) : ∃ s m, EnteredWith port limit s m := by
  obtain ⟨initial, begins⟩ : ∃ s, s = start port limit ⟨false, false⟩ := ⟨_, rfl⟩
  obtain ⟨reading, asks⟩ : ∃ s : State, s = { initial with
    revents := ⟨true, false⟩, control := .getline } := ⟨_, rfl⟩
  have asked : (machine port).step initial stdinReady = some (reading, []) := by
    rw [asks, begins]
    rfl
  have same : reading.client = .new port limit := by
    rw [asks, begins]
    rfl
  have reads : reading.control = .getline := by rw [asks]
  obtain ⟨m, sent⟩ : ∃ m, (reading.client.userLine (bytes "/auth u s d")).blocked =
      some (.handleTimeout m 0) := by
    have auth : command (bytes "/auth u s d") = .auth (bytes "u") (bytes "s") (bytes "d") := by decide
    have ready : (command (bytes "/auth u s d")).ready = true := by rw [auth]; rfl
    have type := (reading.client.userMsg_describes (bytes "/auth u s d")).type ready
    rw [auth] at type
    refine ⟨(reading.client.userMsg (bytes "/auth u s d")).1, ?_⟩
    rw [userLine_eq _ (by decide), if_pos ready, dispatch_eq, type, same]
    rfl
  refine ⟨_, m, ⟨false, false⟩, [stdinReady], reading, [], some (bytes "/auth u s d"), _, ?_,
    step_reading reads _, ?_⟩
  · rw [← begins]
    exact .single asked
  · show (reading.resume .poll (reading.client.userLine (bytes "/auth u s d"))).1.control = _
    rw [State.resume, sent]
    rfl

/-- **A client with this limit gives up after as many retransmissions**, and after no other number. -/
theorem givesUpAfter_with_iff (limit : UInt16) (n : Nat) :
    (∀ port s m, EnteredWith port limit s m → GivesUpAfter port s m n) ↔ limit.toNat = n := by
  constructor
  · intro givesUp
    obtain ⟨s, m, entered⟩ := enteredWith_auth 4567 limit
    obtain ⟨waits, same⟩ := entered.entered
    rw [← same]
    exact (givesUpAfter_iff waits n).mp (givesUp 4567 s m entered)
  · intro same port s m entered
    obtain ⟨waits, limited⟩ := entered.entered
    exact (givesUpAfter_iff waits n).mpr (by rw [limited]; exact same)

end UDPClient

/-! ### The law -/

/-- **The timing options take effect as given**: a receive timeout that is passed to `setsockopt` is
normalised and has as many milliseconds as the last `-d` says, and the UDP client gives up after as many
retransmissions as the last `-r` says. -/
structure TimingAsGiven (kernel : Kernel) (opts : List Opt) (info : ConnectionInfo) : Prop where
  timeout : ∀ v, lastGiven Opt.timeout opts = some v → ∀ tv ∈ (info.socket kernel).passed,
    tv.Normalised ∧ tv.microseconds = v * 1000
  retransmissions : info.sockType = SOCK_DGRAM → ∀ r, lastGiven Opt.retransmissions opts = some r →
    ∃ n : Nat, r = n ∧ ∀ port s m, UDPClient.EnteredWith port info.maxUdpRetransmission s m →
      UDPClient.GivesUpAfter port s m n

/-- TCP is selected, there is no socket, the kernel refuses the timeout, or both options are held as
given. -/
def TimingHeld (kernel : Kernel) (opts : List Opt) : Prop :=
  lastGiven Opt.protocol opts = some SOCK_STREAM ∨ kernel.socket SOCK_DGRAM = -1 ∨
    (∃ v, lastGiven Opt.timeout opts = some v ∧ 1000 ≤ v % 65536) ∨
    ((∀ v, lastGiven Opt.timeout opts = some v → 1 ≤ v ∧ v ≤ 999) ∧
      ∀ r, lastGiven Opt.retransmissions opts = some r → 1 ≤ r ∧ r ≤ 65535)

/-- The timeout of a client, by the option given. -/
theorem timeval_as_given_iff {info : ConnectionInfo} {v : Int}
    (stored : info.udpTimeout = setting 250 (some v)) :
    (info.timeval.Normalised ∧ info.timeval.microseconds = v * 1000) ↔ 1 ≤ v ∧ v ≤ 999 := by
  have held := setting_eq_iff (show (250 : UInt16) ≠ 0 by decide) v
  have total : info.timeval.microseconds = (info.udpTimeout.toNat : Int) * 1000 := Int.zero_add _
  rw [normalised_timeval_iff, total, stored]
  omega

/-- **The timing options of the UDP client**, when there is a socket and the kernel takes the timeout. -/
theorem timingAsGiven_iff {kernel : Kernel} {opts : List Opt} {info : ConnectionInfo}
    (accepted : Accepted opts info) (datagram : info.sockType = SOCK_DGRAM)
    (passed : (info.socket kernel).passed = [info.timeval]) :
    TimingAsGiven kernel opts info ↔
      (∀ v, lastGiven Opt.timeout opts = some v → 1 ≤ v ∧ v ≤ 999) ∧
        ∀ r, lastGiven Opt.retransmissions opts = some r → 1 ≤ r ∧ r ≤ 65535 := by
  have timeout : ∀ v, lastGiven Opt.timeout opts = some v →
      ((∀ tv ∈ (info.socket kernel).passed, tv.Normalised ∧ tv.microseconds = v * 1000) ↔
        1 ≤ v ∧ v ≤ 999) := by
    intro v given
    have stored := accepted.timeout
    rw [given] at stored
    rw [passed, ← timeval_as_given_iff stored]
    exact List.forall_mem_singleton
  have retransmissions : ∀ r, lastGiven Opt.retransmissions opts = some r →
      ((∃ n : Nat, r = n ∧ ∀ port s m,
        UDPClient.EnteredWith port info.maxUdpRetransmission s m → UDPClient.GivesUpAfter port s m n) ↔
        1 ≤ r ∧ r ≤ 65535) := by
    intro r given
    have stored := accepted.retransmissions
    rw [given] at stored
    rw [← setting_eq_iff (show (3 : UInt16) ≠ 0 by decide) r, ← stored]
    simp only [UDPClient.givesUpAfter_with_iff]
    exact ⟨fun ⟨n, same, limit⟩ => by rw [same, limit], fun same => ⟨_, same.symm, rfl⟩⟩
  constructor
  · intro asGiven
    exact ⟨fun v given => (timeout v given).mp (asGiven.timeout v given),
      fun r given => (retransmissions r given).mp (asGiven.retransmissions datagram r given)⟩
  · rintro ⟨short, few⟩
    exact ⟨fun v given => (timeout v given).mpr (short v given),
      fun _ r given => (retransmissions r given).mpr (few r given)⟩

/-- **The timing options** of every accepted sequence: either the program exits with an error or they take
effect as given, exactly when they are held as given. -/
theorem timing_iff {kernel : Kernel} (law : kernel.ChecksTimeouts) {opts : List Opt}
    {info : ConnectionInfo} (parsed : parseArgs opts = .ok info) :
    ((info.socket kernel).Rejected ∨ TimingAsGiven kernel opts info) ↔ TimingHeld kernel opts := by
  have accepted := parseArgs_ok parsed
  unfold TimingHeld
  rw [accepted.protocol]
  rcases accepted.known with datagram | stream
  · obtain ⟨rejected, passes⟩ := socket_datagram law datagram
    have other : ¬ some info.sockType = some SOCK_STREAM := by
      rw [datagram]
      decide
    rw [rejected, accepted.timeout, setting_long_iff, or_assoc]
    refine (or_congr_right' fun created => or_congr_right ?_).trans (or_iff_right other).symm
    exact timingAsGiven_iff accepted datagram (passes created)
  · refine iff_of_true (Or.inr ⟨fun v _ tv member => ?_, fun datagram => ?_⟩) (Or.inl (by rw [stream]))
    · rw [socket_stream kernel stream] at member
      cases member
    · rw [stream] at datagram
      exact absurd datagram (by decide)

/-! ### Command lines -/

/-- A kernel with one descriptor to give. -/
def plainKernel : Kernel where
  socket _ := 3
  setsockopt _ tv := if tv.Normalised then 0 else -1

theorem plainKernel_checksTimeouts : plainKernel.ChecksTimeouts := by
  intro _ tv
  show (if tv.Normalised then (0 : Int) else -1) = -1 ↔ ¬ tv.Normalised
  split
  next normalised => exact iff_of_false (by decide) (not_not.mpr normalised)
  next long => exact iff_of_true rfl long

/-- A tenth of a second and five retransmissions; the first `-d` is not the last one. -/
def heldOptions : List Opt :=
  [.t (bytes "udp"), .s (bytes "localhost"), .d (bytes "250"), .d (bytes "100"), .r (bytes "5")]

theorem timing_held :
    TimingAsGiven plainKernel heldOptions ⟨bytes "localhost", bytes "4567", 100, 5, SOCK_DGRAM⟩ := by
  have taken := timing_iff plainKernel_checksTimeouts (show parseArgs heldOptions =
    .ok ⟨bytes "localhost", bytes "4567", 100, 5, SOCK_DGRAM⟩ by decide +kernel)
  refine (taken.mpr (Or.inr (Or.inr (Or.inr ⟨?_, ?_⟩)))).resolve_left ?_
  · intro v given
    cases (show some 100 = some v from given)
    decide
  · intro r given
    cases (show some 5 = some r from given)
    decide
  · rintro ⟨n, error⟩
    cases error

/-- A timeout beyond 16 bits and no retransmissions. -/
def truncatedOptions : List Opt :=
  [.t (bytes "udp"), .s (bytes "localhost"), .d (bytes "65546"), .r (bytes "0")]

/-- **A timeout beyond 16 bits** becomes 10 ms, and 0 retransmissions become 3. -/
theorem timing_truncated :
    parseArgs truncatedOptions = .ok ⟨bytes "localhost", bytes "4567", 10, 3, SOCK_DGRAM⟩ ∧
    (ConnectionInfo.socket plainKernel
      ⟨bytes "localhost", bytes "4567", 10, 3, SOCK_DGRAM⟩).passed = [⟨0, 10000⟩] ∧
    ¬ ((ConnectionInfo.socket plainKernel
        ⟨bytes "localhost", bytes "4567", 10, 3, SOCK_DGRAM⟩).Rejected ∨
      TimingAsGiven plainKernel truncatedOptions
        ⟨bytes "localhost", bytes "4567", 10, 3, SOCK_DGRAM⟩) := by
  refine ⟨by decide +kernel, by decide +kernel, ?_⟩
  rintro (⟨n, error⟩ | asGiven)
  · cases error
  · have total := (asGiven.timeout 65546 (by decide +kernel) ⟨0, 10000⟩ (by decide +kernel)).2
    exact absurd total (by decide)

end Ipk24Chat
