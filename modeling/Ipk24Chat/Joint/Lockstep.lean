/-
**The two clients side by side.**

One user types the same lines into both clients, and one server sends both the same messages: to the
TCP client as lines, to the UDP client as datagrams, where a channel confirms what the client sends at
once. `Agrees` says that behind an event both clients are in the same state, have sent the same letters
and have, or have not, ended with the same status.

`lockstep`: they agree in every run whose events are `InStep`. `out_of_step` is a run that is not: a BYE
in OPEN_STATE is a success for the one and a failure for the other.
-/

import Ipk24Chat.Joint.TcpTurns
import Ipk24Chat.Joint.UdpTurns
import Ipk24Chat.Tcp.Grammar
import Ipk24Chat.Udp.Malformed

namespace Ipk24Chat

open Reactive TCPClient

/-! ### Formats -/

/-- The format of a message; none fits a malformed one. -/
def Incoming.Fits (format : MsgType → Prop) : Incoming → Prop
  | .malformed => ∀ type, ¬ format type
  | m => format m.type

theorem Incoming.fits_iff {format : MsgType → Prop} {m : Incoming} (other : m ≠ .malformed) :
    m.Fits format ↔ format m.type := by
  cases m with
  | malformed => exact absurd rfl other
  | _ => exact Iff.rfl

/-- What is not expected before the session is open. -/
def Incoming.Early (m : Incoming) : Prop := m = .msg ∨ m = .bye ∨ m = .malformed

/-- Two messages that a state answers alike. -/
def Alike (state : FsmState) (m m' : Incoming) : Prop :=
  m = m' ∨ state = .startState ∨ (state = .authState ∧ m.Early ∧ m'.Early)

theorem Dialogue.hear_early {d : Dialogue} (auth : d.state = .authState) {m : Incoming}
    (early : m.Early) : d.hear m = d.reject := by
  rcases early with msg | bye | rfl
  · exact hear_auth auth (Or.inl msg)
  · exact hear_auth auth (Or.inr bye)
  · exact hear_malformed d

theorem Dialogue.hear_alike {d : Dialogue} {m m' : Incoming} (alike : Alike d.state m m') :
    d.hear m = d.hear m' := by
  rcases alike with rfl | start | ⟨auth, early, early'⟩
  · rfl
  · rw [hear_start start, hear_start start]
  · rw [hear_early auth early, hear_early auth early']

namespace UDPClient

/-- A cut leaves the front of a datagram as it is. -/
theorem getD_take {d : Str} {i n : Nat} (inside : i < n) : (d.take n).getD i 0 = d.getD i 0 := by
  simp [List.getD, inside]

theorem kind_take (d : Str) : kind (d.take BUFFER_SIZE) = kind d := by
  have length : (d.take BUFFER_SIZE).length < 3 ↔ d.length < 3 := by
    rw [List.length_take, BUFFER_SIZE]
    omega
  have first : (d.take BUFFER_SIZE).getD 0 0 = d.getD 0 0 := getD_take (by decide)
  simp only [kind, length, first]

/-- The kind of a datagram of at least three bytes. -/
theorem kind_of_code {d : Str} {k : Kind} (known : k ≠ .invalid) (long : 3 ≤ d.length)
    (code : d.getD 0 0 = k.code) : kind d = k := by
  unfold kind
  rw [if_neg (by omega), code]
  cases k with
  | invalid => exact absurd rfl known
  | _ => rfl

/-- **What the client looks at** is as the format says. -/
theorem looks_of_fits {m : Incoming} {d : Str} (fits : m.Fits (DatagramGrammar · d)) :
    Looks (d.take BUFFER_SIZE) m := by
  have cut {n : Nat} (room : n ≤ BUFFER_SIZE) (long : n ≤ d.length) :
      n ≤ (d.take BUFFER_SIZE).length := by
    rw [List.length_take]
    omega
  cases m with
  | reply ok =>
    obtain ⟨code, text, result⟩ : d.getD 0 0 = UDP_REPLY ∧ Text (d.drop 6) ∧
        d.getD 3 0 = if ok then 1 else 0 := by
      cases ok with
      | true => exact ⟨fits.1.1, fits.1.2, fits.2⟩
      | false => exact ⟨fits.1.1, fits.1.2, fits.2⟩
    have long := Text.length text
    have same : ok = decide ((d.take BUFFER_SIZE).getD 3 0 ≠ 0) := by
      rw [getD_take (by decide), result]
      cases ok <;> decide
    rw [same]
    refine .reply ?_ (cut (by decide) long)
    rw [kind_take]
    exact kind_of_code (by decide) (by omega) code
  | msg =>
    have long := fits.2.length
    refine .msg ?_ (cut (by decide) long)
    rw [kind_take]
    exact kind_of_code (by decide) (by omega) fits.1
  | err =>
    have long := fits.2.length
    refine .err ?_
    rw [kind_take]
    exact kind_of_code (by decide) (by omega) fits.1
  | bye =>
    refine .bye ?_
    rw [kind_take]
    exact kind_of_code (by decide) fits.2 fits.1
  | malformed =>
    refine .malformed ?_ ?_
    · rw [kind_take]
      intro confirm
      exact fits .confirm ⟨getD_of_kind confirm (by decide), three_le_of_kind (by simp [confirm])⟩
    · rw [kind_take]
      intro bye
      exact fits .bye ⟨getD_of_kind bye (by decide), three_le_of_kind (by simp [bye])⟩

end UDPClient

namespace Joint

/-! ### The system -/

/-- A message of the server, as either client receives it. -/
structure Mail where
  what : Incoming
  /-- The bytes on the TCP stream. -/
  line : Str
  /-- The port the datagram comes from. -/
  sender : UInt16
  datagram : Str
  /-- What `poll` reports for stdin meanwhile. -/
  stdin : Revents

/-- The datagram as it is received, cut at the size of the buffer. -/
def Mail.received (m : Mail) : Str := m.datagram.take BUFFER_SIZE

/-- A line is offered to both clients. One that does not look at stdin does not read it: the event
leaves it as it is, and the line is offered again. -/
inductive Event
  | line (text : Str)
  | mail (m : Mail)

/-- The clients, and the id of the request that the server has not answered. -/
structure State where
  tcp : TCPClient.State
  udp : UDPClient.State
  request : Option UInt16

/-- The effects of the TCP client and those of the UDP client. -/
abbrev Effects := List (Effect Unit) × List (Effect UInt16)

def tcpEvents (s : TCPClient.State) : Event → List TCPClient.Event
  | .line text => TCPClient.lineEvents s text
  | .mail m => TCPClient.messageEvents s m.stdin m.line

def udpEvents (s : UDPClient.State) : Event → List UDPClient.Event
  | .line text => UDPClient.lineEvents s text
  | .mail m => UDPClient.messageEvents s m.stdin m.sender m.datagram

/-- The request that is not answered behind an event. -/
def unanswered (request : Option UInt16) (out : List (Effect UInt16)) : Event → Option UInt16
  | .line _ => (UDPClient.requestsIn out).getLast?.or request
  | .mail m => m.what.owed request

/-- Both clients make their way to the next blocking call that the event does not answer. -/
def step (port server : UInt16) (j : State) (e : Event) : Option (State × List Effects) :=
  match TCPClient.machine.driven j.tcp (tcpEvents j.tcp e),
    UDPClient.exchange port server j.udp (udpEvents j.udp e) with
  | some (tcp, sent), some (udp, sent') =>
    some (⟨tcp, udp, unanswered j.request sent' e⟩, [(sent, sent')])
  | _, _ => none

/-- Both clients, with a server that sends CONFIRMs from the port `server`. -/
def machine (port server : UInt16) : Machine State Event Effects where
  init j := TCPClient.machine.init j.tcp ∧ (UDPClient.machine port).init j.udp ∧ j.request = none
  step := step port server

/-! ### The events -/

/-- Both the line and the datagram carry the message. -/
structure Mail.Carries (m : Mail) : Prop where
  ends : crlf <:+ m.line
  first : ¬ crlf <:+: m.line.dropLast
  line : m.what.Fits (Grammar · m.line)
  datagram : m.what.Fits (DatagramGrammar · m.datagram)

/-- The server sends well-formed messages with new ids, and replies to the outstanding request. -/
def Delivers (j : State) : Event → Prop
  | .line _ => True
  | .mail m => m.Carries ∧ ¬ j.udp.client.Seen m.received ∧
      ∀ ok, m.what = .reply ok → j.request = some (UDPClient.replyRef m.received)

/-- A message that both clients take as the dialogue says. -/
structure Mail.Regular (j : State) (m : Mail) : Prop where
  /-- The TCP client is not blocked on stdin. -/
  listens : j.tcp.control ≠ .getline
  fits : m.line.length ≤ BUFFER_SIZE
  /-- The TCP decoder takes the line for the message, or for one that is answered in the same way. -/
  read : ∃ heard : Incoming, heard.Fits (Accepts m.line) ∧
    Alike j.udp.client.clientState heard m.what
  nonempty : m.datagram ≠ []
  follows : ¬ UDPClient.Strays j.udp.client.clientState m.what m.received
  confirmable : j.udp.client.Confirmable (j.udp.client.dialogue.hear m.what)

/-- **The condition on an event**, while the clients run: a line that is read is not `Unsendable` in
OPEN_STATE, and a message is regular. -/
def InStep (j : State) (e : Event) : Prop :=
  j.udp.control.ended = none → match e with
    | .line text => j.udp.client.replyMsgSent = false →
        ¬ (j.udp.client.clientState = .openState ∧ Unsendable text)
    | .mail m => m.Regular j

/-- **The clients agree** behind an event. -/
structure Agrees (t : Transition State Event Effects) : Prop where
  state : t.after.tcp.client.clientState = t.after.udp.client.clientState
  sent : ∀ o ∈ t.out, ∃ letters, List.Forall₂ LineOf letters (TCPClient.sentIn o.1) ∧
    List.Forall₂ DatagramOf letters (UDPClient.numberedIn o.2)
  ended : t.after.tcp.control.ended = t.after.udp.control.ended.map some

/-! ### Lockstep -/

/-- Both clients wait for the next event. -/
structure Talking (j : State) : Prop where
  tcp : j.tcp.control = .poll ∨ (j.tcp.control = .getline ∧ j.tcp.client.replyMsgSent = false)
  udp : j.udp.control = .poll
  quiet : j.udp.client.confirmMsgSent = false
  owed : j.udp.client.Owed j.request

/-- Both clients have ended. -/
structure Gone (ret : ExitCode) (j : State) : Prop where
  tcp : j.tcp.control = .exited ret
  udp : j.udp.control = .exited ret

/-- **The clients are in lockstep.** -/
structure Matched (j : State) : Prop where
  reached : Reachable TCPClient.machine j.tcp
  same : j.tcp.client.dialogue = j.udp.client.dialogue
  phase : Talking j ∨ ∃ ret, Gone ret j

theorem Matched.start {port server : UInt16} {j : State} (initial : (machine port server).init j) :
    Matched j := by
  obtain ⟨tcp, ⟨limit, revents, udp⟩, none⟩ := initial
  refine ⟨.start tcp, ?_, Or.inl ?_⟩
  · obtain ⟨revents', tcp⟩ := tcp
    rw [tcp, udp]
    rfl
  · obtain ⟨revents', tcp⟩ := tcp
    refine ⟨Or.inl (by rw [tcp]; rfl), by rw [udp]; rfl, by rw [udp]; rfl, ?_⟩
    rw [udp, none]
    exact ⟨rfl, rfl⟩

theorem control_of_ended {control : TCPClient.Control} {ret : ExitCode}
    (ended : control.ended = some (some ret)) : control = .exited ret := by
  cases control with
  | exited ret' => rw [Option.some.inj (Option.some.inj ended)]
  | _ => cases ended

theorem udp_control_of_ended {control : UDPClient.Control} {ret : ExitCode}
    (ended : control.ended = some ret) : control = .exited ret := by
  cases control with
  | exited ret' => rw [Option.some.inj ended]
  | _ => cases ended

/-- **One turn**, made by both. -/
theorem matched_of_made {t : Turn} {request : Option UInt16} {j : State} {e : Event}
    {tcp : TCPClient.State} {udp : UDPClient.State} {sent : List (Effect Unit)}
    {sent' : List (Effect UInt16)} (reached : Reachable TCPClient.machine tcp)
    (one : TCPClient.Made t tcp sent) (other : UDPClient.Made t request udp sent') :
    Matched ⟨tcp, udp, request⟩ ∧ Agrees ⟨j, e, ⟨tcp, udp, request⟩, [(sent, sent')]⟩ := by
  have same := one.dialogue.trans other.dialogue.symm
  refine ⟨⟨reached, same, ?_⟩, congrArg Dialogue.state same, fun o member => ?_, ?_⟩
  · cases ended : t.ended with
    | none =>
      obtain ⟨polls, quiet, owed⟩ := other.rests ended
      exact Or.inl ⟨one.rests ended, polls, quiet, owed⟩
    | some ret =>
      have left := one.ended
      have left' := other.ended
      rw [ended] at left left'
      exact Or.inr ⟨ret, control_of_ended left, udp_control_of_ended left'⟩
  · rw [List.mem_singleton.mp member]
    exact ⟨t.sent, one.sent, other.sent⟩
  · show tcp.control.ended = udp.control.ended.map some
    rw [one.ended, other.ended]

/-- An event that neither client listens to. -/
theorem step_unheard (port server : UInt16) {j : State} {e : Event} (one : tcpEvents j.tcp e = [])
    (other : udpEvents j.udp e = []) : step port server j e =
      some (⟨j.tcp, j.udp, unanswered j.request [] e⟩, [([], [])]) := by
  unfold step
  rw [one, other]
  rfl

theorem step_both {port server : UInt16} {j : State} {e : Event} {tcp : TCPClient.State}
    {udp : UDPClient.State} {sent : List (Effect Unit)} {sent' : List (Effect UInt16)}
    (one : Drive TCPClient.machine j.tcp (tcpEvents j.tcp e) tcp sent)
    (other : UDPClient.exchange port server j.udp (udpEvents j.udp e) = some (udp, sent')) :
    step port server j e =
      some (⟨tcp, udp, unanswered j.request sent' e⟩, [(sent, sent')]) := by
  unfold step
  rw [one.driven, other]

/-- Nothing changes. -/
theorem agrees_unheard {j : State} (matched : Matched j) (e : Event) (request : Option UInt16) :
    Agrees ⟨j, e, ⟨j.tcp, j.udp, request⟩, [([], [])]⟩ := by
  refine ⟨congrArg Dialogue.state matched.same, fun o member => ?_, ?_⟩
  · rw [List.mem_singleton.mp member]
    exact ⟨[], .nil, .nil⟩
  · show j.tcp.control.ended = j.udp.control.ended.map some
    rcases matched.phase with talking | ⟨ret, tcp, udp⟩
    · rw [talking.udp]
      rcases talking.tcp with polls | ⟨reads, _⟩
      · rw [polls]
        rfl
      · rw [reads]
        rfl
    · rw [tcp, udp]
      rfl

/-- **An event behind the end** is not heard. -/
theorem Matched.gone (port server : UInt16) {j : State} (matched : Matched j) {ret : ExitCode}
    (gone : Gone ret j) (e : Event) : ∃ j' out,
      step port server j e = some (j', out) ∧ Matched j' ∧ Agrees ⟨j, e, j', out⟩ := by
  have unheard := step_unheard port server (j := j) (e := e)
    (by cases e <;> simp only [tcpEvents, lineEvents, messageEvents, gone.tcp])
    (by cases e <;> simp only [udpEvents, UDPClient.lineEvents, UDPClient.messageEvents, gone.udp])
  exact ⟨_, _, unheard, ⟨matched.reached, matched.same, Or.inr ⟨ret, gone.tcp, gone.udp⟩⟩,
    agrees_unheard matched e _⟩

/-- A request has not been answered as long as the dialogue waits. -/
theorem Matched.awaited {j : State} (matched : Matched j) (talking : Talking j) :
    j.tcp.client.replyMsgSent = j.request.isSome :=
  (congrArg Dialogue.awaited matched.same).trans talking.owed.awaited

/-- **A line of the user.** -/
theorem Matched.line (port server : UInt16) {j : State} (matched : Matched j)
    (talking : Talking j) {text : Str} (met : InStep j (.line text)) : ∃ j' out,
      step port server j (.line text) = some (j', out) ∧ Matched j' ∧
        Agrees ⟨j, .line text, j', out⟩ := by
  have awaited := matched.awaited talking
  cases request : j.request with
  | some id =>
    rw [request] at awaited
    have tcp : tcpEvents j.tcp (.line text) = [] := by
      have polls : j.tcp.control = .poll := by
        rcases talking.tcp with polls | ⟨_, idle⟩
        · exact polls
        · cases awaited.symm.trans idle
      simp [tcpEvents, lineEvents, polls, pollCount_of_awaited awaited]
    have udp : udpEvents j.udp (.line text) = [] := by
      have count : UDPClient.pollCount j.udp.client = 1 := by
        have set : j.udp.client.replyMsgSent = true := by
          rw [talking.owed.awaited, request]
          rfl
        rw [UDPClient.pollCount, set]
        rfl
      simp [udpEvents, UDPClient.lineEvents, talking.udp, count]
    have unheard := step_unheard port server tcp udp
    exact ⟨_, _, unheard, ⟨matched.reached, matched.same, Or.inl
      ⟨talking.tcp, talking.udp, talking.quiet, talking.owed⟩⟩, agrees_unheard matched _ _⟩
  | none =>
    rw [request] at awaited
    have owed : j.udp.client.Owed none := request ▸ talking.owed
    have runs : j.udp.control.ended = none := by
      rw [talking.udp]
      rfl
    obtain ⟨tcp, sent, drive, one⟩ := line_made (wellNamed_reachable matched.reached) awaited
      (talking.tcp.imp_right And.left) text
    obtain ⟨udp, sent', exchanged, other⟩ := UDPClient.line_made port talking.udp
      talking.quiet owed server (met runs owed.awaited)
    rw [← matched.same] at other
    have made := step_both (e := .line text) drive exchanged
    have unanswered : unanswered j.request sent' (.line text) =
        (UDPClient.requestsIn sent').getLast? := by
      rw [Joint.unanswered, request, Option.or_none]
    rw [unanswered] at made
    exact ⟨_, _, made, matched_of_made (matched.reached.drive drive) one other⟩

/-- A message that fits is decoded as what it is. -/
theorem decoded_of_fits {m : Incoming} {line : Str} (framed : Framed line)
    (fits : m.Fits (Accepts line)) :
    ∃ r lines, decoded line = .ok (r, lines) ∧ r.type = m.type := by
  obtain ⟨r, lines, decode, decided⟩ := decoded_accepts framed
  refine ⟨r, lines, decode, ?_⟩
  rcases eq_or_ne m .malformed with rfl | other
  · rcases decided with ⟨_, accepts⟩ | ⟨invalid, _⟩
    · exact absurd accepts (fits r.type)
    · exact invalid
  · have own : Accepts line m.type := (Incoming.fits_iff other).mp fits
    rcases decided with ⟨_, accepts⟩ | ⟨_, never⟩
    · exact accepts.unique own
    · exact absurd own (never m.type)

/-- **A message of the server.** -/
theorem Matched.mail (port server : UInt16) {j : State} (matched : Matched j)
    (talking : Talking j) {m : Mail} (delivered : Delivers j (.mail m)) (met : InStep j (.mail m)) : ∃ j' out,
      step port server j (.mail m) = some (j', out) ∧ Matched j' ∧
        Agrees ⟨j, .mail m, j', out⟩ := by
  obtain ⟨carries, fresh, answers⟩ := delivered
  have regular : m.Regular j := by
    refine met ?_
    rw [talking.udp]
    rfl
  have polls : j.tcp.control = .poll :=
    talking.tcp.resolve_right fun reads => regular.listens reads.1
  have framed : Framed m.line := ⟨carries.ends, carries.first, regular.fits⟩
  have state : j.udp.client.clientState = j.tcp.client.clientState :=
    (congrArg Dialogue.state matched.same).symm
  obtain ⟨heard, read, alike⟩ := regular.read
  rw [state] at alike
  obtain ⟨r, lines, decode, type⟩ := decoded_of_fits framed read
  have awaits : j.tcp.client.clientState ≠ .startState → ∀ ok, heard = .reply ok →
      j.tcp.client.replyMsgSent = true := by
    rintro begun ok rfl
    rcases alike with same | start | ⟨_, msg | bye | malformed, _⟩
    · rw [matched.awaited talking, answers ok same.symm]
      rfl
    · exact absurd start begun
    · cases msg
    · cases bye
    · cases malformed
  obtain ⟨tcp, sent, drive, one⟩ := message_made (wellNamed_reachable matched.reached) polls framed
    decode type awaits m.stdin
  rw [Dialogue.hear_alike alike] at one
  obtain ⟨udp, sent', exchanged, other⟩ := UDPClient.message_made port talking.udp
    talking.quiet talking.owed server regular.nonempty
    ⟨UDPClient.looks_of_fits carries.datagram, fresh, answers, regular.follows, regular.confirmable⟩ m.stdin m.sender
  rw [← matched.same] at other
  exact ⟨_, _, step_both (e := .mail m) drive exchanged,
    matched_of_made (matched.reached.drive drive) one other⟩

/-- **One event** that is in step. -/
theorem Matched.step (port server : UInt16) {j : State} (matched : Matched j) {e : Event}
    (delivered : Delivers j e) (met : InStep j e) : ∃ j' out,
      step port server j e = some (j', out) ∧ Matched j' ∧ Agrees ⟨j, e, j', out⟩ := by
  rcases matched.phase with talking | ⟨ret, gone⟩
  · cases e with
    | line text => exact matched.line port server talking met
    | mail m => exact matched.mail port server talking delivered met
  · exact matched.gone port server gone e

/-- A transition of a run whose event is delivered and in step. -/
def Proper (t : Transition State Event Effects) : Prop :=
  Delivers t.before t.input ∧ InStep t.before t.input

/-- **The clients stay in lockstep.** -/
theorem matched_run {port server : UInt16} {j : State}
    {history : List (Transition State Event Effects)} (run : Run (machine port server) history j)
    (proper : ∀ t ∈ history, Proper t) : Matched j := by
  refine run.invariant_of Proper Matched (fun _ => Matched.start) ?_ proper
  rintro j e j' out matched made ⟨delivered, met⟩
  obtain ⟨j'', out', made', matched', _⟩ := matched.step port server delivered met
  obtain ⟨rfl, _⟩ := Prod.mk.inj (Option.some.inj (made.symm.trans made'))
  exact matched'

/-- **Both clients implement one state machine**: in every run of delivered events that are in step,
the clients agree behind every event, and there is a step for every further one. -/
theorem lockstep {port server : UInt16} {j : State}
    {history : List (Transition State Event Effects)} (run : Run (machine port server) history j)
    (delivered : ∀ t ∈ history, Delivers t.before t.input)
    (met : ∀ t ∈ history, InStep t.before t.input) :
    (∀ t ∈ history, Agrees t) ∧ ∀ e, Delivers j e → InStep j e →
      ∃ j' out, (machine port server).step j e = some (j', out) ∧ Agrees ⟨j, e, j', out⟩ := by
  have proper : ∀ t ∈ history, Proper t := fun t member => ⟨delivered t member, met t member⟩
  constructor
  · intro t member
    obtain ⟨earlier, later, rfl⟩ := List.append_of_mem member
    obtain ⟨before, made, _⟩ := run.transition
    have matched := matched_run before fun t' inside => proper t' (List.mem_append_left _ inside)
    obtain ⟨j', out, made', _, agrees⟩ := matched.step port server
      (proper t member).1 (proper t member).2
    obtain ⟨rfl, rfl⟩ := Prod.mk.inj (Option.some.inj (made.symm.trans made'))
    exact agrees
  · intro e delivers inStep
    obtain ⟨j', out, made, _, agrees⟩ := (matched_run run proper).step port server delivers inStep
    exact ⟨j', out, made, agrees⟩

/-! ### Sessions -/

/-- Both clients have just been started. -/
def booted : State := ⟨TCPClient.booted, UDPClient.booted, none⟩

def authLine : Event := .line (bytes "/auth u s d")

/-- The request is granted. -/
def granted : Mail :=
  ⟨.reply true, bytes "REPLY OK IS hi" ++ crlf, 5000, UDPClient.replyDatagram 0 1 0, ⟨false, false⟩⟩

def failed : Mail :=
  ⟨.err, bytes "ERR FROM bob IS hi" ++ crlf, 5000, UDPClient.hiFromBob UDP_ERR 1, ⟨false, false⟩⟩

def farewell : Mail :=
  ⟨.bye, bytes "BYE" ++ crlf, 5000, [UDP_BYE] ++ idBytes 1, ⟨false, false⟩⟩

/-- Behind the AUTH. -/
def authed : State := ((machine 4567 4567).move booted authLine).1

/-- In OPEN_STATE. -/
def signedIn : State := ((machine 4567 4567).move authed (.mail granted)).1

theorem granted_carries : granted.Carries where
  ends := by decide +kernel
  first := by decide +kernel
  line := ⟨bytes "REPLY", bytes "OK", bytes "IS", bytes "hi", by decide +kernel, by decide +kernel,
    by decide +kernel, by decide +kernel, by decide +kernel⟩
  datagram := ⟨⟨by decide +kernel, bytes "hi", [], ⟨by decide, by decide⟩, by decide +kernel⟩,
    by decide +kernel⟩

theorem failed_carries : failed.Carries where
  ends := by decide +kernel
  first := by decide +kernel
  line := ⟨⟨bytes "ERR", bytes "FROM", bytes "IS", by decide +kernel, by decide +kernel,
    by decide +kernel⟩, bytes "bob", bytes "hi", ⟨by decide +kernel, by decide +kernel⟩,
    by decide +kernel, by decide +kernel⟩
  datagram := ⟨by decide +kernel, bytes "bob", bytes "hi", bytes "hi" ++ [0], [],
    ⟨⟨by decide, by decide⟩, by decide +kernel⟩, ⟨by decide, by decide⟩, by decide +kernel⟩

theorem farewell_carries : farewell.Carries where
  ends := by decide +kernel
  first := by decide +kernel
  line := ⟨bytes "BYE", by decide +kernel, by decide +kernel⟩
  datagram := ⟨by decide +kernel, by decide +kernel⟩

/-- A REPLY does not stray, and ends nothing. -/
theorem regular_of_reply {j : State} {m : Mail} {ok : Bool} (reply : m.what = .reply ok)
    (begun : j.udp.client.clientState ≠ .startState) (listens : j.tcp.control ≠ .getline)
    (fits : m.line.length ≤ BUFFER_SIZE) (read : m.what.Fits (Accepts m.line))
    (nonempty : m.datagram ≠ []) : m.Regular j := by
  refine ⟨listens, fits, ⟨m.what, read, Or.inl rfl⟩, nonempty, ?_, fun ends => absurd ?_ ends⟩
  · rw [reply]
    rintro (⟨other, _⟩ | ⟨other, _⟩ | ⟨other, _⟩)
    · cases other
    · cases other
    · cases other
  · rw [reply]
    unfold Dialogue.hear UDPClient.dialogue
    cases state : j.udp.client.clientState with
    | startState => exact absurd state begun
    | authState => rfl
    | openState => rfl

/-- The run that signs in. -/
theorem signIn_run : ∃ history, Run (machine 4567 4567) history signedIn ∧
    (∀ t ∈ history, Delivers t.before t.input) ∧ ∀ t ∈ history, InStep t.before t.input := by
  have start : Run (machine 4567 4567) [] booted :=
    .start ⟨TCPClient.booted_init, UDPClient.booted_init, rfl⟩
  have run := (start.move authLine (by decide +kernel)).move (.mail granted) (by decide +kernel)
  refine ⟨_, run, ?_, ?_⟩
  · simp only [List.nil_append, List.cons_append, List.forall_mem_cons, List.not_mem_nil,
      false_imp_iff, implies_true, and_true]
    exact ⟨trivial, granted_carries, by decide +kernel, fun _ _ => by decide +kernel⟩
  · simp only [List.nil_append, List.cons_append, List.forall_mem_cons, List.not_mem_nil,
      false_imp_iff, implies_true, and_true]
    have early : booted.udp.client.clientState ≠ .openState := by decide +kernel
    have accepted : Accepts granted.line .replyOk :=
      ⟨by decide +kernel, by decide +kernel, by decide +kernel, by decide +kernel⟩
    exact ⟨fun _ _ closed => early closed.1, fun _ => regular_of_reply rfl (by decide +kernel)
      (by decide +kernel) (by decide +kernel) accepted (by decide +kernel)⟩

/-- A sign-in, a message, and an ERR: both clients fail. -/
theorem lockstep_failed : ∃ history j, Run (machine 4567 4567) history j ∧
    j.udp.control = .exited .failure ∧ ∀ t ∈ history, Agrees t := by
  obtain ⟨history, run, delivered, met⟩ := signIn_run
  have whole := (run.move (.line (bytes "hello")) (by decide +kernel)).move (.mail failed)
    (by decide +kernel)
  refine ⟨_, _, whole, by decide +kernel, (lockstep whole ?_ ?_).1⟩
  · rw [List.forall_mem_append, List.forall_mem_append, List.forall_mem_singleton,
      List.forall_mem_singleton]
    exact ⟨⟨delivered, trivial⟩, failed_carries, by decide +kernel, fun _ reply => by cases reply⟩
  · rw [List.forall_mem_append, List.forall_mem_append, List.forall_mem_singleton,
      List.forall_mem_singleton]
    have sendable : ¬ Unsendable (bytes "hello") := by
      rw [unsendable_iff]
      decide +kernel
    have accepted : Accepts failed.line .err :=
      ⟨by decide +kernel, by decide +kernel, by decide +kernel⟩
    refine ⟨⟨met, fun _ _ closed => sendable closed.2⟩, fun _ => ⟨by decide +kernel,
      by decide +kernel, ⟨.err, accepted, Or.inl rfl⟩, by decide +kernel, ?_,
      fun _ => by decide +kernel⟩⟩
    rintro (⟨_, start⟩ | ⟨other, _⟩ | ⟨other, _⟩)
    · exact absurd start (by decide +kernel)
    · cases other
    · cases other

/-- **A BYE in OPEN_STATE** is a success for the TCP client, and a failure for the UDP client. -/
theorem out_of_step : ∃ history j, Run (machine 4567 4567) history j ∧
    (∀ t ∈ history, Delivers t.before t.input) ∧ j.tcp.control = .exited .success ∧
    j.udp.control = .exited .failure ∧ ¬ ∀ t ∈ history, Agrees t := by
  obtain ⟨history, run, delivered, _⟩ := signIn_run
  have whole := run.move (.mail farewell) (by decide +kernel)
  have tcp : ((machine 4567 4567).move signedIn (.mail farewell)).1.tcp.control =
      .exited .success := by
    decide +kernel
  have udp : ((machine 4567 4567).move signedIn (.mail farewell)).1.udp.control =
      .exited .failure := by
    decide +kernel
  refine ⟨_, _, whole, ?_, tcp, udp, fun agree => ?_⟩
  · rw [List.forall_mem_append, List.forall_mem_singleton]
    exact ⟨delivered, farewell_carries, by decide +kernel, fun _ reply => by cases reply⟩
  · have ended := (agree _ (List.mem_append_right _ (List.mem_singleton_self _))).ended
    rw [tcp, udp] at ended
    cases ended

end Joint

end Ipk24Chat
