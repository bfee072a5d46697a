/-
**What one step of the UDP client can do.**

`Calls` names the function that answers an event. `Lined` lists the outcomes of a line of the user and
`Moves` those of a step, the datagrams through `Handled`. `step_moves` is the inversion of the machine:
an invariant is proved by `cases` on it.
-/

import Ipk24Chat.Udp.Handling
import Ipk24Chat.Protocol.Admission

namespace Ipk24Chat

namespace UDPClient

open Reactive

/-! ### Lines -/

/-- The state in which a message may be sent, whether it is a request, and the state it leads to. -/
def Sendable (c : UDPClient) (m : UDPMessage) (request : Bool) (next : FsmState) : Prop :=
  (c.clientState ≠ .openState ∧ m.type = .auth ∧ request = true ∧ next = .authState) ∨
    (c.clientState = .openState ∧ m.type ≠ .auth ∧ request = decide (m.type = .join) ∧
      next = .openState)

/-- The client behind a line that is not sent. -/
def named (c : UDPClient) (dname : Str) (msgCounter : Nat) : UDPClient :=
  { c with dname := dname, msgCounter := msgCounter }

/-- **The outcomes of a line**: nothing is sent, or the message `m` built from it is. -/
inductive Lined (c : UDPClient) (m : UDPMessage) : Outcome → Prop
  | kept (dname : Str) (msgCounter : Nat) (lines : List Output) :
      Lined c m (Outcome.after (printed lines) (.done (c.named dname msgCounter)))
  | sent (dname : Str) (request : Bool) (next : FsmState) (lines : List Output) :
      c.Sendable m request next →
      Lined c m (Outcome.after (printed lines)
        ((c.named dname (c.msgCounter + 1)).sendUserMsg m request next))

/-- A message that is ready is sent when the state admits it, and refused otherwise. -/
theorem dispatch_eq (c : UDPClient) (m : UDPMessage) : c.dispatch m =
    if Admits c.clientState m.type then
      (c.named c.dname (c.msgCounter + 1)).sendUserMsg m (isRequest m.type) c.clientState.sent
    else Outcome.after (printed (refusal c.clientState c.replyMsgSent))
      (.done (c.named c.dname (c.msgCounter + 1))) := by
  obtain ⟨⟨dname, state, awaited, counter⟩, port, limit, serverPort, flag, change, confirms, replies,
    seen⟩ := c
  obtain ⟨⟨type, ready, name, message, buffer⟩, udpBuffer, id, ref⟩ := m
  cases state with
  | startState => cases type <;> rfl
  | authState => cases type <;> cases awaited <;> rfl
  | openState => cases type <;> cases awaited <;> rfl

/-- What becomes of a message that is ready. -/
theorem dispatch_lined (c : UDPClient) (m : UDPMessage) : Lined c m (c.dispatch m) := by
  rw [dispatch_eq]
  split
  · rename_i admits
    exact .sent c.dname (isRequest m.type) c.clientState.sent [] (sendable_of_admits admits)
  · exact .kept c.dname (c.msgCounter + 1) (refusal c.clientState c.replyMsgSent)

theorem Lined.after {c : UDPClient} {m : UDPMessage} {o : Outcome} (lined : Lined c m o)
    (lines : List Output) : Lined c m (o.after (printed lines)) := by
  cases lined with
  | kept dname counter more =>
    rw [Outcome.after_after, printed, printed, ← List.map_append]
    exact .kept dname counter (lines ++ more)
  | sent dname request next more sendable =>
    rw [Outcome.after_after, printed, printed, ← List.map_append]
    exact .sent dname request next (lines ++ more) sendable

/-- A name set before the line is handled is a name in the outcome. -/
theorem Lined.of_named {c : UDPClient} {m : UDPMessage} {o : Outcome} {dname : Str}
    (lined : Lined (c.named dname c.msgCounter) m o) : Lined c m o := by
  cases lined with
  | kept later counter lines => exact .kept later counter lines
  | sent later request next lines sendable => exact .sent later request next lines sendable

/-- **A line of the user.** -/
theorem userLine_lined (c : UDPClient) (line : Str) :
    Lined c (c.userMsg line).1 (c.userLine line) := by
  unfold userLine
  by_cases empty : line = []
  · rw [if_pos empty]
    exact .kept c.dname c.msgCounter []
  rw [if_neg empty]
  refine Lined.after ?_ _
  have chosen : ∃ dname, (if (c.userMsg line).1.type = .auth ∨ (c.userMsg line).1.type = .rename then
      { c with dname := (c.userMsg line).1.displayName } else c) = c.named dname c.msgCounter := by
    split
    · exact ⟨_, rfl⟩
    · exact ⟨c.dname, rfl⟩
  obtain ⟨dname, chosen⟩ := chosen
  rw [chosen]
  split
  · exact (dispatch_lined _ _).of_named
  · exact .kept dname c.msgCounter []

/-! ### Steps -/

theorem Leaving.resume {c : UDPClient} {o : Outcome} (leaving : c.Leaving o) (s : State)
    (back : Control) : (s.resume back o).1.control.leaving = true := by
  obtain ⟨k, stopped, leaves⟩ := leaving.blocked
  simp only [State.resume, stopped, Option.getD_some, leaves]

theorem Leaving.blocked_ne {c : UDPClient} {o : Outcome} (leaving : c.Leaving o) :
    o.blocked ≠ none := by
  obtain ⟨k, stopped, _⟩ := leaving.blocked
  rw [stopped]
  exact Option.some_ne_none k

/-- A datagram makes the program leave, or its handling returns. -/
theorem Handled.leaving_or_returns {c : UDPClient} {d : Str} {o : Outcome} (handled : Handled c d o) :
    c.Leaving o ∨ o.blocked = none := by
  cases handled with
  | leaving _ _ leaving => exact Or.inl leaving
  | _ => exact Or.inr rfl

theorem State.resume_of_returns (s : State) {back : Control} {o : Outcome}
    (returns : o.blocked = none) : (s.resume back o).1.control = back := by
  simp only [State.resume, returns, Option.getD_none]

/-! ### The function that answers an event -/

section Answered

variable {s : State}

theorem step_polling (polling : s.control = .poll) (result : PollResult) :
    step s (.poll result) = some (pollStep s result) := by
  unfold step
  rw [polling]

theorem step_accepting (accepting : s.control = .acceptMsg) (r : Received) :
    step s (.recvfrom r) = some (acceptStep s r) := by
  unfold step
  rw [accepting]

theorem step_reading (reading : s.control = .getline) (line : Option Str) :
    step s (.getline line) = some (getlineStep s line) := by
  unfold step
  rw [reading]

theorem step_waiting {m : UDPMessage} {k : Nat} (waiting : s.control = .handleTimeout m k)
    (r : Received) : step s (.recvfrom r) = some (timeoutStep s m k r) := by
  unfold step
  rw [waiting]

theorem step_exit {k : Nat} {ret : ExitCode} (exits : s.control = .exitProgram k ret) (r : Received) :
    step s (.recvfrom r) = some (byeStep s k ret r) := by
  unfold step
  rw [exits]

theorem step_interrupted (free : s.control.interruptible = true) :
    step s .sigint = some (s.resume .poll s.client.gracefulExit) := if_pos free

end Answered

theorem Control.interruptible_of_staying {k : Control} (stays : k.leaving = false) :
    k.interruptible = true := by
  cases k with
  | exitProgram retryNumber ret => cases stays
  | exited ret => cases stays
  | _ => rfl

/-- **The function that answers an event**, by the place where the program waits for it. -/
inductive Calls (s : State) : Event → State → List (Effect UInt16) → Prop
  | gracefulExit {s' : State} {out : List (Effect UInt16)} : s.control.interruptible = true →
      s.resume .poll s.client.gracefulExit = (s', out) → Calls s .sigint s' out
  | pollStep {result : PollResult} {s' : State} {out : List (Effect UInt16)} : s.control = .poll →
      pollStep s result = (s', out) → Calls s (.poll result) s' out
  | acceptStep {r : Received} {s' : State} {out : List (Effect UInt16)} : s.control = .acceptMsg →
      acceptStep s r = (s', out) → Calls s (.recvfrom r) s' out
  | getlineStep {line : Option Str} {s' : State} {out : List (Effect UInt16)} : s.control = .getline →
      getlineStep s line = (s', out) → Calls s (.getline line) s' out
  | timeoutStep {m : UDPMessage} {k : Nat} {r : Received} {s' : State} {out : List (Effect UInt16)} :
      s.control = .handleTimeout m k → timeoutStep s m k r = (s', out) → Calls s (.recvfrom r) s' out
  | byeStep {k : Nat} {ret : ExitCode} {r : Received} {s' : State} {out : List (Effect UInt16)} :
      s.control = .exitProgram k ret → byeStep s k ret r = (s', out) → Calls s (.recvfrom r) s' out

theorem step_calls {s s' : State} {e : Event} {out : List (Effect UInt16)}
    (made : step s e = some (s', out)) : Calls s e s' out := by
  unfold step at made
  cases e with
  | sigint =>
    obtain ⟨free, made⟩ := Option.ite_none_right_eq_some.mp made
    exact .gracefulExit free (Option.some.inj made)
  | poll result =>
    cases control : s.control with
    | poll => exact .pollStep control (by simpa [control] using made)
    | _ => simp [control] at made
  | recvfrom r =>
    cases control : s.control with
    | acceptMsg => exact .acceptStep control (by simpa [control] using made)
    | handleTimeout m k => exact .timeoutStep control (by simpa [control] using made)
    | exitProgram k ret => exact .byeStep control (by simpa [control] using made)
    | _ => simp [control] at made
  | getline line =>
    cases control : s.control with
    | getline => exact .getlineStep control (by simpa [control] using made)
    | _ => simp [control] at made

/-! ### Moves -/

/-- **The moves of the machine.** -/
inductive Moves (s : State) : Event → State → List (Effect UInt16) → Prop
  /-- The program begins to leave, without a datagram. -/
  | leave {e : Event} {o : Outcome} : (∀ r, e = .recvfrom r → r.bytesRx ≤ 0) → s.client.Leaving o →
      Moves s e (s.resume .poll o).1 o.effects
  | poll (socket stdin : Revents) : s.control = .poll →
      Moves s (.poll (.ready socket stdin)) (pollStep s (.ready socket stdin)).1 []
  /-- `accept_msg` has timed out. -/
  | idle (r : Received) : s.control = .acceptMsg → r.bytesRx ≤ 0 →
      Moves s (.recvfrom r) { s with control := .poll } (printed [.notice .timeoutApplied])
  /-- A datagram in the main loop. -/
  | accept (r : Received) {o : Outcome} : s.control = .acceptMsg → 0 < r.bytesRx →
      Handled { s.client with serverPort := r.port } r.buffer o →
      Moves s (.recvfrom r) (s.resume .poll o).1 o.effects
  | line (text : Str) {o : Outcome} : s.control = .getline →
      Lined s.client (s.client.userMsg text).1 o →
      Moves s (.getline (some text)) (s.resume .poll o).1 o.effects
  /-- `handle_timeout` sends the message again. -/
  | resend (m : UDPMessage) (k : Nat) (r : Received) : s.control = .handleTimeout m k →
      r.bytesRx ≤ 0 →
      Moves s (.recvfrom r) { s with control := .handleTimeout m (k + 1) } (s.client.sendMsg m)
  /-- `handle_timeout` returns after a socket error. -/
  | giveUp (m : UDPMessage) (k : Nat) (r : Received) : s.control = .handleTimeout m k →
      r.bytesRx ≤ 0 →
      Moves s (.recvfrom r) { s with control := .poll } (printed [.notice .noData])
  /-- The CONFIRM waited for. -/
  | awaited (m : UDPMessage) (k : Nat) (r : Received) : s.control = .handleTimeout m k →
      0 < r.bytesRx → s.client.Awaited m r.buffer →
      Moves s (.recvfrom r)
        { s with client := { s.client with confirmMsgSent := false }, control := .poll } []
  /-- Another datagram in the loop of `handle_timeout`. -/
  | receive (m : UDPMessage) (k : Nat) (r : Received) {o : Outcome} :
      s.control = .handleTimeout m k → 0 < r.bytesRx → ¬ s.client.Awaited m r.buffer →
      Handled s.client r.buffer o →
      Moves s (.recvfrom r) (s.resume (.handleTimeout m k) o).1 o.effects
  /-- The loop of `exit_program`. -/
  | bye (k : Nat) (ret : ExitCode) (r : Received) (control : Control) (notices : List Notice) :
      s.control = .exitProgram k ret → control.leaving = true →
      Moves s (.recvfrom r) { s with control := control } (printed (notices.map .notice))

theorem acceptStep_moves {s : State} (accepting : s.control = .acceptMsg) (r : Received) :
    Moves s (.recvfrom r) (acceptStep s r).1 (acceptStep s r).2 := by
  unfold acceptStep
  by_cases empty : r.bytesRx ≤ 0
  · rw [if_pos empty]
    split
    · exact .idle r accepting empty
    · refine .leave (fun other same => ?_) ((exitProgram_leaving _ _ _).after (.printed _ _))
      cases same
      exact empty
  · rw [if_neg empty]
    exact .accept r accepting (by omega) (receiveInMain_handled _ _)

theorem timeoutStep_moves {s : State} {m : UDPMessage} {k : Nat}
    (waiting : s.control = .handleTimeout m k) (r : Received) :
    Moves s (.recvfrom r) (timeoutStep s m k r).1 (timeoutStep s m k r).2 := by
  unfold timeoutStep
  by_cases empty : r.bytesRx ≤ 0
  · simp only [if_pos empty]
    split
    · split
      · refine .leave (fun other same => ?_) ((exitProgram_leaving _ _ _).after (.printed _ _))
        cases same
        exact empty
      · exact .resend m k r waiting empty
    · exact .giveUp m k r waiting empty
  · simp only [if_neg empty, receiveInTimeout_eq]
    by_cases awaited : s.client.Awaited m r.buffer
    · simp only [if_pos awaited]
      exact .awaited m k r waiting (by omega) awaited
    · simp only [if_neg awaited]
      exact .receive m k r waiting (by omega) awaited (handled_handled _ _)

/-- **A datagram in the loop of `exit_program`** is compared with the counter. -/
theorem byeStep_datagram (s : State) (k : Nat) (ret : ExitCode) {r : Received}
    (nonempty : 0 < r.bytesRx) : byeStep s k ret r =
      ({ s with control := if kind r.buffer = .confirm ∧ (msgId r.buffer).toNat = s.client.msgCounter then
          .exited ret else .exitProgram k ret }, printed ((classifiedNotices r.buffer).map .notice)) := by
  have some : ¬ r.bytesRx ≤ 0 := by omega
  have validated : (inboundMsg r.buffer).validateUniqueId r.buffer.length [] =
      classified { s.client with seenIds := [] } r.buffer := rfl
  have same : ((heard r.buffer).type = .confirm ∧
      (heard r.buffer).refMessageId.toNat = s.client.msgCounter) ↔
      kind r.buffer = .confirm ∧ (msgId r.buffer).toNat = s.client.msgCounter := by
    rw [heard_type, kind_eq_confirm_iff]
    refine and_congr_right fun confirm => ?_
    rw [heard_refMessageId confirm]
  unfold byeStep
  simp only [if_neg some, validated, classified_printed]
  simp only [classified_eq, same]
  split
  · rfl
  · rfl

/-- **The loop of `exit_program`** goes on or ends; it prints, and leaves the client alone. -/
theorem byeStep_spec (s : State) (k : Nat) (ret : ExitCode) (r : Received) :
    ∃ (control : Control) (notices : List Notice), control.LeavesWith ret ∧
      byeStep s k ret r = ({ s with control := control }, printed (notices.map .notice)) := by
  by_cases empty : r.bytesRx ≤ 0
  · simp only [byeStep, if_pos empty]
    split
    · split
      · exact ⟨.exited ret, [.maxTimeouts], Or.inr rfl, rfl⟩
      · exact ⟨.exitProgram (k + 1) ret, [], Or.inl ⟨k + 1, rfl⟩, rfl⟩
    · exact ⟨.exited ret, [.noData], Or.inr rfl, rfl⟩
  · rw [byeStep_datagram s k ret (Int.not_le.mp empty)]
    refine ⟨_, _, ?_, rfl⟩
    split
    · exact Or.inr rfl
    · exact Or.inl ⟨k, rfl⟩

theorem byeStep_moves {s : State} {k : Nat} {ret : ExitCode}
    (exits : s.control = .exitProgram k ret) (r : Received) :
    Moves s (.recvfrom r) (byeStep s k ret r).1 (byeStep s k ret r).2 := by
  obtain ⟨control, notices, leaves, spec⟩ := byeStep_spec s k ret r
  rw [spec]
  exact .bye k ret r control notices exits leaves.leaving

theorem pollStep_client (s : State) (socket stdin : Revents) :
    (pollStep s (.ready socket stdin)).1.client = s.client := by
  unfold pollStep
  simp only
  split
  · rfl
  · split <;> rfl

theorem pollStep_moves {s : State} (polling : s.control = .poll) (result : PollResult) :
    Moves s (.poll result) (pollStep s result).1 (pollStep s result).2 := by
  cases result with
  | failed =>
    exact .leave (fun r same => by cases same) ((exitProgram_leaving _ _ _).after (.printed _ _))
  | ready socket stdin =>
    have silent : (pollStep s (.ready socket stdin)).2 = [] := by
      simp only [pollStep]
      split
      · rfl
      · split <;> rfl
    rw [silent]
    exact .poll socket stdin polling

theorem getlineStep_moves {s : State} (reading : s.control = .getline) (line : Option Str) :
    Moves s (.getline line) (getlineStep s line).1 (getlineStep s line).2 := by
  cases line with
  | none => exact .leave (fun r same => by cases same) (exitProgram_leaving _ _ _)
  | some text => exact .line text reading (userLine_lined _ _)

theorem sigint_moves (s : State) :
    Moves s .sigint (s.resume .poll s.client.gracefulExit).1
      (s.resume .poll s.client.gracefulExit).2 :=
  .leave (fun r same => by cases same) (gracefulExit_leaving s.client)

theorem Moves.of_eq {s s' : State} {e : Event} {out : List (Effect UInt16)}
    {r : State × List (Effect UInt16)} (moves : Moves s e r.1 r.2) (made : r = (s', out)) :
    Moves s e s' out := by
  cases made
  exact moves

/-- **The inversion of the machine.** -/
theorem step_moves {s s' : State} {e : Event} {out : List (Effect UInt16)}
    (made : step s e = some (s', out)) : Moves s e s' out := by
  cases step_calls made with
  | gracefulExit _ made => exact (sigint_moves s).of_eq made
  | pollStep polling made => exact (pollStep_moves polling _).of_eq made
  | acceptStep accepting made => exact (acceptStep_moves accepting _).of_eq made
  | getlineStep reading made => exact (getlineStep_moves reading _).of_eq made
  | timeoutStep waiting made => exact (timeoutStep_moves waiting _).of_eq made
  | byeStep leaving made => exact (byeStep_moves leaving _).of_eq made

/-- A line is answered by `userLine`. -/
theorem step_getline {s s' : State} {line : Str} {out : List (Effect UInt16)}
    (made : step s (.getline (some line)) = some (s', out)) :
    s' = (s.resume .poll (s.client.userLine line)).1 ∧ out = (s.client.userLine line).effects := by
  cases step_calls made with
  | getlineStep _ made =>
    cases made
    exact ⟨rfl, rfl⟩

/-- A datagram in the main loop. -/
theorem step_accept {s : State} {r : Received} (accepting : s.control = .acceptMsg)
    (nonempty : 0 < r.bytesRx) : step s (.recvfrom r) =
      some (s.resume .poll
        (UDPClient.receiveInMain { s.client with serverPort := r.port } r.buffer)) := by
  have some : ¬ r.bytesRx ≤ 0 := by omega
  simp only [step_accepting accepting, acceptStep, if_neg some]

/-- A datagram in the loop of `handle_timeout` that is not the CONFIRM waited for. -/
theorem step_handled {s : State} {m : UDPMessage} {k : Nat} {r : Received}
    (waiting : s.control = .handleTimeout m k) (nonempty : 0 < r.bytesRx)
    (other : ¬ s.client.Awaited m r.buffer) : step s (.recvfrom r) =
      some (s.resume (.handleTimeout m k) (s.client.handled r.buffer)) := by
  have some : ¬ r.bytesRx ≤ 0 := by omega
  simp only [step_waiting waiting, timeoutStep, if_neg some, receiveInTimeout_eq, if_neg other,
    Bool.false_eq_true, if_false]

/-! ### A session

The datagrams of a server and the events of a sign-in, for the runs shown below. -/

/-- A datagram from the port of the server. -/
def heardFrom (port : UInt16) (content : Str) : Event := .recvfrom (.datagram content port (.other 0))

def confirmDatagram (id : UInt16) : Str := [UDP_CONFIRM] ++ idBytes id

def replyDatagram (id : UInt16) (result : UInt8) (ref : UInt16) : Str :=
  [UDP_REPLY] ++ idBytes id ++ [result] ++ idBytes ref ++ bytes "hi" ++ [0]

/-- `poll` reports the socket. -/
def socketReady : Event := .poll (.ready ⟨true, false⟩ ⟨false, false⟩)

/-- `poll` reports stdin. -/
def stdinReady : Event := .poll (.ready ⟨false, false⟩ ⟨true, false⟩)

/-- A line is typed. -/
def typed (text : String) : List Event := [stdinReady, .getline (some (bytes text))]

/-- A client with three retransmissions, where port 4567 is configured. -/
def booted : State := start 4567 3 ⟨false, false⟩

theorem booted_init : (machine 4567).init booted := ⟨3, ⟨false, false⟩, rfl⟩

theorem booted_reachable : Reachable (machine 4567) booted := .start booted_init

/-- AUTH is sent and confirmed, and answered in the main loop from port 5000. -/
def signIn : List Event :=
  typed "/auth u s d" ++ [heardFrom 4567 (confirmDatagram 0), socketReady,
    heardFrom 5000 (replyDatagram 0 1 0)]

/-- The same sign-in with a socket error before CONFIRM 0, which the main loop then receives, and a
message. -/
def signInByMain : List Event :=
  typed "/auth u s d" ++ [.recvfrom (.failed (.other 104)), socketReady,
    heardFrom 4567 (confirmDatagram 0), socketReady, heardFrom 5000 (replyDatagram 0 1 0)] ++
    typed "hello"

end UDPClient

end Ipk24Chat
