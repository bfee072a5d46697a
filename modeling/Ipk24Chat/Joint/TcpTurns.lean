/-
**The TCP client plays the dialogue.**

Every line it reads and every message it receives is a turn of the `Dialogue`, sent as lines. Between
two turns it is in `poll`, or blocked in `std::getline` behind the REPLY to a JOIN.

* `userLine_plays`, `receive_plays`: the outcomes are those of the turns;
* `line_made`, `message_made`: the machine runs them, byte by byte.
-/

import Ipk24Chat.Joint.Dialogue
import Ipk24Chat.Stdin.UserInput
import Ipk24Chat.Tcp.Framing

namespace Ipk24Chat

/-- The type that the decoders give a message. -/
def Incoming.type : Incoming → MsgType
  | .reply true => .replyOk
  | .reply false => .replyNok
  | .msg => .msg
  | .err => .err
  | .bye => .bye
  | .malformed => .invalidMsg

namespace TCPClient

open Reactive

/-- What the client knows of the session. -/
def dialogue (c : TCPClient) : Dialogue := ⟨c.clientState, c.replyMsgSent, c.dname⟩

/-- The lines sent; an empty buffer puts nothing on the stream. -/
def sentIn (effects : List (Effect Unit)) : List Str :=
  effects.filterMap fun
    | .send content _ => if content = [] then none else some content
    | .print _ => none

@[simp] theorem sentIn_append (first second : List (Effect Unit)) :
    sentIn (first ++ second) = sentIn first ++ sentIn second :=
  List.filterMap_append

@[simp] theorem sentIn_printed (lines : List Output) : sentIn (printed lines) = [] := by
  simp [sentIn, printed]

theorem sentIn_sendMsg (m : TCPMessage) :
    sentIn (sendMsg m) = if m.getOutputBuffer = [] then [] else [m.getOutputBuffer] := by
  unfold sentIn sendMsg
  split
  · simp [*]
  · simp [*]

/-- How the program has ended, without an exit status when it has been aborted. -/
def Control.ended : Control → Option (Option ExitCode)
  | .exited ret => some (some ret)
  | .aborted => some none
  | _ => none

/-! ### Turns -/

/-- **The outcome is the one of the turn.** -/
structure Plays (t : Turn) (o : Outcome) : Prop where
  dialogue : o.client.dialogue = t.dialogue
  sent : List.Forall₂ LineOf t.sent (sentIn o.effects)
  leaves : ∀ ret, t.ended = some ret → o.blocked = some (.exited ret)
  stays : t.ended = none →
    o.blocked = some .poll ∨ (o.blocked = none ∧ o.client.replyMsgSent = false)

theorem Plays.after {t : Turn} {o : Outcome} (plays : Plays t o) (lines : List Output) :
    Plays t (o.after (printed lines)) where
  dialogue := plays.dialogue
  sent := by
    show List.Forall₂ LineOf t.sent (sentIn (printed lines ++ o.effects))
    rw [sentIn_append, sentIn_printed, List.nil_append]
    exact plays.sent
  leaves := plays.leaves
  stays := plays.stays

/-- The program goes on in `poll`. -/
theorem toPoll_plays {c : TCPClient} {d : Dialogue} {letters : List Letter}
    {effects : List (Effect Unit)} (same : c.dialogue = d)
    (sent : List.Forall₂ LineOf letters (sentIn effects)) :
    Plays ⟨d, letters, none⟩ (toPoll c effects) where
  dialogue := same
  sent := sent
  leaves := fun _ ended => by cases ended
  stays := fun _ => Or.inl rfl

/-- The letter of a message of the user. -/
theorem request_sent {name text : Str} (m : TCPMessage)
    (wire : m.getOutputBuffer = ((command text).request name text).elim [] Request.tcp) :
    List.Forall₂ LineOf (((command text).request name text).toList.map .request)
      (sentIn (sendMsg m)) := by
  rw [sentIn_sendMsg, wire]
  cases (command text).request name text with
  | none => exact .nil
  | some r =>
    rw [Option.elim_some, if_neg r.tcp_ne_nil]
    exact .cons ⟨.request r, rfl, rfl⟩ .nil

/-- **A line of the user** is a turn, and leads back to `poll`. -/
theorem userLine_plays {c : TCPClient} (named : c.WellNamed) (text : Str) :
    Plays (c.dialogue.line text) (c.userLine text) ∧ (c.userLine text).blocked = some .poll := by
  by_cases typed : text = []
  · unfold userLine Dialogue.line
    rw [if_pos typed, if_pos typed]
    exact ⟨toPoll_plays rfl .nil, rfl⟩
  have type := (c.userMsg_describes text).type
  have wire : (c.userMsg text).1.getOutputBuffer =
      ((command text).request c.dname text).elim [] Request.tcp :=
    TCPMessage.output_userCmd (nul_not_mem named.valid) text
  have kept : ∀ lines, Plays ⟨{ c.dialogue with name := (command text).name c.dname }, [], none⟩
      (toPoll (c.named ((command text).name c.dname)) (printed lines)) := by
    intro lines
    refine toPoll_plays rfl ?_
    rw [sentIn_printed]
    exact .nil
  rw [userLine_eq c typed]
  cases ready : (command text).ready with
  | false =>
    rw [Dialogue.line_kept typed (Or.inl ready)]
    exact ⟨(kept []).after _, rfl⟩
  | true =>
    rw [if_pos rfl, dispatch_eq, type ready]
    cases admits : Admits c.clientState (command text).type with
    | false =>
      rw [Dialogue.line_kept typed (Or.inr admits)]
      have refused : Admits (c.named ((command text).name c.dname)).clientState (command text).type =
          false := admits
      rw [refused, if_neg Bool.false_ne_true]
      exact ⟨(kept _).after _, rfl⟩
    | true =>
      rw [Dialogue.line_admitted typed ready admits]
      have admitted : Admits (c.named ((command text).name c.dname)).clientState (command text).type =
          true := admits
      rw [admitted, if_pos rfl]
      have plays : Plays ⟨⟨c.clientState.sent, isRequest (command text).type || c.replyMsgSent,
          (command text).name c.dname⟩, ((command text).request c.dname text).toList.map .request, none⟩
          (toPoll ((c.named ((command text).name c.dname)).requested (isRequest (command text).type)
            c.clientState.sent) (sendMsg (c.userMsg text).1)) :=
        toPoll_plays rfl (request_sent (c.userMsg text).1 wire)
      exact ⟨plays.after _, rfl⟩

/-- The ERR and the BYE. -/
theorem sendErr_plays {c : TCPClient} (named : c.WellNamed) {text : Str} (clean : (0 : UInt8) ∉ text) :
    Plays c.dialogue.reject (c.sendErr text) := by
  have err := (SentTcp.err named.valid clean).output
  have bye : byeMsg.getOutputBuffer = Outgoing.bye.tcp := SentTcp.bye.output
  refine ⟨rfl, ?_, fun ret ended => ?_, fun ended => by cases ended⟩
  · have effects : (c.sendErr text).effects = sendMsg (TCPMessage.processOutgoingMsg
        ((NetworkMessage.new text .customErr).setDisplayName c.dname)).1 ++ sendMsg byeMsg := rfl
    rw [effects, sentIn_append, sentIn_sendMsg, sentIn_sendMsg, err, bye,
      if_neg (show (Outgoing.err c.dname text).tcp ≠ [] by simp [Outgoing.tcp, chatLine]),
      if_neg (show Outgoing.bye.tcp ≠ [] by simp [Outgoing.tcp])]
    exact .cons ⟨.err c.dname text, rfl, rfl⟩ (.cons ⟨.bye, rfl, rfl⟩ .nil)
  · cases ended
    rfl

theorem exitProgram_plays (c : TCPClient) (sendBye : Bool) (ret : ExitCode) :
    Plays ⟨c.dialogue, if sendBye then [.bye] else [], some ret⟩ (c.exitProgram sendBye ret) := by
  refine ⟨rfl, ?_, fun ret' ended => ?_, fun ended => by cases ended⟩
  · cases sendBye with
    | false => exact .nil
    | true =>
      show List.Forall₂ LineOf [.bye] (sentIn (sendMsg byeMsg))
      rw [sentIn_sendMsg, show byeMsg.getOutputBuffer = Outgoing.bye.tcp from SentTcp.bye.output,
        if_neg (show Outgoing.bye.tcp ≠ [] by simp [Outgoing.tcp])]
      exact .cons ⟨.bye, rfl, rfl⟩ .nil
  · cases ended
    rfl

/-- A handled message that only changes what the client knows. -/
theorem quiet_plays (c : TCPClient) {d : Dialogue} (same : c.dialogue = d) (lines : List Output)
    {blocked : Option Control}
    (stays : blocked = some .poll ∨ (blocked = none ∧ c.replyMsgSent = false)) :
    Plays ⟨d, [], none⟩ ⟨c, printed lines, blocked⟩ := by
  refine ⟨same, ?_, fun _ ended => (by cases ended), fun _ => stays⟩
  rw [sentIn_printed]
  exact .nil

/-- A message in START_STATE. -/
theorem start_plays {c : TCPClient} (named : c.WellNamed) {m : Incoming} {r : TCPMessage}
    (type : r.type = m.type) (start : c.clientState = .startState) :
    Plays (c.dialogue.hear m) (c.handleStartState r) := by
  have decided : r.type ≠ .toBeDecided := by
    rw [type]
    rcases m with (_ | _) | _ | _ | _ | _ <;> exact MsgType.noConfusion
  rw [Dialogue.hear_start start, handleStartState, if_pos decided]
  exact sendErr_plays named (by decide +kernel)

/-- A message in AUTH_STATE. -/
theorem auth_plays {c : TCPClient} (named : c.WellNamed) {m : Incoming} {r : TCPMessage}
    (type : r.type = m.type) (awaits : ∀ ok, m = .reply ok → c.replyMsgSent = true)
    (auth : c.clientState = .authState) : Plays (c.dialogue.hear m) (c.handleAuthState r) := by
  have rejected := sendErr_plays named
    (show (0 : UInt8) ∉ bytes "Unknown or invalid message at current state." by decide +kernel)
  obtain ⟨⟨name, state, awaited, counter⟩⟩ := c
  obtain rfl : state = .authState := auth
  unfold handleAuthState
  rw [type]
  cases m with
  | reply ok =>
    obtain rfl : awaited = true := awaits ok rfl
    cases ok with
    | true => exact quiet_plays ⟨⟨name, .openState, false, counter⟩⟩ rfl [r.printMessage] (Or.inl rfl)
    | false => exact quiet_plays ⟨⟨name, .authState, false, counter⟩⟩ rfl [r.printMessage] (Or.inl rfl)
  | err => exact exitProgram_plays _ true .failure
  | msg => exact rejected
  | bye => exact rejected
  | malformed => exact rejected

/-- A message in OPEN_STATE. -/
theorem open_plays {c : TCPClient} (named : c.WellNamed) {m : Incoming} {r : TCPMessage}
    (type : r.type = m.type) (awaits : ∀ ok, m = .reply ok → c.replyMsgSent = true)
    (isOpen : c.clientState = .openState) : Plays (c.dialogue.hear m) (c.handleOpenState r) := by
  have rejected := sendErr_plays named
    (show (0 : UInt8) ∉ bytes "Unknown or invalid message at current state" by decide +kernel)
  obtain ⟨⟨name, state, awaited, counter⟩⟩ := c
  obtain rfl : state = .openState := isOpen
  unfold handleOpenState
  rw [type]
  cases m with
  | reply ok =>
    obtain rfl : awaited = true := awaits ok rfl
    cases ok with
    | true => exact quiet_plays ⟨⟨name, .openState, false, counter⟩⟩ rfl [r.printMessage] (Or.inr ⟨rfl, rfl⟩)
    | false => exact quiet_plays ⟨⟨name, .openState, false, counter⟩⟩ rfl [r.printMessage] (Or.inr ⟨rfl, rfl⟩)
  | msg => exact quiet_plays _ rfl [] (Or.inl rfl)
  | err => exact exitProgram_plays _ true .failure
  | bye => exact exitProgram_plays _ false .success
  | malformed => exact rejected

/-- **A message of the server** that is decoded as what it is, is a turn. -/
theorem receive_plays {c : TCPClient} (named : c.WellNamed) {m : Incoming} {d : Str}
    {r : TCPMessage} {lines : List Output} (decode : decoded d = .ok (r, lines))
    (type : r.type = m.type)
    (awaits : c.clientState ≠ .startState → ∀ ok, m = .reply ok → c.replyMsgSent = true) :
    Plays (c.dialogue.hear m) (c.receive d) := by
  rw [receive_eq, decode]
  refine Plays.after ?_ lines
  unfold handleInbound
  cases state : c.clientState with
  | startState => exact start_plays named type state
  | authState => exact auth_plays named type (awaits (by simp [state])) state
  | openState => exact open_plays named type (awaits (by simp [state])) state

/-! ### The machine -/

/-- The line is offered: `poll` reports stdin, unless `std::getline` is waiting for it. -/
def lineEvents (s : State) (text : Str) : List Event :=
  match s.control with
  | .poll => if pollCount s.client = 2 then [stdinReady, .getline (some text)] else []
  | .getline => [.getline (some text)]
  | _ => []

/-- The message comes: `poll` reports the socket, and then the bytes are received. -/
def messageEvents (s : State) (stdin : Revents) (message : Str) : List Event :=
  match s.control with
  | .poll => .poll (.ready ⟨true, false⟩ stdin) :: arrivals message
  | _ => []

/-- **The machine has made the turn** and waits for the next one, if there is one. -/
structure Made (t : Turn) (s : State) (out : List (Effect Unit)) : Prop where
  dialogue : s.client.dialogue = t.dialogue
  sent : List.Forall₂ LineOf t.sent (sentIn out)
  ended : s.control.ended = t.ended.map some
  rests : t.ended = none →
    s.control = .poll ∨ (s.control = .getline ∧ s.client.replyMsgSent = false)

theorem Plays.made {t : Turn} {o : Outcome} (plays : Plays t o) (s : State) {back : Control}
    (behind : back = .poll ∨ back = .getline) : Made t (s.resume back o).1 (s.resume back o).2 := by
  cases ended : t.ended with
  | some ret =>
    refine ⟨plays.dialogue, plays.sent, ?_, fun rests => ?_⟩
    · simp only [State.resume, plays.leaves ret ended, ended]
      rfl
    · rw [ended] at rests
      cases rests
  | none =>
    have control : (s.resume back o).1.control = .poll ∨
        ((s.resume back o).1.control = .getline ∧ o.client.replyMsgSent = false) := by
      rcases plays.stays ended with polls | ⟨falls, idle⟩
      · exact Or.inl (by simp only [State.resume, polls, Option.getD_some])
      · simp only [State.resume, falls, Option.getD_none]
        exact behind.imp_right fun reads => ⟨reads, idle⟩
    refine ⟨plays.dialogue, plays.sent, ?_, fun _ => control⟩
    rw [ended]
    rcases control with polls | ⟨reads, _⟩
    · rw [polls]
      rfl
    · rw [reads]
      rfl

/-- **The machine makes a line**, offered while stdin is polled. -/
theorem line_made {s : State} (named : s.client.WellNamed) (idle : s.client.replyMsgSent = false)
    (waits : s.control = .poll ∨ s.control = .getline) (text : Str) :
    ∃ s' out, Drive machine s (lineEvents s text) s' out ∧
      Made (s.client.dialogue.line text) s' out := by
  obtain ⟨plays, _⟩ := userLine_plays named text
  obtain ⟨client, nfds, revents, control⟩ := s
  have read : ∀ s : State, s.client = client → s.control = .getline →
      machine.step s (.getline (some text)) = some (s.resume .poll (client.userLine text)) := by
    rintro ⟨_, _, _, _⟩ rfl rfl
    rfl
  rcases waits with polls | reads
  · obtain rfl : control = .poll := polls
    have count : pollCount client = 2 := pollCount_of_idle idle
    have polled : machine.step ⟨client, nfds, revents, .poll⟩ stdinReady =
        some (⟨client, 2, ⟨true, false⟩, .getline⟩, []) := by
      show some (pollStep _ _) = _
      simp only [pollStep, count]
      rfl
    have events : lineEvents ⟨client, nfds, revents, .poll⟩ text =
        [stdinReady, .getline (some text)] := if_pos count
    rw [events]
    exact ⟨_, _, .more polled (.single (read ⟨client, 2, ⟨true, false⟩, .getline⟩ rfl rfl)),
      plays.made _ (Or.inl rfl)⟩
  · obtain rfl : control = .getline := reads
    exact ⟨_, _, .single (read ⟨client, nfds, revents, .getline⟩ rfl rfl),
      plays.made _ (Or.inl rfl)⟩

/-- **The machine makes a message** that comes while it polls. -/
theorem message_made {s : State} (named : s.client.WellNamed) (polls : s.control = .poll)
    {m : Incoming} {message : Str} (framed : Framed message) {r : TCPMessage} {lines : List Output}
    (decode : decoded message = .ok (r, lines)) (type : r.type = m.type)
    (awaits : s.client.clientState ≠ .startState → ∀ ok, m = .reply ok → s.client.replyMsgSent = true)
    (stdin : Revents) :
    ∃ s' out, Drive machine s (messageEvents s stdin message) s' out ∧
      Made (s.client.dialogue.hear m) s' out := by
  have plays := receive_plays named decode type awaits
  obtain ⟨client, nfds, revents, control⟩ := s
  obtain rfl : control = .poll := polls
  have polled : machine.step ⟨client, nfds, revents, .poll⟩ (.poll (.ready ⟨true, false⟩ stdin)) =
      some (⟨client, pollCount client, stdinRevents (pollCount client) stdin revents,
        .acceptMsg []⟩, []) := rfl
  have received := drive_ends (s := ⟨client, pollCount client,
      stdinRevents (pollCount client) stdin revents, .acceptMsg []⟩) rfl
    (show ([] : Str).length + (1499 + 1) = BUFFER_SIZE from rfl)
    ((ends_iff message).mpr (Or.inl framed))
  refine ⟨_, _, .more polled received, ?_⟩
  rw [List.nil_append]
  refine plays.made _ ?_
  unfold State.stdinBranch
  split
  · exact Or.inr rfl
  · exact Or.inl rfl

end TCPClient

end Ipk24Chat
