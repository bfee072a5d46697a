/-
**What the UDP client says.**

CONFIRMs aside, it says what the TCP client says, with copies: a message is said again until it is confirmed,
also an AUTH that the server has answered already, and the BYE is said once more when the wait for its
CONFIRM is interrupted. `uttered` is what has been said while a message waits for its CONFIRM.

* `step_said`: one step;
* `conversation_bounded`: nothing else is said than `conversation`, a regular language.
-/

import Ipk24Chat.Stdin.UserInput
import Ipk24Chat.Wire.Conversation
import Ipk24Chat.Wire.Sent

namespace Ipk24Chat

namespace UDPClient

open Reactive
open scoped Computability

/-! ### Datagrams -/

/-- The part of a datagram by its type byte; an empty one has none. -/
def contentPart (content : Str) : Option Part := content.head?.bind Part.ofCode

def partOf : Effect UInt16 → Option Part
  | .send content _ => contentPart content
  | .print _ => none

@[simp] theorem partOf_printed (lines : List Output) : (printed lines).filterMap partOf = [] := by
  simp [printed, partOf]

theorem partOf_sendMsg (c : UDPClient) (m : UDPMessage) :
    (c.sendMsg m).filterMap partOf = (contentPart m.udpBuffer).toList := by
  rw [sendMsg, List.filterMap_cons, List.filterMap_nil, partOf]
  cases contentPart m.udpBuffer <;> rfl

@[simp] theorem partOf_confirm (c : UDPClient) (id : UInt16) :
    (c.sendMsg (confirmMsg id)).filterMap partOf = [] := by
  rw [partOf_sendMsg]
  rfl

/-- A message of the user. -/
theorem contentPart_request (r : Request) (id : UInt16) :
    contentPart (r.udp id) = some (Letter.request r).part := by
  cases r <;> rfl

/-! ### Leaving -/

/-- What is said by a step that leaves. -/
def farewell : Language Part := 1 + (1 + {[.err]}) * {[.bye]}

/-- What is said on the way out: behind START_STATE a SIGINT says the BYE once more. -/
def leave : FsmState → Language Part
  | .startState => farewell
  | _ => 1 + (1 + {[.err]}) * {[.bye]} * (1 + {[.bye]})

theorem nil_mem_farewell : [] ∈ farewell := Or.inl rfl

theorem bye_mem_farewell : [.bye] ∈ farewell :=
  Or.inr (Language.mem_mul.mpr ⟨[], Or.inl rfl, [.bye], rfl, rfl⟩)

theorem err_mem_farewell : [.err, .bye] ∈ farewell :=
  Or.inr (Language.mem_mul.mpr ⟨[.err], Or.inr rfl, [.bye], rfl, rfl⟩)

theorem farewell_le_leave (state : FsmState) : farewell ≤ leave state := by
  have once : farewell ≤ 1 + (1 + {[.err]}) * {[.bye]} * (1 + {[.bye]}) := by
    refine add_le_add le_rfl ?_
    rw [mul_add, mul_one]
    exact le_sup_left
  cases state with
  | startState => exact le_rfl
  | authState => exact once
  | openState => exact once

/-- A SIGINT on the way out. -/
theorem leave_again {state : FsmState} (begun : state ≠ .startState) {word : List Part}
    (said : word ∈ farewell) : word ++ [.bye] ∈ leave state := by
  have again : word ++ [.bye] ∈ (1 + (1 + {[.err]}) * {[.bye]} * (1 + {[.bye]}) : Language Part) := by
    rcases said with silent | spoken
    · obtain rfl : word = [] := silent
      exact farewell_le_leave .openState bye_mem_farewell
    · exact Or.inr (Language.append_mem_mul spoken (Or.inr rfl))
  cases state with
  | startState => exact absurd rfl begun
  | authState => exact again
  | openState => exact again

/-- What the effects say is a farewell. -/
def Parting (effects : List (Effect UInt16)) : Prop := effects.filterMap partOf ∈ farewell

theorem Parting.of_silent {effects : List (Effect UInt16)} (silent : effects.filterMap partOf = []) :
    Parting effects := by
  unfold Parting
  rw [silent]
  exact nil_mem_farewell

theorem Parting.after {first second : List (Effect UInt16)} (parting : Parting second)
    (silent : first.filterMap partOf = []) : Parting (first ++ second) := by
  unfold Parting
  rw [List.filterMap_append, silent, List.nil_append]
  exact parting

theorem exitProgram_parting (c : UDPClient) (sendBye : Bool) (ret : ExitCode) :
    Parting (c.exitProgram sendBye ret).effects := by
  cases sendBye with
  | false => exact nil_mem_farewell
  | true => exact bye_mem_farewell

theorem sendErrorExit_parting (c : UDPClient) : Parting c.sendErrorExit.effects := err_mem_farewell

theorem sendConfimExit_parting (c : UDPClient) (m : UDPMessage) (exit : Bool) :
    Parting (c.sendConfimExit m exit).effects := by
  unfold sendConfimExit
  rw [sendConfirm_andThen]
  refine Parting.after ?_ (partOf_confirm c _)
  split
  · split
    · exact exitProgram_parting c _ _
    · exact exitProgram_parting c _ _
  · exact .of_silent rfl

theorem handleConfirm_parting (c : UDPClient) (m : UDPMessage) :
    Parting (c.handleConfirm m).effects := by
  unfold handleConfirm
  split
  · exact .of_silent rfl
  · exact .of_silent rfl

theorem handleReply_parting (c : UDPClient) (m : UDPMessage) (switchPort : Bool) (next : FsmState) :
    Parting (c.handleReply m switchPort next).effects := by
  unfold handleReply
  simp only
  split
  · generalize (if switchPort then _ else _ : UDPClient) = c
    split
    · exact (sendConfimExit_parting _ m false).after (partOf_printed [m.printMessage])
    · exact sendConfimExit_parting c m false
  · exact sendConfimExit_parting _ m false

theorem handleAuthState_parting (c : UDPClient) (m : UDPMessage) :
    Parting (c.handleAuthState m).effects := by
  unfold handleAuthState
  split
  · exact handleConfirm_parting c m
  · exact handleReply_parting c m _ _
  · exact handleReply_parting c m _ _
  · exact sendConfimExit_parting c m true
  · exact (sendErrorExit_parting c).after (partOf_confirm c _)
  · exact .of_silent rfl

theorem handleOpenState_parting (c : UDPClient) (m : UDPMessage) (bytesRx : Nat) :
    Parting (c.handleOpenState m bytesRx).effects := by
  unfold handleOpenState
  split
  · exact ((exitProgram_parting c _ _).after (partOf_confirm c _)).after (partOf_printed _)
  · exact ((exitProgram_parting c _ _).after (partOf_confirm c _)).after (partOf_printed _)
  · exact handleConfirm_parting c m
  · exact handleReply_parting c m _ _
  · exact handleReply_parting c m _ _
  · exact sendConfimExit_parting _ m false
  · exact ((sendErrorExit_parting c).after (partOf_confirm c _)).after (partOf_printed _)

theorem handled_parting (c : UDPClient) (d : Str) : Parting (c.handled d).effects := by
  by_cases seen : c.Seen d
  · rw [handled_seen seen]
    exact .of_silent rfl
  rw [handled_fresh seen, Outcome.after_effects]
  refine Parting.after ?_ (partOf_printed _)
  cases c.clientState with
  | startState => exact (exitProgram_parting c true .failure).after (partOf_printed [.notice .unknownAtState])
  | authState => exact handleAuthState_parting c _
  | openState => exact handleOpenState_parting c _ _

theorem preHandle_parting (c : UDPClient) (m : UDPMessage) (bytesRx : Nat) :
    Parting (c.preHandle m bytesRx).effects := by
  unfold preHandle
  simp only [sendConfirm_andThen]
  split
  · exact ((exitProgram_parting c _ _).after (partOf_confirm c _)).after (partOf_printed _)
  split
  · exact ((sendErrorExit_parting c).after (partOf_confirm c _)).after (partOf_printed _)
  split
  · exact (sendErrorExit_parting c).after (partOf_confirm c _)
  split
  · exact (sendErrorExit_parting c).after (partOf_confirm c _)
  · exact .of_silent rfl

theorem receiveInMain_parting (c : UDPClient) (d : Str) : Parting (c.receiveInMain d).effects := by
  by_cases early : c.PreHandled d
  · rw [receiveInMain_eq_preHandle early]
    exact (preHandle_parting c _ _).after (partOf_printed _)
  · rw [receiveInMain_eq_handled early]
    exact handled_parting c d

/-! ### Waiting for a CONFIRM -/

/-- **What has been said while a message with this part waits** for its CONFIRM: in OPEN_STATE it may
still be the AUTH. -/
def uttered (state : FsmState) (part : Option Part) : Language Part :=
  {word | (state ≠ .startState ∧ part = some .auth ∧ word ∈ opening .authState) ∨
    (state = .openState ∧ (part = none ∨ part = some .join ∨ part = some .msg) ∧
      word ∈ opening .openState)}

/-- The message is said again. -/
theorem uttered_again {state : FsmState} {part : Option Part} {word : List Part}
    (said : word ∈ uttered state part) : word ++ part.toList ∈ uttered state part := by
  rcases said with ⟨begun, rfl, said⟩ | ⟨isOpen, rfl | rfl | rfl, said⟩
  · exact Or.inl ⟨begun, rfl, opening_auth (by decide) said⟩
  · exact Or.inr ⟨isOpen, Or.inl rfl, by simpa using said⟩
  · exact Or.inr ⟨isOpen, Or.inr (Or.inl rfl), opening_chat said (Or.inl rfl)⟩
  · exact Or.inr ⟨isOpen, Or.inr (Or.inr rfl), opening_chat said (Or.inr rfl)⟩

/-- The wait is over. -/
theorem opening_of_uttered {state : FsmState} {part : Option Part} {word : List Part}
    (said : word ∈ uttered state part) : word ∈ opening state := by
  rcases said with ⟨begun, _, said⟩ | ⟨rfl, _, said⟩
  · cases state with
    | startState => exact absurd rfl begun
    | authState => exact said
    | openState => exact opening_replied said
  · exact said

/-- The session is opened meanwhile. -/
theorem uttered_open {state : FsmState} {part : Option Part} {word : List Part}
    (said : word ∈ uttered state part) : word ∈ uttered .openState part := by
  rcases said with ⟨_, auth, said⟩ | ⟨_, chat, said⟩
  · exact Or.inl ⟨by decide, auth, said⟩
  · exact Or.inr ⟨rfl, chat, said⟩

/-! ### Steps -/

/-- What the client has said. -/
def said (s : State) : Language Part :=
  match s.control with
  | .handleTimeout m _ => uttered s.client.clientState (contentPart m.udpBuffer)
  | .exitProgram _ .failure => opening s.client.clientState * farewell
  | .exitProgram _ .success | .exited _ => opening s.client.clientState * leave s.client.clientState
  | _ => opening s.client.clientState

/-- Nothing is said, and the state may become OPEN_STATE. -/
structure Listens (c : UDPClient) (o : Outcome) : Prop where
  silent : o.effects.filterMap partOf = []
  state : o.client.clientState = c.clientState ∨
    (c.clientState ≠ .startState ∧ o.client.clientState = .openState)
  returns : o.blocked = none

/-- A REPLY is only confirmed. -/
theorem partOf_repliedEffects (c : UDPClient) (d : Str) :
    (c.repliedEffects d).filterMap partOf = [] := by
  unfold repliedEffects
  rw [List.filterMap_append, partOf_confirm]
  split
  · rw [partOf_printed]
    rfl
  · rfl

/-- **A datagram** ends the conversation, or nothing is said. -/
theorem Handled.leaving_or_listens {c : UDPClient} {d : Str} {o : Outcome} (handled : Handled c d o) :
    c.Leaving o ∨ c.Listens o := by
  cases handled with
  | skipped => exact Or.inr ⟨rfl, Or.inl rfl, rfl⟩
  | confirmed => exact Or.inr ⟨rfl, Or.inl rfl, rfl⟩
  | unmatched => exact Or.inr ⟨rfl, Or.inl rfl, rfl⟩
  | reply _ _ _ begun =>
    refine Or.inr ⟨partOf_repliedEffects c d, ?_, rfl⟩
    show (c.replied d).clientState = _ ∨ _ ∧ (c.replied d).clientState = _
    unfold replied
    simp only
    split
    · split
      · rename_i nok
        exact Or.inl nok.1.symm
      · exact Or.inr ⟨begun, rfl⟩
    · exact Or.inl rfl
  | msg =>
    refine Or.inr ⟨?_, Or.inl rfl, rfl⟩
    rw [List.filterMap_append, partOf_confirm, partOf_printed]
    rfl
  | dropped notices =>
    refine Or.inr ⟨?_, Or.inl rfl, rfl⟩
    rw [Outcome.after_effects, List.filterMap_append, partOf_printed]
    rfl
  | leaving _ _ leaving => exact Or.inl leaving

/-- Nothing more need be said. -/
theorem silent_farewell {state : FsmState} {word : List Part} (opened : word ∈ opening state) :
    word ∈ opening state * farewell := by
  have left := Language.append_mem_mul opened nil_mem_farewell
  rw [List.append_nil] at left
  exact left

/-- A client that leaves may have said a farewell. -/
theorem said_of_leaving {s : State} (leaves : s.control.leaving = true) {word : List Part}
    (left : word ∈ opening s.client.clientState * farewell) : word ∈ said s := by
  have more : word ∈ opening s.client.clientState * leave s.client.clientState :=
    mul_le_mul_right (farewell_le_leave _) _ left
  unfold said
  cases control : s.control with
  | exitProgram k ret =>
    cases ret with
    | failure => exact left
    | success => exact more
  | exited ret => exact more
  | _ =>
    rw [control] at leaves
    cases leaves

/-- A client that may be interrupted has said a farewell at most. -/
theorem farewell_of_said {s : State} (free : s.control.interruptible = true) {word : List Part}
    (earlier : word ∈ said s) : word ∈ opening s.client.clientState * farewell := by
  unfold said at earlier
  cases control : s.control with
  | handleTimeout m k =>
    rw [control] at earlier
    exact silent_farewell (opening_of_uttered earlier)
  | exitProgram k ret =>
    rw [control] at earlier free
    cases ret with
    | failure => exact earlier
    | success => cases free
  | exited ret =>
    rw [control] at free
    cases free
  | _ =>
    rw [control] at earlier
    exact silent_farewell earlier

/-- In every state what has been said may be all of it. -/
theorem departed_of_said {s : State} {word : List Part} (earlier : word ∈ said s) :
    word ∈ opening s.client.clientState * leave s.client.clientState := by
  cases free : s.control.interruptible with
  | true => exact mul_le_mul_right (farewell_le_leave _) _ (farewell_of_said free earlier)
  | false =>
    unfold said at earlier
    cases control : s.control with
    | exitProgram k ret =>
      rw [control] at earlier free
      cases ret with
      | failure => cases free
      | success => exact earlier
    | exited ret =>
      rw [control] at earlier
      exact earlier
    | _ =>
      rw [control] at free
      cases free

/-- The client leaves. -/
theorem Leaving.said {c : UDPClient} {o : Outcome} (leaving : c.Leaving o) (s : State) (back : Control)
    (parting : Parting o.effects) {word : List Part} (earlier : word ∈ opening c.clientState) :
    word ++ o.effects.filterMap partOf ∈ said (s.resume back o).1 := by
  have state : o.client.clientState = c.clientState :=
    leaving.preserves (P := fun c' => c'.clientState = c.clientState) rfl rfl
  refine said_of_leaving (leaving.resume s back) ?_
  show _ ∈ opening o.client.clientState * farewell
  rw [state]
  exact Language.append_mem_mul earlier parting

/-- The client listens in the main loop. -/
theorem Listens.said {c : UDPClient} {o : Outcome} (listens : c.Listens o) (s : State)
    {word : List Part} (earlier : word ∈ opening c.clientState) :
    word ++ o.effects.filterMap partOf ∈ said (s.resume .poll o).1 := by
  have polls : (s.resume .poll o).1.control = .poll := s.resume_of_returns listens.returns
  rw [listens.silent, List.append_nil]
  unfold UDPClient.said
  rw [polls]
  show word ∈ opening o.client.clientState
  rcases listens.state with same | ⟨begun, opened⟩
  · rw [same]
    exact earlier
  · rw [opened]
    cases state : c.clientState with
    | startState => exact absurd state begun
    | authState =>
      rw [state] at earlier
      exact opening_replied earlier
    | openState =>
      rw [state] at earlier
      exact earlier

/-- A datagram in the main loop, or none. -/
theorem acceptStep_said (s : State) (r : Received) {word : List Part}
    (earlier : word ∈ opening s.client.clientState) :
    word ++ (acceptStep s r).2.filterMap partOf ∈ said (acceptStep s r).1 := by
  unfold acceptStep
  split
  · split
    · rw [partOf_printed, List.append_nil]
      exact earlier
    · exact ((exitProgram_leaving _ _ _).after (.printed _ _)).said s .poll
        ((exitProgram_parting _ _ _).after (partOf_printed _)) earlier
  · rcases (receiveInMain_handled { s.client with serverPort := r.port } r.buffer).leaving_or_listens
      with leaving | listens
    · exact leaving.said s .poll (receiveInMain_parting _ _) earlier
    · exact listens.said s earlier

/-- A message of the user that is sent. -/
theorem admitted_said {state : FsmState} {text : Str} (name : Str) (id : UInt16)
    (ready : (command text).ready = true) (admits : Admits state (command text).type = true)
    {word : List Part} (earlier : word ∈ opening state) :
    word ++ (contentPart (((command text).request name text).elim [] (Request.udp id))).toList ∈
      uttered state.sent (contentPart (((command text).request name text).elim [] (Request.udp id))) := by
  rcases request_of_admits name ready admits with
    ⟨closed, next, r, spoken, part⟩ | ⟨isOpen, next, silent | ⟨r, spoken, part⟩⟩
  · rw [spoken, Option.elim_some, contentPart_request, part, next]
    exact Or.inl ⟨by decide, rfl, opening_auth closed earlier⟩
  · rw [isOpen] at earlier
    rw [silent, next]
    refine Or.inr ⟨rfl, Or.inl rfl, ?_⟩
    show word ++ [] ∈ _
    rw [List.append_nil]
    exact earlier
  · rw [isOpen] at earlier
    rw [spoken, Option.elim_some, contentPart_request, next]
    exact Or.inr ⟨rfl, Or.inr (part.imp (congrArg some) (congrArg some)), opening_chat earlier part⟩

/-- **A line of the user**: nothing is said, or a message that then waits for its CONFIRM. -/
theorem userLine_said (s : State) (text : Str) {word : List Part}
    (earlier : word ∈ opening s.client.clientState) :
    word ++ (s.client.userLine text).effects.filterMap partOf ∈
      said (s.resume .poll (s.client.userLine text)).1 := by
  have kept {o : Outcome} (returns : o.blocked = none) (silent : o.effects.filterMap partOf = [])
      (state : o.client.clientState = s.client.clientState) :
      word ++ o.effects.filterMap partOf ∈ said (s.resume .poll o).1 :=
    Listens.said ⟨silent, Or.inl state, returns⟩ s earlier
  by_cases typed : text = []
  · unfold userLine
    rw [if_pos typed]
    exact kept rfl rfl rfl
  have type := (s.client.userMsg_describes text).type
  have wire : (s.client.userMsg text).1.udpBuffer =
      ((command text).request s.client.dname text).elim [] (Request.udp s.client.nextId) :=
    UDPMessage.udpBuffer_userCmd s.client.dname text s.client.nextId
  rw [userLine_eq s.client typed]
  cases ready : (command text).ready with
  | false =>
    refine kept rfl ?_ rfl
    rw [Outcome.after_effects, List.filterMap_append, partOf_printed]
    rfl
  | true =>
    rw [if_pos rfl, dispatch_eq, type ready]
    have state : (s.client.named ((command text).name s.client.dname)
        s.client.msgCounter).clientState = s.client.clientState := rfl
    rw [state]
    by_cases admits : Admits s.client.clientState (command text).type = true
    · rw [if_pos admits]
      have adds := admitted_said s.client.dname s.client.nextId ready admits earlier
      rw [← wire] at adds
      rw [Outcome.after_effects, List.filterMap_append, partOf_printed, List.nil_append, sendUserMsg,
        Outcome.after_effects, List.filterMap_append, partOf_sendMsg]
      show word ++ (_ ++ []) ∈ uttered _ _
      rw [List.append_nil]
      exact adds
    · rw [if_neg admits]
      refine kept rfl ?_ rfl
      rw [Outcome.after_effects, List.filterMap_append, partOf_printed, Outcome.after_effects,
        List.filterMap_append, partOf_printed]
      rfl

/-- **An iteration of the loop of `handle_timeout`.** -/
theorem timeoutStep_said (s : State) {m : UDPMessage} (k : Nat) (r : Received) {word : List Part}
    (earlier : word ∈ uttered s.client.clientState (contentPart m.udpBuffer)) :
    word ++ (timeoutStep s m k r).2.filterMap partOf ∈ said (timeoutStep s m k r).1 := by
  unfold timeoutStep
  simp only
  split
  · split
    · split
      · exact ((exitProgram_leaving _ _ _).after (.printed _ _)).said s .poll
          ((exitProgram_parting _ _ _).after (partOf_printed _)) (opening_of_uttered earlier)
      · rw [partOf_sendMsg]
        exact uttered_again earlier
    · rw [partOf_printed, List.append_nil]
      exact opening_of_uttered earlier
  · rw [receiveInTimeout_eq]
    split
    · show word ++ [] ∈ opening s.client.clientState
      rw [List.append_nil]
      exact opening_of_uttered earlier
    · rcases (handled_handled s.client r.buffer).leaving_or_listens with leaving | listens
      · exact leaving.said s _ (handled_parting _ _) (opening_of_uttered earlier)
      · have waits : (s.resume (.handleTimeout m k) (s.client.handled r.buffer)).1.control =
            .handleTimeout m k := s.resume_of_returns listens.returns
        simp only [Bool.false_eq_true, if_false]
        show _ ++ (s.client.handled r.buffer).effects.filterMap partOf ∈ _
        rw [listens.silent, List.append_nil, said, waits]
        show word ∈ uttered (s.client.handled r.buffer).client.clientState _
        rcases listens.state with same | ⟨_, opened⟩
        · rw [same]
          exact earlier
        · rw [opened]
          exact uttered_open earlier

/-- **A SIGINT**, also on the way out. -/
theorem gracefulExit_said {s : State} (free : s.control.interruptible = true) {word : List Part}
    (earlier : word ∈ said s) : word ++ s.client.gracefulExit.effects.filterMap partOf ∈
      said (s.resume .poll s.client.gracefulExit).1 := by
  have left := farewell_of_said free earlier
  by_cases start : s.client.clientState = .startState
  · have silent : s.client.gracefulExit = s.client.exitProgram false .success := if_pos start
    rw [silent]
    refine said_of_leaving rfl ?_
    show word ++ [] ∈ _
    rw [List.append_nil]
    exact left
  · have again : s.client.gracefulExit = s.client.exitProgram true .success := if_neg start
    rw [again]
    obtain ⟨first, opened, more, parted, rfl⟩ := Language.mem_mul.mp left
    show first ++ more ++ [.bye] ∈ opening s.client.clientState * leave s.client.clientState
    rw [List.append_assoc]
    exact Language.append_mem_mul opened (leave_again start parted)

/-- The loop of `exit_program` says nothing. -/
theorem byeStep_said {s : State} {k : Nat} {ret : ExitCode} (exits : s.control = .exitProgram k ret)
    (r : Received) {word : List Part} (earlier : word ∈ said s) :
    word ++ (byeStep s k ret r).2.filterMap partOf ∈ said (byeStep s k ret r).1 := by
  obtain ⟨control, notices, leaves, spec⟩ := byeStep_spec s k ret r
  have departed := departed_of_said earlier
  rw [spec, partOf_printed, List.append_nil]
  rcases leaves with ⟨k', rfl⟩ | rfl
  · unfold said at earlier ⊢
    rw [exits] at earlier
    cases ret with
    | failure => exact earlier
    | success => exact earlier
  · exact departed

theorem pollStep_said (s : State) (result : PollResult) {word : List Part}
    (earlier : word ∈ opening s.client.clientState) :
    word ++ (pollStep s result).2.filterMap partOf ∈ said (pollStep s result).1 := by
  cases result with
  | failed =>
    exact ((exitProgram_leaving _ _ _).after (.printed _ _)).said s .poll
      ((exitProgram_parting _ _ _).after (partOf_printed _)) earlier
  | ready socket stdin =>
    simp only [pollStep]
    split
    · rw [List.filterMap_nil, List.append_nil]
      exact earlier
    split
    · rw [List.filterMap_nil, List.append_nil]
      exact earlier
    · rw [List.filterMap_nil, List.append_nil]
      exact earlier

/-- **One step** of the conversation. -/
theorem step_said {s s' : State} {e : Event} {out : List (Effect UInt16)} {word : List Part}
    (made : step s e = some (s', out)) (earlier : word ∈ said s) :
    word ++ out.filterMap partOf ∈ said s' := by
  cases step_calls made with
  | gracefulExit free made =>
    obtain ⟨rfl, rfl⟩ := Prod.ext_iff.mp made.symm
    exact gracefulExit_said free earlier
  | pollStep polling made =>
    obtain ⟨rfl, rfl⟩ := Prod.ext_iff.mp made.symm
    rw [said, polling] at earlier
    exact pollStep_said s _ earlier
  | acceptStep accepting made =>
    obtain ⟨rfl, rfl⟩ := Prod.ext_iff.mp made.symm
    rw [said, accepting] at earlier
    exact acceptStep_said s _ earlier
  | @getlineStep line _ _ reading made =>
    obtain ⟨rfl, rfl⟩ := Prod.ext_iff.mp made.symm
    rw [said, reading] at earlier
    cases line with
    | none =>
      exact (exitProgram_leaving s.client true .failure).said s .poll (exitProgram_parting _ _ _)
        earlier
    | some text => exact userLine_said s text earlier
  | timeoutStep waiting made =>
    obtain ⟨rfl, rfl⟩ := Prod.ext_iff.mp made.symm
    rw [said, waiting] at earlier
    exact timeoutStep_said s _ _ earlier
  | byeStep exits made =>
    obtain ⟨rfl, rfl⟩ := Prod.ext_iff.mp made.symm
    exact byeStep_said exits _ earlier

/-- All that a UDP client may say. -/
def conversation : Language Part :=
  farewell + {[.auth]} * {[.auth]}∗ * ({[.join]} + {[.msg]})∗ *
    (1 + (1 + {[.err]}) * {[.bye]} * (1 + {[.bye]}))

theorem conversation_bounded (port : UInt16) : spoken (machine port) partOf ≤ conversation := by
  have openings (state : FsmState) (word : List Part) (before : word ∈ opening state * leave state) :
      word ∈ conversation := by
    obtain ⟨first, opened, more, left, rfl⟩ := Language.mem_mul.mp before
    cases state with
    | startState =>
      obtain rfl : first = [] := opened
      exact Or.inl left
    | authState => exact Or.inr (Language.append_mem_mul (opening_replied opened) left)
    | openState => exact Or.inr (Language.append_mem_mul opened left)
  refine spoken_le said ?_ (fun s e s' out word _ made => step_said made) ?_
  · rintro s ⟨limit, revents, rfl⟩
    exact Language.nil_mem_one
  · intro s word earlier
    exact openings s.client.clientState word (departed_of_said earlier)

end UDPClient

end Ipk24Chat
