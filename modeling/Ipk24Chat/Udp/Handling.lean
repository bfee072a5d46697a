/-
**What the handling of one datagram can do.**

`Handled c d o` lists the outcomes, once for both receive paths: the datagram is skipped because its
id has been seen, it is a CONFIRM that does or does not match the front of `confirm_id_vector`, a
decoded REPLY (`replied`), a MSG of the open state, it is dropped with a fixed text, or the program
leaves. `receiveInMain_handled` and `handled_handled` are the inversion of the two paths:
every invariant of the client is derived from them and no other proof looks into the handlers.

`Leaving` says what the ways out have in common: the client is unchanged up to the counter and the
flag set for an ERR, and everything sent goes to the current port.
-/

import Ipk24Chat.Udp.Datagram

namespace Ipk24Chat

namespace UDPClient

/-! ### Outcomes -/

@[simp] theorem Outcome.after_nil (o : Outcome) : o.after [] = o := rfl

@[simp] theorem Outcome.after_after (first second : List (Effect UInt16)) (o : Outcome) :
    (o.after second).after first = o.after (first ++ second) := by
  simp [Outcome.after]

@[simp] theorem Outcome.after_client (effects : List (Effect UInt16)) (o : Outcome) :
    (o.after effects).client = o.client := rfl

@[simp] theorem Outcome.after_effects (effects : List (Effect UInt16)) (o : Outcome) :
    (o.after effects).effects = effects ++ o.effects := rfl

@[simp] theorem Outcome.after_blocked (effects : List (Effect UInt16)) (o : Outcome) :
    (o.after effects).blocked = o.blocked := rfl

@[simp] theorem Outcome.done_andThen (c : UDPClient) (next : UDPClient → Outcome) :
    (Outcome.done c).andThen next = next c := rfl

@[simp] theorem printed_nil : printed [] = [] := rfl

/-- A call that does not return is the last one. -/
theorem Outcome.andThen_of_blocked {o : Outcome} {k : Control} (stopped : o.blocked = some k)
    (next : UDPClient → Outcome) : o.andThen next = o := by
  simp only [Outcome.andThen, stopped]

/-! ### The datagrams sent -/

@[simp] theorem sendConfirm_andThen (c : UDPClient) (id : UInt16) (next : UDPClient → Outcome) :
    (c.sendConfirm id).andThen next = (next c).after (c.sendMsg (confirmMsg id)) := rfl

theorem sendConfimExit_false (c : UDPClient) (m : UDPMessage) :
    c.sendConfimExit m false = ⟨c, c.sendMsg (confirmMsg m.messageId), none⟩ := rfl

/-! ### Leaving -/

/-- Everything sent goes to one port. -/
def SentTo (port : UInt16) (effects : List (Effect UInt16)) : Prop :=
  ∀ datagram target, Effect.send datagram target ∈ effects → target = port

theorem SentTo.printed (port : UInt16) (lines : List Output) : SentTo port (printed lines) := by
  intro datagram target member
  simp [UDPClient.printed] at member

theorem SentTo.append {port : UInt16} {first second : List (Effect UInt16)}
    (one : SentTo port first) (two : SentTo port second) : SentTo port (first ++ second) := by
  intro datagram target member
  rcases List.mem_append.mp member with member | member
  · exact one _ _ member
  · exact two _ _ member

theorem SentTo.sendMsg (c : UDPClient) (m : UDPMessage) : SentTo c.aiPort (c.sendMsg m) := by
  intro datagram target member
  simp only [UDPClient.sendMsg, List.mem_singleton, Effect.send.injEq] at member
  exact member.2

/-- The client behind `send_error_exit`. -/
def erred (c : UDPClient) : UDPClient :=
  { c with msgCounter := c.msgCounter + 1, confirmMsgSent := true }

/-- The control is on the way out of the program. -/
def Control.leaving : Control → Bool
  | .exitProgram _ _ | .exited _ => true
  | _ => false

/-- The program ends with this status, or is on the way. -/
def Control.LeavesWith (k : Control) (ret : ExitCode) : Prop :=
  (∃ retryNumber, k = .exitProgram retryNumber ret) ∨ k = .exited ret

theorem Control.LeavesWith.leaving {k : Control} {ret : ExitCode} (leaves : k.LeavesWith ret) :
    k.leaving = true := by
  rcases leaves with ⟨_, rfl⟩ | rfl
  · rfl
  · rfl

theorem Control.ne_of_leaving {k k' : Control} (leaves : k.leaving = true)
    (stays : k'.leaving = false) : k ≠ k' := by
  rintro rfl
  cases leaves.symm.trans stays

/-- **The program leaves.** -/
structure Leaving (c : UDPClient) (o : Outcome) : Prop where
  client : o.client = c ∨ o.client = c.erred
  blocked : ∃ k : Control, o.blocked = some k ∧ k.leaving = true
  sent : SentTo c.aiPort o.effects

theorem Leaving.after {c : UDPClient} {o : Outcome} {effects : List (Effect UInt16)}
    (leaving : c.Leaving o) (sent : SentTo c.aiPort effects) : c.Leaving (o.after effects) :=
  ⟨leaving.client, leaving.blocked, sent.append leaving.sent⟩

/-- What holds of the client with and without an ERR sent holds behind the way out. -/
theorem Leaving.preserves {c : UDPClient} {o : Outcome} (leaving : c.Leaving o)
    {P : UDPClient → Prop} (kept : P c) (erred : P c.erred) : P o.client := by
  rcases leaving.client with same | same
  · rw [same]
    exact kept
  · rw [same]
    exact erred

theorem exitProgram_leaving (c : UDPClient) (sendBye : Bool) (retState : ExitCode) :
    c.Leaving (c.exitProgram sendBye retState) := by
  cases sendBye with
  | true => exact ⟨Or.inl rfl, ⟨_, rfl, rfl⟩, .sendMsg c _⟩
  | false => exact ⟨Or.inl rfl, ⟨_, rfl, rfl⟩, fun _ _ member => by cases member⟩

theorem gracefulExit_leaving (c : UDPClient) : c.Leaving c.gracefulExit := by
  unfold gracefulExit
  split
  · exact exitProgram_leaving c _ _
  · exact exitProgram_leaving c _ _

theorem sendErrorExit_leaving (c : UDPClient) : c.Leaving c.sendErrorExit :=
  ⟨Or.inr rfl, ⟨_, rfl, rfl⟩, (SentTo.sendMsg c.erred _).append (SentTo.sendMsg c.erred _)⟩

theorem sendConfimExit_true_leaving (c : UDPClient) (m : UDPMessage) :
    c.Leaving (c.sendConfimExit m true) := by
  unfold sendConfimExit
  rw [sendConfirm_andThen, if_pos rfl]
  split
  · exact (exitProgram_leaving c _ _).after (.sendMsg c _)
  · exact (exitProgram_leaving c _ _).after (.sendMsg c _)

/-! ### The effect of a REPLY -/

/-- A REPLY answers the request: one is awaited and its RefMessageID is the front of the vector. -/
def answered (c : UDPClient) (d : Str) : Bool :=
  c.replyMsgSent && decide (frontId c.replyIdVector = (replyRef d).toNat)

/-- The port is switched while the first reply is awaited. -/
def switches (c : UDPClient) : Bool :=
  c.replyMsgSent && decide (c.clientState = .authState) && c.changeServerPort

/-- The client behind a decoded REPLY. -/
def replied (c : UDPClient) (d : Str) : UDPClient :=
  { c with
    seenIds := c.seenIds ++ [msgId d]
    aiPort := if c.switches then c.serverPort else c.aiPort
    changeServerPort := c.changeServerPort && !c.switches
    replyIdVector := if c.answered d then c.replyIdVector.tail else c.replyIdVector
    replyMsgSent := c.replyMsgSent && !c.answered d
    clientState := if c.answered d then
        (if c.clientState = .authState ∧ replyType d = .replyNok then .authState else .openState)
      else c.clientState }

/-- A REPLY does not lead back to START_STATE. -/
theorem replied_begun {c : UDPClient} (d : Str) (begun : c.clientState ≠ .startState) :
    (c.replied d).clientState ≠ .startState := by
  unfold replied
  simp only
  split
  · split <;> decide
  · exact begun

/-- What a decoded REPLY makes the client print and send. -/
def repliedEffects (c : UDPClient) (d : Str) : List (Effect UInt16) :=
  (if c.answered d then printed [(replyMsg d).printMessage] else []) ++
    (c.replied d).sendMsg (confirmMsg (msgId d))

theorem replyMsg_messageId {d : Str} (reply : kind d = .reply) :
    (replyMsg d).messageId = msgId d := heard_messageId (by rw [reply]; rfl)

/-- **The REPLY branches of both states**, in one equation. -/
theorem handleReply_eq {c : UDPClient} {d : Str} (reply : kind d = .reply) (switchPort : Bool)
    (next : FsmState) (state : switchPort = decide (c.clientState = .authState))
    (leads : next = if c.clientState = .authState ∧ replyType d = .replyNok then .authState
      else .openState) :
    c.handleReply (replyMsg d) switchPort next = ⟨c.replied d, c.repliedEffects d, none⟩ := by
  have id := replyMsg_messageId reply
  have ref : (replyMsg d).refMessageId = replyRef d := rfl
  subst state leads
  unfold handleReply
  simp only [id, ref, sendConfimExit_false]
  obtain ⟨⟨dname, state, awaited, counter⟩, port, limit, serverPort, flag, change, confirms, replies,
    seen⟩ := c
  cases awaited with
  | false => simp [replied, repliedEffects, answered, switches]
  | true =>
    by_cases auth : state = .authState
    · by_cases front : frontId replies = (replyRef d).toNat
      · cases change <;> simp [switchServerPort, replied, repliedEffects, answered, switches, auth,
          front, Outcome.after]
      · cases change <;> simp [switchServerPort, replied, repliedEffects, answered, switches, auth,
          front]
    · by_cases front : frontId replies = (replyRef d).toNat
      · simp [replied, repliedEffects, answered, switches, auth, front, Outcome.after]
      · simp [replied, repliedEffects, answered, switches, auth, front]

/-! ### The outcomes -/

/-- The client behind a MSG of the open state. -/
def chatted (c : UDPClient) (d : Str) : UDPClient := { c with seenIds := c.seenIds ++ [msgId d] }

/-- The client behind the CONFIRM of the front of `confirm_id_vector`. -/
def unqueued (c : UDPClient) : UDPClient :=
  { c with confirmIdVector := c.confirmIdVector.tail, confirmMsgSent := false }

/-- A datagram the state has a branch for: a CONFIRM or a decodable REPLY behind START_STATE, a
decodable MSG in OPEN_STATE. -/
def Expected (c : UDPClient) (d : Str) : Prop :=
  (c.clientState ≠ .startState ∧ (kind d = .confirm ∨ (kind d = .reply ∧ 8 ≤ d.length))) ∨
    (c.clientState = .openState ∧ kind d = .msg ∧ 7 ≤ d.length)

/-- **The outcomes of one datagram**, on either receive path. -/
inductive Handled (c : UDPClient) (d : Str) : Outcome → Prop
  /-- The id has been seen. -/
  | skipped : c.Seen d → Handled c d (.done c)
  /-- A CONFIRM of the front of the vector. -/
  | confirmed : kind d = .confirm → frontId c.confirmIdVector = (msgId d).toNat →
      Handled c d (.done c.unqueued)
  /-- Another CONFIRM. -/
  | unmatched : kind d = .confirm → frontId c.confirmIdVector ≠ (msgId d).toNat →
      Handled c d (.done c)
  | reply : kind d = .reply → ¬ c.Seen d → 8 ≤ d.length → c.clientState ≠ .startState →
      Handled c d ⟨c.replied d, c.repliedEffects d, none⟩
  | msg : kind d = .msg → ¬ c.Seen d → 7 ≤ d.length → c.clientState = .openState →
      Handled c d ⟨c.chatted d, printed [.msg (senderOf d).1 (textOf d)] ++
        c.sendMsg (confirmMsg (msgId d)), none⟩
  /-- A malformed or unexpected datagram before authorisation. -/
  | dropped (notices : List Notice) : ¬ c.Seen d → kind d ≠ .confirm → kind d ≠ .msg →
      (kind d = .reply → d.length < 8) → c.clientState = .authState →
      Handled c d ((Outcome.done c).after (printed (notices.map .notice)))
  | leaving {o : Outcome} : ¬ c.Seen d → ¬ c.Expected d → c.Leaving o → Handled c d o

/-- The outcome of a decodable REPLY. -/
theorem Handled.of_reply {c : UDPClient} {d : Str} {o : Outcome} (handled : Handled c d o)
    (fresh : ¬ c.Seen d) (reply : kind d = .reply) (long : 8 ≤ d.length)
    (begun : c.clientState ≠ .startState) : o = ⟨c.replied d, c.repliedEffects d, none⟩ := by
  cases handled with
  | skipped seen => exact absurd seen fresh
  | confirmed confirm => cases reply.symm.trans confirm
  | unmatched confirm => cases reply.symm.trans confirm
  | reply => rfl
  | msg msg => cases reply.symm.trans msg
  | dropped _ _ _ _ short => exact absurd (short reply) (by omega)
  | leaving _ unexpected => exact absurd (Or.inl ⟨begun, Or.inr ⟨reply, long⟩⟩) unexpected

/-- The outcome of a decodable MSG in OPEN_STATE. -/
theorem Handled.of_msg {c : UDPClient} {d : Str} {o : Outcome} (handled : Handled c d o)
    (fresh : ¬ c.Seen d) (msg : kind d = .msg) (long : 7 ≤ d.length)
    (isOpen : c.clientState = .openState) :
    o = ⟨c.chatted d, printed [.msg (senderOf d).1 (textOf d)] ++
      c.sendMsg (confirmMsg (msgId d)), none⟩ := by
  cases handled with
  | skipped seen => exact absurd seen fresh
  | confirmed confirm => cases msg.symm.trans confirm
  | unmatched confirm => cases msg.symm.trans confirm
  | reply reply => cases msg.symm.trans reply
  | msg => rfl
  | dropped _ _ _ other => exact absurd msg other
  | leaving _ unexpected => exact absurd (Or.inr ⟨isOpen, msg, long⟩) unexpected

theorem handleConfirm_handled {c : UDPClient} {d : Str} (confirm : kind d = .confirm) :
    Handled c d (c.handleConfirm (heard d)) := by
  unfold handleConfirm
  rw [heard_refMessageId confirm]
  by_cases front : frontId c.confirmIdVector = (msgId d).toNat
  · rw [if_pos front]
    exact .confirmed confirm front
  · rw [if_neg front]
    exact .unmatched confirm front

/-- The decoder always decides the type. -/
theorem decoded_type_ne (d : Str) :
    ((heard d).processInboundMsg d.length).1.type ≠ .toBeDecided := by
  cases isKind : kind d with
  | confirm =>
    rw [decode_plain (Or.inl isKind), heard_type, isKind]
    decide
  | reply =>
    by_cases long : 8 ≤ d.length
    · rw [decode_reply isKind long]
      show replyType d ≠ .toBeDecided
      unfold replyType
      split <;> decide
    · rw [decode_reply_short isKind (by omega)]
      simp
  | msg =>
    by_cases long : 7 ≤ d.length
    · rw [decode_msg isKind long, heard_type, isKind]
      decide
    · rw [decode_short (Or.inl isKind) (by omega)]
      simp
  | err =>
    by_cases long : 7 ≤ d.length
    · rw [decode_err isKind long, heard_type, isKind]
      decide
    · rw [decode_short (Or.inr isKind) (by omega)]
      simp
  | bye =>
    rw [decode_plain (Or.inr (Or.inl isKind)), heard_type, isKind]
    decide
  | invalid =>
    rw [decode_plain (Or.inr (Or.inr isKind)), heard_type, isKind]
    decide

/-- The texts printed by the classification. -/
def classifiedNotices (d : Str) : List Notice := if kind d = .invalid then [.unknownIncoming] else []

theorem classified_printed (c : UDPClient) (d : Str) :
    (c.classified d).printed = (classifiedNotices d).map .notice := by
  rw [classified_eq, classifiedNotices]
  split <;> rfl

theorem classifiedNotices_of_known {d : Str} (known : kind d ≠ .invalid) :
    classifiedNotices d = [] := if_neg known

/-- A decoded REPLY in AUTH_STATE: the positive and the negative one differ in the next state. -/
theorem handleAuthState_reply {c : UDPClient} {d : Str} (reply : kind d = .reply)
    (auth : c.clientState = .authState) :
    c.handleAuthState (replyMsg d) = ⟨c.replied d, c.repliedEffects d, none⟩ := by
  by_cases nok : d.getD 3 0 = 0
  · have type : replyType d = .replyNok := if_pos nok
    have branch : c.handleAuthState (replyMsg d) = c.handleReply (replyMsg d) true .authState := by
      simp only [handleAuthState, show (replyMsg d).type = .replyNok from type]
    rw [branch]
    exact handleReply_eq reply true .authState (by simp [auth]) (by simp [auth, type])
  · have type : replyType d = .replyOk := if_neg nok
    have branch : c.handleAuthState (replyMsg d) = c.handleReply (replyMsg d) true .openState := by
      simp only [handleAuthState, show (replyMsg d).type = .replyOk from type]
    rw [branch]
    exact handleReply_eq reply true .openState (by simp [auth]) (by simp [type])

/-- A decoded REPLY in OPEN_STATE. -/
theorem handleOpenState_reply {c : UDPClient} {d : Str} (reply : kind d = .reply)
    (isOpen : c.clientState = .openState) :
    c.handleOpenState (replyMsg d) d.length = ⟨c.replied d, c.repliedEffects d, none⟩ := by
  have branch : c.handleOpenState (replyMsg d) d.length =
      c.handleReply (replyMsg d) false .openState := by
    by_cases nok : d.getD 3 0 = 0
    · have type : replyType d = .replyNok := if_pos nok
      simp only [handleOpenState, show (replyMsg d).type = .replyNok from type]
    · have type : replyType d = .replyOk := if_neg nok
      simp only [handleOpenState, show (replyMsg d).type = .replyOk from type]
  rw [branch]
  exact handleReply_eq reply false .openState (by simp [isOpen]) (by simp [isOpen])

/-- The handler of AUTH_STATE, kind by kind. -/
theorem auth_handled {c : UDPClient} {d : Str} (fresh : ¬ c.Seen d)
    (auth : c.clientState = .authState) :
    Handled c d ((c.handleAuthState ((heard d).processInboundMsg d.length).1).after
      (printed ((classifiedNotices d).map .notice ++
        ((heard d).processInboundMsg d.length).2))) := by
  cases isKind : kind d with
  | confirm =>
    rw [decode_plain (Or.inl isKind)]
    have handler : c.handleAuthState (heard d) = c.handleConfirm (heard d) := by
      simp only [handleAuthState, heard_type, isKind, Kind.type]
    simpa [classifiedNotices, isKind, handler] using handleConfirm_handled (c := c) isKind
  | reply =>
    by_cases long : 8 ≤ d.length
    · rw [decode_reply isKind long, handleAuthState_reply isKind auth,
        classifiedNotices_of_known (by simp [isKind])]
      exact .reply isKind fresh long (by simp [auth])
    · rw [decode_reply_short isKind (by omega), classifiedNotices_of_known (by simp [isKind])]
      exact .dropped [.unknownIncoming] fresh (by simp [isKind]) (by simp [isKind])
        (fun _ => by omega) auth
  | msg =>
    refine .leaving fresh (by simp [Expected, isKind, auth]) (Leaving.after ?_ (.printed _ _))
    by_cases long : 7 ≤ d.length
    · rw [decode_msg isKind long]
      have handler : c.handleAuthState (heard d) =
          c.sendErrorExit.after (c.sendMsg (confirmMsg (heard d).messageId)) := by
        simp only [handleAuthState, heard_type, isKind, Kind.type, sendConfirm_andThen]
      rw [handler]
      exact (sendErrorExit_leaving c).after (.sendMsg c _)
    · rw [decode_short (Or.inl isKind) (by omega)]
      exact sendConfimExit_true_leaving c _
  | err =>
    refine .leaving fresh (by simp [Expected, isKind]) (Leaving.after ?_ (.printed _ _))
    by_cases long : 7 ≤ d.length
    · rw [decode_err isKind long]
      have handler : c.handleAuthState (heard d) = c.sendConfimExit (heard d) true := by
        simp only [handleAuthState, heard_type, isKind, Kind.type]
      rw [handler]
      exact sendConfimExit_true_leaving c _
    · rw [decode_short (Or.inr isKind) (by omega)]
      exact sendConfimExit_true_leaving c _
  | bye =>
    rw [decode_plain (Or.inr (Or.inl isKind))]
    have handler : c.handleAuthState (heard d) = .done c := by
      simp only [handleAuthState, heard_type, isKind, Kind.type]
    rw [handler, classifiedNotices_of_known (by simp [isKind])]
    exact .dropped [] fresh (by simp [isKind]) (by simp [isKind]) (by simp [isKind]) auth
  | invalid =>
    rw [decode_plain (Or.inr (Or.inr isKind))]
    have handler : c.handleAuthState (heard d) = .done c := by
      simp only [handleAuthState, heard_type, isKind, Kind.type]
    rw [handler, List.append_nil]
    exact .dropped (classifiedNotices d) fresh (by simp [isKind]) (by simp [isKind])
      (by simp [isKind]) auth

/-- The handler of OPEN_STATE, kind by kind. -/
theorem open_handled {c : UDPClient} {d : Str} (fresh : ¬ c.Seen d)
    (isOpen : c.clientState = .openState) :
    Handled c d ((c.handleOpenState ((heard d).processInboundMsg d.length).1 d.length).after
      (printed ((classifiedNotices d).map .notice ++
        ((heard d).processInboundMsg d.length).2))) := by
  cases isKind : kind d with
  | confirm =>
    rw [decode_plain (Or.inl isKind)]
    have handler : c.handleOpenState (heard d) d.length = c.handleConfirm (heard d) := by
      simp only [handleOpenState, heard_type, isKind, Kind.type]
    simpa [classifiedNotices, isKind, handler] using handleConfirm_handled (c := c) isKind
  | reply =>
    by_cases long : 8 ≤ d.length
    · rw [decode_reply isKind long, handleOpenState_reply isKind isOpen,
        classifiedNotices_of_known (by simp [isKind])]
      exact .reply isKind fresh long (by simp [isOpen])
    · rw [decode_reply_short isKind (by omega)]
      refine .leaving fresh ?_ (Leaving.after ?_ (.printed _ _))
      · simp only [Expected, isKind, reduceCtorEq, false_or, true_and, false_and, and_false, or_false]
        omega
      exact ((sendErrorExit_leaving c).after (.sendMsg c _)).after (.printed _ _)
  | msg =>
    by_cases long : 7 ≤ d.length
    · rw [decode_msg isKind long]
      have id : (heard d).messageId = msgId d := heard_messageId (by rw [isKind]; rfl)
      have handler : c.handleOpenState (heard d) d.length =
          ⟨c.chatted d, c.sendMsg (confirmMsg (msgId d)), none⟩ := by
        simp only [handleOpenState, heard_type, isKind, Kind.type, id, sendConfimExit_false]
        rfl
      rw [handler, classifiedNotices_of_known (by simp [isKind])]
      exact .msg isKind fresh long isOpen
    · refine .leaving fresh ?_ (Leaving.after ?_ (.printed _ _))
      · simp only [Expected, isKind, reduceCtorEq, false_or, or_false, true_and, false_and, and_false]
        omega
      rw [decode_short (Or.inl isKind) (by omega)]
      exact ((exitProgram_leaving c _ _).after (.sendMsg c _)).after (.printed _ _)
  | err =>
    refine .leaving fresh (by simp [Expected, isKind]) (Leaving.after ?_ (.printed _ _))
    by_cases long : 7 ≤ d.length
    · rw [decode_err isKind long]
      simp only [handleOpenState, heard_type, isKind, Kind.type, sendConfirm_andThen]
      exact ((exitProgram_leaving c _ _).after (.sendMsg c _)).after (.printed _ _)
    · rw [decode_short (Or.inr isKind) (by omega)]
      exact ((exitProgram_leaving c _ _).after (.sendMsg c _)).after (.printed _ _)
  | bye =>
    refine .leaving fresh (by simp [Expected, isKind]) (Leaving.after ?_ (.printed _ _))
    rw [decode_plain (Or.inr (Or.inl isKind))]
    simp only [handleOpenState, heard_type, isKind, Kind.type, sendConfirm_andThen]
    exact ((exitProgram_leaving c _ _).after (.sendMsg c _)).after (.printed _ _)
  | invalid =>
    refine .leaving fresh (by simp [Expected, isKind]) (Leaving.after ?_ (.printed _ _))
    rw [decode_plain (Or.inr (Or.inr isKind))]
    simp only [handleOpenState, heard_type, isKind, Kind.type, sendConfirm_andThen]
    exact ((sendErrorExit_leaving c).after (.sendMsg c _)).after (.printed _ _)

/-- `fsm_logic_handler` behind `validate_unique_id`. -/
def handled (c : UDPClient) (d : Str) : Outcome :=
  (c.fsmLogicHandler (c.classified d).skipMessage (c.classified d).msg d.length).after
    (printed (c.classified d).printed)

theorem handled_seen {c : UDPClient} {d : Str} (seen : c.Seen d) : c.handled d = .done c := by
  have numbered : kind d ≠ .invalid := fun invalid => by simpa [invalid, Kind.numbered] using seen.1
  simp [handled, classified_eq, seen, fsmLogicHandler, numbered]

theorem handled_fresh {c : UDPClient} {d : Str} (fresh : ¬ c.Seen d) :
    c.handled d = Outcome.after (printed ((classifiedNotices d).map .notice ++
        ((heard d).processInboundMsg d.length).2))
      (match c.clientState with
        | .startState => (c.exitProgram true .failure).after (printed [.notice .unknownAtState])
        | .authState => c.handleAuthState ((heard d).processInboundMsg d.length).1
        | .openState => c.handleOpenState ((heard d).processInboundMsg d.length).1 d.length) := by
  unfold handled fsmLogicHandler
  rw [classified_printed, classified_eq]
  cases c.clientState <;>
    simp only [fresh, decide_false, Bool.false_eq_true, if_false, if_pos (decoded_type_ne d),
      Outcome.after_after, printed, List.map_append, List.append_assoc]

/-- **`fsm_logic_handler`**: the outcomes of a datagram in the loop of `handle_timeout`. -/
theorem handled_handled (c : UDPClient) (d : Str) : Handled c d (c.handled d) := by
  by_cases seen : c.Seen d
  · rw [handled_seen seen]
    exact .skipped seen
  · rw [handled_fresh seen]
    cases state : c.clientState with
    | startState =>
      refine .leaving seen (by simp [Expected, state]) (Leaving.after ?_ (.printed _ _))
      exact (exitProgram_leaving c _ _).after (.printed _ _)
    | authState => exact auth_handled seen state
    | openState => exact open_handled seen state

/-! ### The two receive paths -/

/-- The CONFIRM that `handle_timeout` waits for. -/
def Awaited (c : UDPClient) (outgoingMsg : UDPMessage) (d : Str) : Prop :=
  c.confirmMsgSent = true ∧ kind d = .confirm ∧ msgId d = outgoingMsg.messageId

instance (c : UDPClient) (m : UDPMessage) (d : Str) : Decidable (c.Awaited m d) :=
  inferInstanceAs (Decidable (_ ∧ _ ∧ _))

theorem kind_eq_confirm_iff {d : Str} : (kind d).type = .confirm ↔ kind d = .confirm := by
  cases kind d <;> simp [Kind.type]

theorem receiveInTimeout_eq (c : UDPClient) (outgoingMsg : UDPMessage) (d : Str) :
    c.receiveInTimeout outgoingMsg d =
      if c.Awaited outgoingMsg d then (true, .done { c with confirmMsgSent := false })
      else (false, c.handled d) := by
  have unfolded : c.receiveInTimeout outgoingMsg d =
      if c.confirmMsgSent ∧ (c.classified d).msg.type = .confirm ∧
          (c.classified d).msg.refMessageId = outgoingMsg.messageId then
        (true, ⟨{ c with confirmMsgSent := false }, printed (c.classified d).printed, none⟩)
      else (false, c.handled d) := rfl
  have same : (c.confirmMsgSent ∧ (c.classified d).msg.type = .confirm ∧
      (c.classified d).msg.refMessageId = outgoingMsg.messageId) ↔ c.Awaited outgoingMsg d := by
    rw [classified_eq, Awaited]
    simp only [heard_type, kind_eq_confirm_iff]
    refine and_congr_right fun _ => and_congr_right fun confirm => ?_
    rw [heard_refMessageId confirm]
  rw [unfolded]
  by_cases awaited : c.Awaited outgoingMsg d
  · have plain : (c.classified d).printed = [] := by simp [classified_eq, awaited.2.1]
    rw [if_pos awaited, if_pos (same.mpr awaited), plain]
    rfl
  · rw [if_neg awaited, if_neg (mt same.mp awaited)]

/-- The main loop answers the datagram itself. -/
def PreHandled (c : UDPClient) (d : Str) : Prop :=
  ¬ c.Seen d ∧ (kind d = .err ∨ kind d = .invalid ∨ c.clientState = .startState ∨
    (c.clientState = .authState ∧ (kind d = .bye ∨ kind d = .msg)))

theorem receiveInMain_unfold (c : UDPClient) (d : Str) :
    c.receiveInMain d =
      ((if c.Seen d then Outcome.done c else c.preHandle (heard d) d.length).andThen fun c' =>
        c'.fsmLogicHandler (c.classified d).skipMessage (heard d) d.length).after
          (printed (c.classified d).printed) := by
  show ((if (c.classified d).skipMessage = true then Outcome.done c
    else c.preHandle (c.classified d).msg d.length).andThen fun c' =>
      c'.fsmLogicHandler (c.classified d).skipMessage (c.classified d).msg d.length).after
        (printed (c.classified d).printed) = _
  rw [classified_eq]
  simp only [decide_eq_true_eq]

/-- **The shared path**: what the main loop does not answer itself is handled as in
`handle_timeout`. -/
theorem receiveInMain_eq_handled {c : UDPClient} {d : Str} (shared : ¬ c.PreHandled d) :
    c.receiveInMain d = c.handled d := by
  have quiet : (if c.Seen d then Outcome.done c else c.preHandle (heard d) d.length) = .done c := by
    by_cases seen : c.Seen d
    · exact if_pos seen
    · have others : ¬ kind d = .err ∧ ¬ kind d = .invalid ∧ ¬ c.clientState = .startState ∧
          ¬ (c.clientState = .authState ∧ (kind d = .bye ∨ kind d = .msg)) := by
        simpa [PreHandled, seen] using shared
      have notErr : (heard d).type ≠ .err := by
        rw [heard_type]
        cases isKind : kind d <;> simp_all [Kind.type]
      have notInvalid : (heard d).type ≠ .invalidMsg := by
        rw [heard_type]
        cases isKind : kind d <;> simp_all [Kind.type]
      have notAuth : ¬ (c.clientState = .authState ∧
          ((heard d).type = .bye ∨ (heard d).type = .msg)) := by
        rw [heard_type]
        rintro ⟨auth, early⟩
        refine others.2.2.2 ⟨auth, ?_⟩
        cases isKind : kind d <;> simp_all [Kind.type]
      rw [if_neg seen, preHandle, if_neg notErr, if_neg notInvalid,
        if_neg (fun start => others.2.2.1 start.1), if_neg notAuth]
  rw [receiveInMain_unfold, quiet, Outcome.done_andThen, handled, classified_eq]

/-- What the main loop does before the handler ends the program. -/
theorem preHandle_leaving {c : UDPClient} {d : Str} (early : c.PreHandled d) :
    c.Leaving (c.preHandle (heard d) d.length) := by
  obtain ⟨_, cases⟩ := early
  unfold preHandle
  simp only [sendConfirm_andThen]
  split
  · exact ((exitProgram_leaving c _ _).after (.sendMsg c _)).after (.printed _ _)
  split
  · exact ((sendErrorExit_leaving c).after (.sendMsg c _)).after (.printed _ _)
  split
  · exact (sendErrorExit_leaving c).after (.sendMsg c _)
  split
  · exact (sendErrorExit_leaving c).after (.sendMsg c _)
  · rename_i notErr notInvalid notStart notAuth
    rw [heard_type] at notErr notInvalid notStart notAuth
    cases isKind : kind d <;> simp_all [Kind.type]

/-- **The path of the main loop**: the handler is not reached. -/
theorem receiveInMain_eq_preHandle {c : UDPClient} {d : Str} (early : c.PreHandled d) :
    c.receiveInMain d =
      (c.preHandle (heard d) d.length).after (printed ((classifiedNotices d).map .notice)) := by
  obtain ⟨k, stopped, _⟩ := (preHandle_leaving early).blocked
  rw [receiveInMain_unfold, if_neg early.1, Outcome.andThen_of_blocked stopped, classified_printed]

/-- What the main loop answers itself ends the program. -/
theorem receiveInMain_leaving {c : UDPClient} {d : Str} (early : c.PreHandled d) :
    c.Leaving (c.receiveInMain d) := by
  rw [receiveInMain_eq_preHandle early]
  exact (preHandle_leaving early).after (.printed _ _)

/-- **The main loop**: the outcomes of a datagram. -/
theorem receiveInMain_handled (c : UDPClient) (d : Str) : Handled c d (c.receiveInMain d) := by
  by_cases early : c.PreHandled d
  · refine .leaving early.1 ?_ (receiveInMain_leaving early)
    rcases early.2 with err | invalid | start | ⟨auth, bye | msg⟩
    · simp [Expected, err]
    · simp [Expected, invalid]
    · simp [Expected, start]
    · simp [Expected, bye]
    · simp [Expected, msg, auth]
  · rw [receiveInMain_eq_handled early]
    exact handled_handled c d

end UDPClient

end Ipk24Chat
