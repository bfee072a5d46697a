/-
**What the texts of the server are for.**

A datagram has a header (its kind, its id, the result and the reference of a REPLY) and texts. The client
looks at the header and at whether there is room for the texts; the texts themselves are displayed.

* `SameHeader`: two datagrams that differ in their texts alone;
* `SameMsg.decoded`: the decoder, for two messages with the same header;
* `handled_same`, `receiveInMain_same`: the handlers;
* `texts_only_displayed`: every drive.
-/

import Ipk24Chat.Lib.Coupling
import Ipk24Chat.Udp.Stepping

namespace Ipk24Chat

namespace UDPClient

open Reactive
open List (Forall₂)

/-! ### Datagrams with the same header -/

/-- **The datagrams differ in their texts alone.** -/
structure SameHeader (d d' : Str) : Prop where
  sameKind : kind d = kind d'
  empty : d = [] ↔ d' = []
  id : kind d ≠ .invalid → msgId d = msgId d'
  replyRoom : kind d = .reply → (d.length < 8 ↔ d'.length < 8)
  result : kind d = .reply → 8 ≤ d.length → (d.getD 3 0 = 0 ↔ d'.getD 3 0 = 0)
  ref : kind d = .reply → 8 ≤ d.length → replyRef d = replyRef d'
  chatRoom : kind d = .msg ∨ kind d = .err → (d.length < 7 ↔ d'.length < 7)

/-! ### Outputs -/

/-- The lines differ in a text of the server. -/
inductive SameForm : Output → Output → Prop
  | notice (n : Notice) : SameForm (.notice n) (.notice n)
  | message (stream : Stream) (text text' : Str) : SameForm (.message stream text) (.message stream text')
  | msg (sender sender' text text' : Str) : SameForm (.msg sender text) (.msg sender' text')
  | err (sender sender' text text' : Str) : SameForm (.err sender text) (.err sender' text')

/-- The same is sent, or such lines are printed. -/
inductive SameBut : Effect UInt16 → Effect UInt16 → Prop
  | send (d : Str) (target : UInt16) : SameBut (.send d target) (.send d target)
  | print {line line' : Output} : SameForm line line' → SameBut (.print line) (.print line')

theorem SameForm.refl (line : Output) : SameForm line line := by
  cases line with
  | notice n => exact .notice n
  | message stream text => exact .message stream text text
  | msg sender text => exact .msg sender sender text text
  | err sender text => exact .err sender sender text text

theorem SameBut.refl (e : Effect UInt16) : SameBut e e := by
  cases e with
  | send d target => exact .send d target
  | print line => exact .print (.refl line)

theorem effects_refl (effects : List (Effect UInt16)) : Forall₂ SameBut effects effects :=
  List.forall₂_same.mpr fun e _ => .refl e

theorem printed_same {lines lines' : List Output} (same : Forall₂ SameForm lines lines') :
    Forall₂ SameBut (printed lines) (printed lines') := by
  induction same with
  | nil => exact .nil
  | cons form _ ih => exact .cons (.print form) ih

/-- The outcomes differ in the lines printed alone. -/
structure SameOutcome (o o' : Outcome) : Prop where
  client : o.client = o'.client
  effects : Forall₂ SameBut o.effects o'.effects
  blocked : o.blocked = o'.blocked

theorem SameOutcome.refl (o : Outcome) : SameOutcome o o := ⟨rfl, effects_refl o.effects, rfl⟩

theorem SameOutcome.of_eq {o o' : Outcome} (same : o = o') : SameOutcome o o' := same ▸ .refl o

theorem SameOutcome.after {o o' : Outcome} {effects effects' : List (Effect UInt16)}
    (same : SameOutcome o o') (before : Forall₂ SameBut effects effects') :
    SameOutcome (o.after effects) (o'.after effects') :=
  ⟨same.client, List.rel_append before same.effects, same.blocked⟩

theorem SameOutcome.andThen {o o' : Outcome} {next next' : UDPClient → Outcome}
    (same : SameOutcome o o') (nexts : ∀ c, SameOutcome (next c) (next' c)) :
    SameOutcome (o.andThen next) (o'.andThen next') := by
  obtain ⟨c, effects, blocked⟩ := o
  obtain ⟨c', effects', blocked'⟩ := o'
  obtain ⟨client, before, stops⟩ := same
  cases client
  cases stops
  cases blocked with
  | none => exact (nexts c).after before
  | some k => exact ⟨rfl, before, rfl⟩

theorem SameOutcome.resume {o o' : Outcome} (same : SameOutcome o o') (s : State) (back : Control) :
    (s.resume back o).1 = (s.resume back o').1 ∧
      Forall₂ SameBut (s.resume back o).2 (s.resume back o').2 := by
  refine ⟨?_, same.effects⟩
  simp only [State.resume, same.client, same.blocked]

/-! ### The decoder -/

/-- Two messages, received with these numbers of bytes, whose headers are the same. -/
structure SameMsg (m m' : UDPMessage) (n n' : Nat) : Prop where
  type : m.type = m'.type
  id : m.messageId = m'.messageId
  refId : m.type ≠ .invalidMsg → m.refMessageId = m'.refMessageId
  replyRoom : m.type = .replyOk → (n < 8 ↔ n' < 8)
  result : m.type = .replyOk → ¬ n < 8 → (m.buffer.getD 3 0 = 0 ↔ m'.buffer.getD 3 0 = 0)
  ref : m.type = .replyOk → ¬ n < 8 → readU16 m.buffer 4 = readU16 m'.buffer 4
  chatRoom : m.type = .msg ∨ m.type = .err → (n < 7 ↔ n' < 7)

theorem SameHeader.msg {d d' : Str} (same : SameHeader d d') :
    SameMsg (heard d) (heard d') d.length d'.length := by
  have reply (type : (heard d).type = .replyOk) : kind d = .reply := by
    rw [heard_type] at type
    cases isKind : kind d <;> rw [isKind] at type <;> first | rfl | cases type
  have chat (type : (heard d).type = .msg ∨ (heard d).type = .err) : kind d = .msg ∨ kind d = .err := by
    rw [heard_type] at type
    cases isKind : kind d <;> rw [isKind] at type <;> simp [Kind.type] at type ⊢
  refine ⟨?_, ?_, fun known => ?_, fun type => same.replyRoom (reply type), fun type room => ?_,
    fun type room => ?_, fun type => same.chatRoom (chat type)⟩
  · rw [heard_type, heard_type, same.sameKind]
  · show (if (kind d).numbered then msgId d else 65535) =
      if (kind d').numbered then msgId d' else 65535
    rw [← same.sameKind]
    split
    · rename_i numbered
      exact same.id fun invalid => by simp [invalid, Kind.numbered] at numbered
    · rfl
  · have known : kind d ≠ .invalid := fun invalid => known (by rw [heard_type, invalid]; rfl)
    have long := three_le_of_kind known
    have long' := three_le_of_kind (same.sameKind ▸ known)
    show (if (kind d).numbered ∨ d.length < 3 then 0 else msgId d) =
      if (kind d').numbered ∨ d'.length < 3 then 0 else msgId d'
    rw [← same.sameKind, same.id known]
    simp only [show ¬ d.length < 3 by omega, show ¬ d'.length < 3 by omega]
  · exact same.result (reply type) (by omega)
  · exact same.ref (reply type) (by omega)

/-- **The decoder** makes messages with the same header of them, and prints lines of the same form. -/
theorem SameMsg.decoded {m m' : UDPMessage} {n n' : Nat} (same : SameMsg m m' n n') :
    SameMsg (m.processInboundMsg n).1 (m'.processInboundMsg n').1 n n' ∧
      Forall₂ SameForm (m.processInboundMsg n).2 (m'.processInboundMsg n').2 := by
  have type := same.type
  unfold UDPMessage.processInboundMsg
  cases isType : m.type with
  | invalidMsg =>
    rw [← type, isType]
    exact ⟨same, .nil⟩
  | confirm =>
    rw [← type, isType]
    exact ⟨same, .nil⟩
  | bye =>
    rw [← type, isType]
    exact ⟨same, .nil⟩
  | replyOk =>
    rw [← type, isType]
    simp only
    by_cases short : n < 8
    · rw [if_pos short, if_pos ((same.replyRoom isType).mp short)]
      exact ⟨⟨rfl, same.id, fun known => absurd rfl known, by simp, by simp, by simp, by simp⟩,
        .cons (.notice _) .nil⟩
    · rw [if_neg short, if_neg (mt (same.replyRoom isType).mpr short)]
      have result := same.result isType short
      refine ⟨⟨?_, same.id, fun _ => same.ref isType short, fun _ => same.replyRoom isType,
        fun _ _ => result, fun _ => same.ref isType, ?_⟩, .nil⟩
      · simp only [result]
      · intro chat
        simp only at chat
        split at chat <;> simp at chat
  | msg =>
    rw [← type, isType]
    simp only
    by_cases short : n < 7
    · rw [if_pos short, if_pos ((same.chatRoom (Or.inl isType)).mp short)]
      exact ⟨⟨rfl, same.id, fun _ => same.refId (by simp [isType]), by simp, by simp, by simp,
        fun _ => same.chatRoom (Or.inl isType)⟩, .cons (.notice _) .nil⟩
    · rw [if_neg short, if_neg (mt (same.chatRoom (Or.inl isType)).mpr short)]
      exact ⟨same, .cons (.msg _ _ _ _) .nil⟩
  | err =>
    rw [← type, isType]
    simp only
    by_cases short : n < 7
    · rw [if_pos short, if_pos ((same.chatRoom (Or.inr isType)).mp short)]
      exact ⟨⟨rfl, same.id, fun _ => same.refId (by simp [isType]), by simp, by simp, by simp,
        fun _ => same.chatRoom (Or.inr isType)⟩, .cons (.notice _) .nil⟩
    · rw [if_neg short, if_neg (mt (same.chatRoom (Or.inr isType)).mpr short)]
      exact ⟨same, .cons (.err _ _ _ _) .nil⟩
  | _ =>
    rw [← type, isType]
    exact ⟨⟨rfl, same.id, fun known => absurd rfl known, by simp, by simp, by simp, by simp⟩,
      .cons (.notice _) .nil⟩

/-! ### The handlers -/

variable {m m' : UDPMessage} {n n' : Nat}

theorem SameMsg.printed (same : SameMsg m m' n n') : SameForm m.printMessage m'.printMessage := by
  unfold NetworkMessage.printMessage
  rw [← same.type]
  split
  · exact .message .cerr _ _
  · exact .message .cout _ _

theorem SameMsg.sendConfimExit (same : SameMsg m m' n n') (c : UDPClient) (exit : Bool) :
    c.sendConfimExit m exit = c.sendConfimExit m' exit := by
  unfold UDPClient.sendConfimExit
  rw [same.id, same.type]

theorem SameMsg.handleReply (same : SameMsg m m' n n') (known : m.type ≠ .invalidMsg) (c : UDPClient)
    (switchPort : Bool) (next : FsmState) :
    SameOutcome (c.handleReply m switchPort next) (c.handleReply m' switchPort next) := by
  unfold UDPClient.handleReply
  simp only [same.id, same.refId known, same.sendConfimExit]
  split
  · generalize (if switchPort then _ else _ : UDPClient) = c
    split
    · exact (SameOutcome.refl _).after (printed_same (.cons same.printed .nil))
    · exact .refl _
  · exact .refl _

theorem SameMsg.handleAuthState (same : SameMsg m m' n n') (c : UDPClient) :
    SameOutcome (c.handleAuthState m) (c.handleAuthState m') := by
  have type := same.type
  unfold UDPClient.handleAuthState
  cases isType : m.type with
  | confirm =>
    rw [← type, isType]
    refine .of_eq ?_
    unfold UDPClient.handleConfirm
    rw [same.refId (by simp [isType])]
  | replyOk =>
    rw [← type, isType]
    exact same.handleReply (by simp [isType]) c true .openState
  | replyNok =>
    rw [← type, isType]
    exact same.handleReply (by simp [isType]) c true .authState
  | err =>
    rw [← type, isType]
    exact .of_eq (same.sendConfimExit c true)
  | msg =>
    rw [← type, isType]
    simp only [same.id]
    exact .refl _
  | _ =>
    rw [← type, isType]
    exact .refl _

theorem SameMsg.handleOpenState (same : SameMsg m m' n n') (c : UDPClient) :
    SameOutcome (c.handleOpenState m n) (c.handleOpenState m' n') := by
  have type := same.type
  obtain ⟨again, lines⟩ := same.decoded
  have lines := printed_same lines
  unfold UDPClient.handleOpenState
  cases isType : m.type with
  | confirm =>
    rw [← type, isType]
    refine .of_eq ?_
    unfold UDPClient.handleConfirm
    rw [same.refId (by simp [isType])]
  | replyOk =>
    rw [← type, isType]
    exact same.handleReply (by simp [isType]) c false .openState
  | replyNok =>
    rw [← type, isType]
    exact same.handleReply (by simp [isType]) c false .openState
  | err =>
    rw [← type, isType]
    simp only [again.id]
    exact (SameOutcome.refl _).after lines
  | bye =>
    rw [← type, isType]
    simp only [again.id]
    exact (SameOutcome.refl _).after lines
  | msg =>
    rw [← type, isType]
    simp only [same.id]
    exact .of_eq (same.sendConfimExit _ false)
  | _ =>
    rw [← type, isType]
    exact (SameOutcome.refl _).after lines

/-- **`fsm_logic_handler`** on messages with the same header. -/
theorem SameMsg.fsmLogicHandler (same : SameMsg m m' n n') (c : UDPClient) (skip : Bool) :
    SameOutcome (c.fsmLogicHandler skip m n) (c.fsmLogicHandler skip m' n') := by
  obtain ⟨again, lines⟩ := same.decoded
  unfold UDPClient.fsmLogicHandler
  cases skip with
  | true => exact .refl _
  | false =>
    refine SameOutcome.after ?_ (printed_same lines)
    cases c.clientState with
    | startState =>
      simp only [again.type]
      exact .refl _
    | authState => exact again.handleAuthState c
    | openState => exact again.handleOpenState c

/-- The checks of the main loop. -/
theorem SameMsg.preHandle (same : SameMsg m m' n n') (c : UDPClient) :
    SameOutcome (c.preHandle m n) (c.preHandle m' n') := by
  obtain ⟨again, lines⟩ := same.decoded
  have lines := printed_same lines
  unfold UDPClient.preHandle
  simp only [again.id, same.id, same.type]
  split
  · exact (SameOutcome.refl _).after lines
  split
  · exact (SameOutcome.refl _).after lines
  · exact .refl _

/-! ### The receive paths -/

variable {d d' : Str}

theorem SameHeader.seen (same : SameHeader d d') (c : UDPClient) : c.Seen d ↔ c.Seen d' := by
  unfold Seen
  rw [← same.sameKind]
  refine and_congr_right fun numbered => ?_
  rw [same.id fun invalid => by simp [invalid, Kind.numbered] at numbered]

theorem SameHeader.awaited (same : SameHeader d d') (c : UDPClient) (m : UDPMessage) :
    c.Awaited m d ↔ c.Awaited m d' := by
  unfold Awaited
  rw [← same.sameKind]
  refine and_congr_right fun _ => and_congr_right fun confirm => ?_
  rw [same.id (by simp [confirm])]

theorem SameHeader.notices (same : SameHeader d d') : classifiedNotices d = classifiedNotices d' := by
  unfold classifiedNotices
  rw [same.sameKind]

theorem handled_same (same : SameHeader d d') (c : UDPClient) :
    SameOutcome (c.handled d) (c.handled d') := by
  unfold handled
  rw [classified_printed, classified_printed, classified_eq, classified_eq, ← same.notices,
    decide_eq_decide.mpr (same.seen c)]
  exact (same.msg.fsmLogicHandler c _).after (effects_refl _)

theorem receiveInMain_same (same : SameHeader d d') (c : UDPClient) :
    SameOutcome (c.receiveInMain d) (c.receiveInMain d') := by
  rw [receiveInMain_unfold, receiveInMain_unfold, classified_printed, classified_printed, ← same.notices]
  refine SameOutcome.after ?_ (effects_refl _)
  refine SameOutcome.andThen ?_ fun c' => ?_
  · simp only [same.seen c]
    split
    · exact .refl _
    · exact same.msg.preHandle c
  · rw [classified_eq, classified_eq, decide_eq_decide.mpr (same.seen c)]
    exact same.msg.fsmLogicHandler c' _

/-! ### Steps -/

/-- The datagrams received differ in texts, or the events are the same. -/
inductive Retold : Event → Event → Prop
  | same (e : Event) : Retold e e
  | datagram {content content' : Str} (port : UInt16) (errno : Errno) :
      SameHeader (content.take BUFFER_SIZE) (content'.take BUFFER_SIZE) →
      Retold (.recvfrom (.datagram content port errno)) (.recvfrom (.datagram content' port errno))

section Received

variable {content content' : Str} (port : UInt16) (errno : Errno)
  (same : SameHeader (content.take BUFFER_SIZE) (content'.take BUFFER_SIZE))

include same

/-- Both datagrams are empty, or none is. -/
theorem bytesRx_retold : (Received.datagram content port errno).bytesRx ≤ 0 ↔
    (Received.datagram content' port errno).bytesRx ≤ 0 := by
  show ((content.take BUFFER_SIZE).length : Int) ≤ 0 ↔ ((content'.take BUFFER_SIZE).length : Int) ≤ 0
  rw [Int.natCast_nonpos_iff, Int.natCast_nonpos_iff, List.length_eq_zero_iff, List.length_eq_zero_iff]
  exact same.empty

theorem acceptStep_retold (s : State) :
    (acceptStep s (.datagram content port errno)).1 = (acceptStep s (.datagram content' port errno)).1 ∧
      Forall₂ SameBut (acceptStep s (.datagram content port errno)).2
        (acceptStep s (.datagram content' port errno)).2 := by
  unfold acceptStep
  by_cases none : (Received.datagram content port errno).bytesRx ≤ 0
  · rw [if_pos none, if_pos ((bytesRx_retold port errno same).mp none)]
    exact ⟨rfl, effects_refl _⟩
  · rw [if_neg none, if_neg (mt (bytesRx_retold port errno same).mpr none)]
    exact (receiveInMain_same same _).resume s .poll

theorem timeoutStep_retold (s : State) (m : UDPMessage) (k : Nat) :
    (timeoutStep s m k (.datagram content port errno)).1 =
        (timeoutStep s m k (.datagram content' port errno)).1 ∧
      Forall₂ SameBut (timeoutStep s m k (.datagram content port errno)).2
        (timeoutStep s m k (.datagram content' port errno)).2 := by
  unfold timeoutStep
  by_cases none : (Received.datagram content port errno).bytesRx ≤ 0
  · simp only [if_pos none, if_pos ((bytesRx_retold port errno same).mp none)]
    exact ⟨rfl, effects_refl _⟩
  · simp only [if_neg none, if_neg (mt (bytesRx_retold port errno same).mpr none), receiveInTimeout_eq]
    by_cases awaited : s.client.Awaited m (Received.datagram content port errno).buffer
    · have awaited' : s.client.Awaited m (Received.datagram content' port errno).buffer :=
        (same.awaited s.client m).mp awaited
      rw [if_pos awaited, if_pos awaited']
      exact ⟨rfl, effects_refl _⟩
    · have awaited' : ¬ s.client.Awaited m (Received.datagram content' port errno).buffer :=
        mt (same.awaited s.client m).mpr awaited
      rw [if_neg awaited, if_neg awaited']
      exact (handled_same same s.client).resume s _

theorem byeStep_retold (s : State) (k : Nat) (ret : ExitCode) :
    byeStep s k ret (.datagram content port errno) = byeStep s k ret (.datagram content' port errno) := by
  by_cases none : (Received.datagram content port errno).bytesRx ≤ 0
  · unfold byeStep
    simp only [if_pos none, if_pos ((bytesRx_retold port errno same).mp none)]
    rfl
  · have none' := mt (bytesRx_retold port errno same).mpr none
    rw [byeStep_datagram s k ret (by omega), byeStep_datagram s k ret (by omega)]
    have confirmed : (kind (Received.datagram content port errno).buffer = .confirm ∧
          (msgId (Received.datagram content port errno).buffer).toNat = s.client.msgCounter) ↔
        (kind (Received.datagram content' port errno).buffer = .confirm ∧
          (msgId (Received.datagram content' port errno).buffer).toNat = s.client.msgCounter) := by
      show (kind (content.take BUFFER_SIZE) = _ ∧ _) ↔ (kind (content'.take BUFFER_SIZE) = _ ∧ _)
      rw [← same.sameKind]
      refine and_congr_right fun confirm => ?_
      show (msgId (content.take BUFFER_SIZE)).toNat = _ ↔ (msgId (content'.take BUFFER_SIZE)).toNat = _
      rw [same.id (by simp [confirm])]
    have notices : classifiedNotices (Received.datagram content port errno).buffer =
        classifiedNotices (Received.datagram content' port errno).buffer := same.notices
    simp only [confirmed, notices]

end Received

/-- **One step** on events that differ in texts. -/
theorem step_retold {s s' : State} {e e' : Event} {out : List (Effect UInt16)} (retold : Retold e e')
    (made : step s e = some (s', out)) :
    ∃ out', step s e' = some (s', out') ∧ Forall₂ SameBut out out' := by
  cases retold with
  | same => exact ⟨out, made, effects_refl out⟩
  | @datagram content content' port errno same =>
    cases step_calls made with
    | acceptStep accepting made =>
      obtain ⟨state, effects⟩ := acceptStep_retold port errno same s
      obtain ⟨rfl, rfl⟩ := Prod.ext_iff.mp made.symm
      rw [step_accepting accepting, state]
      exact ⟨_, rfl, effects⟩
    | @timeoutStep m k _ _ _ waiting made =>
      obtain ⟨state, effects⟩ := timeoutStep_retold port errno same s m k
      obtain ⟨rfl, rfl⟩ := Prod.ext_iff.mp made.symm
      rw [step_waiting waiting, state]
      exact ⟨_, rfl, effects⟩
    | @byeStep k ret _ _ _ exits made =>
      rw [step_exit exits, ← byeStep_retold port errno same, made]
      exact ⟨out, rfl, effects_refl out⟩

/-- **The texts of the server are displayed, and nothing else**: on events that differ in them the client
sends the same datagrams to the same ports, prints lines of the same form, and comes to the same state. -/
theorem texts_only_displayed {port : UInt16} {s s' : State} {events events' : List Event}
    {outs : List (Effect UInt16)} (driven : Drive (machine port) s events s' outs)
    (retold : Forall₂ Retold events events') :
    ∃ outs', Drive (machine port) s events' s' outs' ∧ Forall₂ SameBut outs outs' := by
  have coupled : Coupling (machine port) (machine port) Eq Retold SameBut := by
    constructor
    rintro s s' t e e' out rfl retold made
    obtain ⟨out', made', effects⟩ := step_retold retold made
    exact ⟨s', out', made', rfl, effects⟩
  obtain ⟨t, outs', driven', rfl, effects⟩ := coupled.drive driven rfl retold
  exact ⟨outs', driven', effects⟩

/-- A sign-in, and a MSG with this text. -/
def told (text : String) : List Event :=
  signIn ++ [socketReady,
    heardFrom 5000 ([UDP_MSG] ++ idBytes 7 ++ bytes "bob" ++ [0] ++ bytes text ++ [0])]

theorem texts_only_displayed_told :
    ∃ outs', Drive (machine 4567) booted (told "hello there") ((machine 4567).reached booted (told "hi"))
        outs' ∧
      Forall₂ SameBut ((((machine 4567).trace booted (told "hi")).getD []).flatMap Transition.out)
        outs' := by
  have header : SameHeader
      (([UDP_MSG] ++ idBytes 7 ++ bytes "bob" ++ [0] ++ bytes "hi" ++ [0]).take BUFFER_SIZE)
      (([UDP_MSG] ++ idBytes 7 ++ bytes "bob" ++ [0] ++ bytes "hello there" ++ [0]).take BUFFER_SIZE) :=
    ⟨by decide +kernel, by decide +kernel, fun _ => by decide +kernel, fun _ => by decide +kernel,
      fun reply => absurd reply (by decide +kernel), fun reply => absurd reply (by decide +kernel),
      fun _ => by decide +kernel⟩
  refine texts_only_displayed (.reached rfl) (List.rel_append ?_ ?_)
  · exact List.forall₂_same.mpr fun e _ => .same e
  · exact .cons (.same _) (.cons (.datagram 5000 _ header) .nil)

end UDPClient

end Ipk24Chat
