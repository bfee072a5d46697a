/-
**Every REPLY and MSG that the session takes is confirmed once, and every MSG displayed once.**

Datagrams come in any order, again and again, and on two paths. Those that are taken, `takenIn`, are the first
with their MessageID that the state has a branch for. As long as the session lasts, the CONFIRMs on the wire
are theirs, one each and in order; the chat displayed is that of the MSGs among them; and `seen_ids` is the
list of their ids, which so never outgrows the ids there are.

* `Handled.delivered`: what one datagram does, on either path;
* `step_delivers`, `step_leaves`: a step of a session that goes on, and the step that ends it;
* `step_chat`: how much of the chat a step displays;
* `exactly_once`: every run; behind the end of the session there are one CONFIRM and two lines more at
  most.
-/

import Ipk24Chat.Udp.Acknowledgement
import Ipk24Chat.Udp.Paths
import Ipk24Chat.Stdin.UserInput
import Mathlib.Data.Fintype.Card
import Mathlib.Data.List.Nodup

namespace Ipk24Chat

namespace UDPClient

open Reactive

/-! ### Datagrams that are taken -/

instance (c : UDPClient) (d : Str) : Decidable (c.Expected d) :=
  inferInstanceAs (Decidable (_ ∨ _))

/-- A REPLY or MSG whose id is new and for which the state has a branch. -/
def Acceptable (c : UDPClient) (d : Str) : Prop := ¬ c.Seen d ∧ c.Expected d ∧ kind d ≠ .confirm

instance (c : UDPClient) (d : Str) : Decidable (c.Acceptable d) := inferInstanceAs (Decidable (_ ∧ _ ∧ _))

/-- The datagram a transition takes. -/
def taken (t : Transition State Event (Effect UInt16)) : List Str :=
  match handed t with
  | some h => if t.before.client.Acceptable h.2 then [h.2] else []
  | none => []

/-- The datagrams taken in a run. -/
def takenIn (history : List (Transition State Event (Effect UInt16))) : List Str :=
  history.flatMap taken

/-- The line of the chat in a MSG. -/
def chatOf (d : Str) : Option Output :=
  if kind d = .msg then some (.msg (senderOf d).1 (textOf d)) else none

/-! ### One datagram -/

/-- What comes of these datagrams being taken. -/
structure Delivered (c c' : UDPClient) (effects : List (Effect UInt16)) (datagrams : List Str) : Prop where
  fresh : ∀ d ∈ datagrams, msgId d ∉ c.seenIds
  seen : c'.seenIds = c.seenIds ++ datagrams.map msgId
  confirmed : confirmsIn effects = datagrams.map msgId
  displayed : chatIn effects = datagrams.filterMap chatOf

/-- Nothing is taken. -/
theorem Delivered.none {c c' : UDPClient} {effects : List (Effect UInt16)} (same : c'.seenIds = c.seenIds)
    (silent : confirmsIn effects = []) (blank : chatIn effects = []) : Delivered c c' effects [] where
  fresh := fun _ member => by cases member
  seen := by rw [same, List.map_nil, List.append_nil]
  confirmed := silent
  displayed := blank

theorem chatIn_sendMsg (c : UDPClient) (m : UDPMessage) : chatIn (c.sendMsg m) = [] := rfl

theorem chatIn_notices (notices : List Notice) :
    chatIn (printed (notices.map .notice)) = [] := by
  unfold printed
  rw [chatIn_printed]
  induction notices with
  | nil => rfl
  | cons n rest ih => exact ih

theorem not_acceptable_of_confirm {c : UDPClient} {d : Str} (confirm : kind d = .confirm) :
    ¬ c.Acceptable d :=
  fun acceptable => acceptable.2.2 confirm

/-- **One datagram**, when the program goes on. -/
theorem Handled.delivered {c : UDPClient} {d : Str} {o : Outcome} (handled : Handled c d o)
    (returns : o.blocked = none) :
    Delivered c o.client o.effects (if c.Acceptable d then [d] else []) := by
  cases handled with
  | skipped seen =>
    rw [if_neg fun acceptable => acceptable.1 seen]
    exact .none rfl rfl rfl
  | confirmed confirm =>
    rw [if_neg (not_acceptable_of_confirm confirm)]
    exact .none rfl rfl rfl
  | unmatched confirm =>
    rw [if_neg (not_acceptable_of_confirm confirm)]
    exact .none rfl rfl rfl
  | dropped notices fresh notConfirm notMsg short auth =>
    have untaken : ¬ c.Acceptable d := by
      rintro ⟨_, expected, _⟩
      rcases expected with ⟨_, confirm | ⟨reply, long⟩⟩ | ⟨_, msg, _⟩
      · exact notConfirm confirm
      · exact absurd (short reply) (by omega)
      · exact notMsg msg
    rw [if_neg untaken]
    refine .none rfl ?_ ?_
    · simp [Outcome.done]
    · rw [Outcome.after_effects]
      exact (chatIn_append _ _).trans (by rw [chatIn_notices]; rfl)
  | reply reply fresh long begun =>
    have new : msgId d ∉ c.seenIds := fun seen => fresh ⟨by rw [reply]; rfl, seen⟩
    rw [if_pos ⟨fresh, Or.inl ⟨begun, Or.inr ⟨reply, long⟩⟩, by simp [reply]⟩]
    refine ⟨by simpa using new, rfl, ?_, ?_⟩
    · simp only [repliedEffects, confirmsIn_append, confirmsIn_confirmMsg]
      split
      · simp
      · rfl
    · rw [List.filterMap_cons, chatOf, if_neg (by simp [reply])]
      simp only [repliedEffects, chatIn_append, chatIn_sendMsg, List.append_nil]
      split
      · unfold printed
        rw [chatIn_printed, NetworkMessage.printMessage]
        split <;> rfl
      · rfl
  | msg msg fresh long isOpen =>
    have new : msgId d ∉ c.seenIds := fun seen => fresh ⟨by rw [msg]; rfl, seen⟩
    rw [if_pos ⟨fresh, Or.inr ⟨isOpen, msg, long⟩, by simp [msg]⟩]
    refine ⟨by simpa using new, rfl, ?_, ?_⟩
    · simp only [confirmsIn_append, confirmsIn_confirmMsg, confirmsIn_printed]
      rfl
    · rw [List.filterMap_cons, chatOf, if_pos msg]
      simp only [chatIn_append, chatIn_sendMsg, List.append_nil]
      rfl
  | leaving _ _ leaving => exact absurd returns leaving.blocked_ne

/-- A datagram that ends the session is not taken, and no id is noted for it. -/
theorem Handled.ends {c : UDPClient} {d : Str} {o : Outcome} (handled : Handled c d o)
    (stopped : o.blocked ≠ none) : ¬ c.Acceptable d ∧ o.client.seenIds = c.seenIds := by
  cases handled with
  | leaving _ unexpected leaving => exact ⟨fun acceptable => unexpected acceptable.2.1, leaving.seenIds⟩
  | _ => exact absurd rfl stopped

/-! ### One step -/

theorem taken_eq {s s' : State} {e : Event} {out : List (Effect UInt16)} {main : Bool} {d : Str}
    (given : handed ⟨s, e, s', out⟩ = some (main, d)) :
    taken ⟨s, e, s', out⟩ = if s.client.Acceptable d then [d] else [] := by
  unfold taken
  rw [given]

theorem taken_of_none {t : Transition State Event (Effect UInt16)} (given : handed t = none) :
    taken t = [] := by
  unfold taken
  rw [given]

/-- One datagram is taken at most. -/
theorem taken_nodup (t : Transition State Event (Effect UInt16)) : ((taken t).map msgId).Nodup := by
  unfold taken
  split
  · split
    · exact List.nodup_singleton _
    · exact .nil
  · exact .nil

theorem userLine_chat {c : UDPClient} (named : c.WellNamed) (line : Str) :
    chatIn (c.userLine line).effects = [] := by
  by_cases typed : line = []
  · unfold userLine
    rw [if_pos typed]
    rfl
  · rw [(userLine_fate named typed).effects]
    exact Fate.chatIn (Request.udp c.nextId) c.aiPort c.clientState c.replyMsgSent c.dname line

/-- A step without a datagram for the message logic, behind which no id and no line of the chat is new. -/
theorem Delivered.idle {s s' : State} {e : Event} {out : List (Effect UInt16)} (held : Repeats s)
    (made : step s e = some (s', out)) (given : handed ⟨s, e, s', out⟩ = Option.none)
    (same : s'.client.seenIds = s.client.seenIds) (blank : chatIn out = []) :
    Delivered s.client s'.client out (taken ⟨s, e, s', out⟩) := by
  rw [taken_of_none given]
  refine .none same ?_ blank
  rw [step_confirms held made, given]
  rfl

/-- **A step of a session that goes on** delivers what it takes. -/
theorem step_delivers {s s' : State} {e : Event} {out : List (Effect UInt16)} (held : Repeats s)
    (named : s.client.WellNamed) (made : step s e = some (s', out))
    (stays : s'.control.leaving = false) : Delivered s.client s'.client out (taken ⟨s, e, s', out⟩) := by
  have left : s'.control.leaving ≠ true := by simp [stays]
  have moves := step_moves made
  cases moves with
  | leave _ leaving => exact absurd (leaving.resume s .poll) left
  | bye _ _ _ _ _ _ leaves => exact absurd leaves left
  | poll socket stdin polling =>
    refine .idle held made (by simp [handed, polling]) ?_ rfl
    rw [pollStep_client]
  | idle r _ empty => exact .idle held made (handed_empty empty) rfl (chatIn_notices [.timeoutApplied])
  | accept r accepting nonempty handled =>
    rw [taken_eq (show handed ⟨s, _, _, _⟩ = some (true, r.buffer) by
      simp [handed, accepting, nonempty])]
    rcases handled.leaving_or_returns with leaving | returns
    · exact absurd (leaving.resume s .poll) left
    · obtain ⟨fresh, seen, confirmed, displayed⟩ := handled.delivered returns
      exact ⟨fresh, seen, confirmed, displayed⟩
  | line text reading lined =>
    refine .idle held made (by simp [handed, reading]) ?_ ?_
    · cases lined <;> rfl
    · rw [(step_getline made).2]
      exact userLine_chat named text
  | resend m k r _ empty => exact .idle held made (handed_empty empty) rfl rfl
  | giveUp m k r _ empty => exact .idle held made (handed_empty empty) rfl (chatIn_notices [.noData])
  | awaited m k r waiting nonempty awaited =>
    rw [taken_eq (show handed ⟨s, _, _, _⟩ = some (false, r.buffer) by
      simp [handed, waiting, nonempty]), if_neg (not_acceptable_of_confirm awaited.2.1)]
    exact .none rfl rfl rfl
  | receive m k r waiting nonempty _ handled =>
    rw [taken_eq (show handed ⟨s, _, _, _⟩ = some (false, r.buffer) by
      simp [handed, waiting, nonempty])]
    rcases handled.leaving_or_returns with leaving | returns
    · exact absurd (leaving.resume s _) left
    · exact handled.delivered returns

/-- **A step that ends the session, and every one behind it**, takes nothing. -/
theorem step_leaves {s s' : State} {e : Event} {out : List (Effect UInt16)}
    (made : step s e = some (s', out)) (leaves : s'.control.leaving = true) :
    taken ⟨s, e, s', out⟩ = [] ∧ s'.client.seenIds = s.client.seenIds := by
  cases step_moves made with
  | leave empty leaving =>
    refine ⟨taken_of_none ?_, leaving.seenIds⟩
    cases e with
    | recvfrom r => exact handed_empty (empty r rfl)
    | _ => unfold handed; cases s.control <;> rfl
  | bye k ret r control notices exits _ =>
    exact ⟨taken_of_none (by simp [handed, exits]), rfl⟩
  | poll socket stdin polling =>
    refine ⟨taken_of_none (by simp [handed, polling]), ?_⟩
    rw [pollStep_client]
  | accept r accepting nonempty handled =>
    rw [taken_eq (show handed ⟨s, _, _, _⟩ = some (true, r.buffer) by
      simp [handed, accepting, nonempty])]
    rcases handled.leaving_or_returns with leaving | returns
    · obtain ⟨unacceptable, same⟩ := handled.ends leaving.blocked_ne
      exact ⟨if_neg unacceptable, same⟩
    · rw [s.resume_of_returns returns] at leaves
      cases leaves
  | line text reading lined =>
    refine ⟨taken_of_none (by simp [handed, reading]), ?_⟩
    cases lined <;> rfl
  | receive m k r waiting nonempty _ handled =>
    rw [taken_eq (show handed ⟨s, _, _, _⟩ = some (false, r.buffer) by
      simp [handed, waiting, nonempty])]
    rcases handled.leaving_or_returns with leaving | returns
    · obtain ⟨unacceptable, same⟩ := handled.ends leaving.blocked_ne
      exact ⟨if_neg unacceptable, same⟩
    · rw [s.resume_of_returns returns] at leaves
      cases leaves
  | _ => cases leaves

/-! ### The lines of the chat in a step -/

theorem chatIn_exitProgram (c : UDPClient) (sendBye : Bool) (ret : ExitCode) :
    chatIn (c.exitProgram sendBye ret).effects = [] := by
  cases sendBye <;> rfl

theorem chatIn_gracefulExit (c : UDPClient) : chatIn c.gracefulExit.effects = [] := by
  unfold gracefulExit
  split <;> exact chatIn_exitProgram c _ _

/-- A datagram is decoded into one line at most. -/
theorem chatIn_decoded (m : UDPMessage) (bytesRx : Nat) :
    (chatIn (printed (m.processInboundMsg bytesRx).2)).length ≤ 1 := by
  have lines : (m.processInboundMsg bytesRx).2.length ≤ 1 := by
    unfold UDPMessage.processInboundMsg
    split
    · exact Nat.zero_le 1
    · exact Nat.zero_le 1
    · split
      · exact Nat.le_refl 1
      · exact Nat.zero_le 1
    · split
      · exact Nat.le_refl 1
      · exact Nat.le_refl 1
    · split
      · exact Nat.le_refl 1
      · exact Nat.le_refl 1
    · exact Nat.zero_le 1
    · exact Nat.le_refl 1
  unfold printed
  rw [chatIn_printed]
  exact (List.length_filter_le _ _).trans lines

theorem chatIn_handleReply (c : UDPClient) (m : UDPMessage) (switchPort : Bool) (next : FsmState) :
    chatIn (c.handleReply m switchPort next).effects = [] := by
  have text : m.printMessage.isChat = false := by
    unfold NetworkMessage.printMessage
    split <;> rfl
  unfold handleReply
  simp only
  have shown : chatIn (printed [m.printMessage]) = [] := by
    unfold printed
    rw [chatIn_printed, List.filter_cons_of_neg (by simp [text])]
    rfl
  have answer (c' : UDPClient) : chatIn (if frontId c'.replyIdVector = m.refMessageId.toNat then
      (UDPClient.sendConfimExit { c' with
        replyIdVector := c'.replyIdVector.tail, replyMsgSent := false, clientState := next }
        m false).after (printed [m.printMessage])
      else c'.sendConfimExit m false).effects = [] := by
    split
    · rw [Outcome.after_effects, chatIn_append, shown]
      rfl
    · rfl
  split
  · exact answer _
  · rfl

theorem chatIn_handleConfirm (c : UDPClient) (m : UDPMessage) :
    chatIn (c.handleConfirm m).effects = [] := by
  unfold handleConfirm
  split <;> rfl

theorem chatIn_sendConfimExit (c : UDPClient) (m : UDPMessage) :
    chatIn (c.sendConfimExit m true).effects = [] := by
  by_cases bye : m.type = .bye
  · simp only [sendConfimExit, sendConfirm, Outcome.andThen, if_pos bye]
    rfl
  · simp only [sendConfimExit, sendConfirm, Outcome.andThen, if_neg bye]
    rfl

theorem chatIn_handleAuthState (c : UDPClient) (m : UDPMessage) :
    chatIn (c.handleAuthState m).effects = [] := by
  unfold handleAuthState
  split
  · exact chatIn_handleConfirm c m
  · exact chatIn_handleReply c m true .openState
  · exact chatIn_handleReply c m true .authState
  · exact chatIn_sendConfimExit c m
  · rfl
  · rfl

/-- In OPEN_STATE what ends the session is decoded once more. -/
theorem chatIn_handleOpenState (c : UDPClient) (m : UDPMessage) (bytesRx : Nat) :
    (chatIn (c.handleOpenState m bytesRx).effects).length ≤ 1 := by
  have decoded {o : Outcome} (silent : chatIn o.effects = []) :
      (chatIn (o.after (printed (m.processInboundMsg bytesRx).2)).effects).length ≤ 1 := by
    rw [Outcome.after_effects, chatIn_append, silent, List.append_nil]
    exact chatIn_decoded m bytesRx
  unfold handleOpenState
  split
  · exact decoded rfl
  · exact decoded rfl
  · rw [chatIn_handleConfirm]
    exact Nat.zero_le 1
  · rw [chatIn_handleReply]
    exact Nat.zero_le 1
  · rw [chatIn_handleReply]
    exact Nat.zero_le 1
  · exact Nat.zero_le 1
  · exact decoded rfl

theorem chatIn_fsmLogicHandler (c : UDPClient) (skipMessage : Bool) (m : UDPMessage) (bytesRx : Nat) :
    (chatIn (c.fsmLogicHandler skipMessage m bytesRx).effects).length ≤ 2 := by
  have once := chatIn_decoded m bytesRx
  unfold fsmLogicHandler
  split
  · exact Nat.zero_le 2
  simp only [Outcome.after_effects, chatIn_append, List.length_append]
  split
  · split
    · rw [Outcome.after_effects, chatIn_append, chatIn_exitProgram]
      exact once.trans (Nat.le_succ 1)
    · exact once.trans (Nat.le_succ 1)
  · rw [chatIn_handleAuthState]
    exact once.trans (Nat.le_succ 1)
  · exact Nat.add_le_add once (chatIn_handleOpenState _ _ _)

/-- **A datagram is displayed twice at most**: an ERR that ends an open session, in the wait for a
CONFIRM. -/
theorem chatIn_handled (c : UDPClient) (d : Str) : (chatIn (c.handled d).effects).length ≤ 2 := by
  rw [handled, Outcome.after_effects, chatIn_append, classified_printed, chatIn_notices, List.nil_append]
  exact chatIn_fsmLogicHandler c _ _ _

theorem chatIn_receiveInTimeout (c : UDPClient) (m : UDPMessage) (d : Str) :
    (chatIn (c.receiveInTimeout m d).2.effects).length ≤ 2 := by
  rw [receiveInTimeout_eq]
  split
  · exact Nat.zero_le 2
  · exact chatIn_handled c d

theorem chatIn_preHandle (c : UDPClient) (m : UDPMessage) (bytesRx : Nat) :
    (chatIn (c.preHandle m bytesRx).effects).length ≤ 1 := by
  have decoded {o : Outcome} (silent : chatIn o.effects = []) :
      (chatIn (o.after (printed (m.processInboundMsg bytesRx).2)).effects).length ≤ 1 := by
    rw [Outcome.after_effects, chatIn_append, silent, List.append_nil]
    exact chatIn_decoded m bytesRx
  unfold preHandle
  split
  · exact decoded rfl
  split
  · exact decoded rfl
  split
  · exact Nat.zero_le 1
  split
  · exact Nat.zero_le 1
  · exact Nat.zero_le 1

theorem chatIn_receiveInMain (c : UDPClient) (d : Str) :
    (chatIn (c.receiveInMain d).effects).length ≤ 2 := by
  by_cases early : c.PreHandled d
  · rw [receiveInMain_eq_preHandle early, Outcome.after_effects, chatIn_append, chatIn_notices,
      List.nil_append]
    exact (chatIn_preHandle c _ _).trans (Nat.le_succ 1)
  · rw [receiveInMain_eq_handled early]
    exact chatIn_handled c d

/-- **A step** displays two lines of the chat at most, and none when the program is leaving. -/
theorem step_chat {s s' : State} {e : Event} {out : List (Effect UInt16)}
    (named : s.client.WellNamed) (made : step s e = some (s', out)) :
    (chatIn out).length ≤ 2 ∧ (s.control.leaving = true → chatIn out = []) := by
  have silent {effects : List (Effect UInt16)} (none : chatIn effects = []) :
      (chatIn effects).length ≤ 2 ∧ (s.control.leaving = true → chatIn effects = []) :=
    ⟨by simp [none], fun _ => none⟩
  have notices (n : Notice) (c : UDPClient) (sendBye : Bool) :
      chatIn ((c.exitProgram sendBye .failure).after (printed [.notice n])).effects = [] := by
    rw [Outcome.after_effects, chatIn_append, chatIn_exitProgram, List.append_nil]
    exact chatIn_notices [n]
  cases step_calls made with
  | gracefulExit _ made =>
    obtain rfl := congrArg Prod.snd made
    exact silent (chatIn_gracefulExit s.client)
  | @pollStep result _ _ _ made =>
    obtain rfl := congrArg Prod.snd made
    refine silent ?_
    cases result with
    | failed => exact notices .pollFailed s.client false
    | ready socket stdin =>
      simp only [pollStep]
      split
      · rfl
      · split <;> rfl
  | @acceptStep r _ _ accepting made =>
    obtain rfl := congrArg Prod.snd made
    unfold acceptStep
    split
    · split
      · exact silent (chatIn_notices [.timeoutApplied])
      · exact silent (notices .noData s.client false)
    · exact ⟨chatIn_receiveInMain _ _, fun leaving => by simp [accepting, Control.leaving] at leaving⟩
  | @getlineStep line _ _ _ made =>
    obtain rfl := congrArg Prod.snd made
    cases line with
    | none => exact silent (chatIn_exitProgram s.client true .failure)
    | some text => exact silent (userLine_chat named text)
  | @timeoutStep m k r _ _ waiting made =>
    obtain rfl := congrArg Prod.snd made
    unfold timeoutStep
    simp only
    split
    · split
      · split
        · exact silent (notices .maxTimeouts s.client true)
        · exact silent rfl
      · exact silent (chatIn_notices [.noData])
    · refine ⟨?_, fun leaving => by simp [waiting, Control.leaving] at leaving⟩
      split <;> exact chatIn_receiveInTimeout s.client m r.buffer
  | @byeStep k ret r _ _ _ made =>
    obtain ⟨control, lines, _, spec⟩ := byeStep_spec s k ret r
    rw [spec] at made
    obtain rfl := congrArg Prod.snd made
    exact silent (chatIn_notices lines)

/-! ### The run -/

/-- **The account of a run**: what has been confirmed and displayed, and the ids that are noted. -/
structure Accounted (history : List (Transition State Event (Effect UInt16))) (s : State) : Prop where
  distinct : ((takenIn history).map msgId).Nodup
  seen : s.client.seenIds = (takenIn history).map msgId
  confirmed : ∃ last, confirmsIn (history.flatMap Transition.out) = (takenIn history).map msgId ++ last ∧
    last.length ≤ 1 ∧ (s.control.leaving = false → last = [])
  displayed : ∃ last, chatIn (history.flatMap Transition.out) =
    (takenIn history).filterMap chatOf ++ last ∧
    last.length ≤ 2 ∧ (s.control.leaving = false → last = [])

/-- A program that is leaving confirms nothing. -/
theorem handed_of_leaving {s s' : State} {e : Event} {out : List (Effect UInt16)}
    (leaving : s.control.leaving = true) : handed ⟨s, e, s', out⟩ = none := by
  revert leaving
  cases control : s.control <;> simp [handed, control, Control.leaving]

/-- Every run keeps its account. -/
theorem accounted_run {port : UInt16} {s : State}
    {history : List (Transition State Event (Effect UInt16))} (run : Run (machine port) history s) :
    Accounted history s := by
  induction run with
  | start initial =>
    obtain ⟨limit, revents, rfl⟩ := initial
    exact ⟨.nil, rfl, ⟨[], rfl, Nat.zero_le 1, fun _ => rfl⟩, ⟨[], rfl, Nat.zero_le 2, fun _ => rfl⟩⟩
  | @next history s s' input out earlier made ih =>
    have held := repeats_run earlier
    have named := wellNamed_reachable earlier.reachable
    have more : takenIn (history ++ [⟨s, input, s', out⟩]) =
        takenIn history ++ taken ⟨s, input, s', out⟩ := by
      simp [takenIn]
    have puts : List.flatMap Transition.out (history ++ [⟨s, input, s', out⟩]) =
        history.flatMap Transition.out ++ out := by
      simp
    have sent := step_confirms held made
    obtain ⟨confirms, confirmed, short, none⟩ := ih.confirmed
    obtain ⟨chat, displayed, short', none'⟩ := ih.displayed
    cases stays : s'.control.leaving with
    | true =>
      obtain ⟨nothing, same⟩ := step_leaves made stays
      obtain ⟨twice, silent⟩ := step_chat named made
      rw [nothing, List.append_nil] at more
      have left : ¬ s'.control.leaving = false := by simp [stays]
      -- only the step that ends the session has a CONFIRM or a line of the chat
      have bounded : (confirms ++ confirmsIn out).length ≤ 1 ∧ (chat ++ chatIn out).length ≤ 2 := by
        rw [sent, List.length_append, List.length_append]
        cases leaving : s.control.leaving with
        | true =>
          rw [handed_of_leaving leaving, silent leaving]
          exact ⟨by simpa using short, by simpa using short'⟩
        | false =>
          rw [none leaving, none' leaving, List.length_nil, Nat.zero_add, List.length_nil, Nat.zero_add]
          exact ⟨Option.length_toList_le, twice⟩
      refine ⟨by rw [more]; exact ih.distinct, by rw [more, same]; exact ih.seen,
        ⟨confirms ++ confirmsIn out, ?_, bounded.1, fun lasts => absurd lasts left⟩,
        ⟨chat ++ chatIn out, ?_, bounded.2, fun lasts => absurd lasts left⟩⟩
      · rw [puts, more, confirmsIn_append, confirmed, List.append_assoc]
      · rw [puts, more, chatIn_append, displayed, List.append_assoc]
    | false =>
      have stayed : s.control.leaving = false := by
        by_contra left
        cases stays.symm.trans (leaving_step made (by simpa using left))
      have delivered := step_delivers held named made stays
      have seen : s'.client.seenIds = (takenIn history ++ taken ⟨s, input, s', out⟩).map msgId := by
        rw [delivered.seen, ih.seen, List.map_append]
      refine ⟨?_, by rw [more]; exact seen, ⟨[], ?_, Nat.zero_le 1, fun _ => rfl⟩,
        ⟨[], ?_, Nat.zero_le 2, fun _ => rfl⟩⟩
      · rw [more, List.map_append, List.nodup_append]
        refine ⟨ih.distinct, taken_nodup _, ?_⟩
        rintro id old _ new rfl
        obtain ⟨d, member, same⟩ := List.mem_map.mp new
        rw [← ih.seen, ← same] at old
        exact delivered.fresh d member old
      · rw [puts, more, confirmsIn_append, confirmed, none stayed, delivered.confirmed]
        simp
      · rw [puts, more, chatIn_append, displayed, none' stayed, delivered.displayed]
        simp

/-- Distinct ids are no more than there are. -/
theorem length_le_of_nodup {ids : List UInt16} (distinct : ids.Nodup) : ids.length ≤ 65536 := by
  have fins : (ids.map UInt16.toFin).Nodup := distinct.map fun _ _ => UInt16.toFin_inj.mp
  have bound := fins.length_le_card
  rwa [List.length_map, Fintype.card_fin] at bound

/-- **Exactly once**: in every run, the datagrams taken have distinct ids, which are those of `seen_ids`; each
has been confirmed once and, if it is a MSG, displayed once, in the order in which they were taken, and
there is no other CONFIRM or line of the chat as long as the session lasts; behind it there is one CONFIRM
and there are two lines more at most. The vector does not outgrow the ids there are, however long the
session is. -/
theorem exactly_once {port : UInt16} {s : State}
    {history : List (Transition State Event (Effect UInt16))} (run : Run (machine port) history s) :
    Accounted history s ∧ s.client.seenIds.length ≤ 65536 := by
  have accounted := accounted_run run
  refine ⟨accounted, ?_⟩
  rw [accounted.seen]
  exact length_le_of_nodup accounted.distinct

/-- A sign-in, two copies of a MSG in the wait for a CONFIRM, and a third one in the main loop. -/
def copied : List Event :=
  signIn ++ typed "hello" ++ List.replicate 2 (heardFrom 5000 (hiFromBob UDP_MSG 7)) ++
    [heardFrom 5000 (confirmDatagram 1), socketReady, heardFrom 5000 (hiFromBob UDP_MSG 7)]

theorem exactly_once_copied :
    Accounted (((machine 4567).trace booted copied).getD []) ((machine 4567).reached booted copied) ∧
      ((machine 4567).reached booted copied).client.seenIds.length ≤ 65536 :=
  exactly_once (.reached booted_init rfl)

end UDPClient

end Ipk24Chat
