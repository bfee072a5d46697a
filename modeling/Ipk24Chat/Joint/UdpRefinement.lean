/-
**The UDP client implements the dialogue**, over any network.

Datagrams may be lost, copied, delayed and forged; `occurrence` reads off a step what of this means anything
to the session. A datagram is something only when its id is new; a CONFIRM, a timeout and what is sent
again are nothing. Both receive paths are told apart, since they do not answer everything alike.

* `handledAs`, `heardAs`: what a datagram is to the session, on either path;
* `handled_performs`, `receiveInMain_performs`, `step_occurs`: one step;
* `udp_refines`: every run.
-/

import Ipk24Chat.Joint.TcpRefinement
import Ipk24Chat.Joint.UdpTurns
import Ipk24Chat.Udp.Acknowledgement

namespace Ipk24Chat

namespace UDPClient

open Reactive
open List (Forall₂)

/-! ### What the events are -/

/-- A REPLY is something when it answers the request. -/
def replyAs (c : UDPClient) (d : Str) : Option Occurrence :=
  if c.answered d then some (.reply (decide (d.getD 3 0 ≠ 0))) else none

/-- What a datagram is to the session in `fsm_logic_handler`. -/
def handledAs (c : UDPClient) (d : Str) : Option Occurrence :=
  if c.Seen d then none
  else match c.clientState, kind d with
    | .startState, _ => some .failure
    | _, .confirm => none
    | _, .err => some .failure
    | .authState, .reply => if 8 ≤ d.length then c.replyAs d else none
    | .authState, .msg => some (if 7 ≤ d.length then .unexpected else .failure)
    | .authState, .bye => none
    | .authState, .invalid => none
    | .openState, .reply => if 8 ≤ d.length then c.replyAs d else some .unexpected
    | .openState, .msg => if 7 ≤ d.length then none else some .failure
    | .openState, .bye => some (.closed .failure)
    | .openState, .invalid => some .unexpected

/-- What a datagram is to the session in the main loop. -/
def heardAs (c : UDPClient) (d : Str) : Option Occurrence :=
  if c.PreHandled d then some (if kind d = .err then .failure else .unexpected) else c.handledAs d

/-- What a transition is to the session. -/
def occurrence (t : Transition State Event (Effect UInt16)) : Option Occurrence :=
  match t.before.control, t.input with
  | _, .sigint => some .interrupt
  | _, .poll .failed => some (.closed .failure)
  | _, .getline none => some .failure
  | _, .getline (some text) => some (.line text)
  | .acceptMsg, .recvfrom r =>
    if r.bytesRx ≤ 0 then if r.errno.again then none else some (.closed .failure)
    else t.before.client.heardAs r.buffer
  | .handleTimeout m k, .recvfrom r =>
    if r.bytesRx ≤ 0 then
      if r.errno.again ∧ k = t.before.client.maxUdpRetransmission.toNat then some .failure else none
    else if t.before.client.Awaited m r.buffer then none
    else t.before.client.handledAs r.buffer
  | _, _ => none

/-- What has occurred in a history. -/
def occurrences (history : List (Transition State Event (Effect UInt16))) : List Occurrence :=
  history.flatMap fun t => (occurrence t).toList

/-- The message that waits for its CONFIRM is sent again. -/
def resends (t : Transition State Event (Effect UInt16)) : Bool :=
  match t.before.control, t.after.control with
  | .handleTimeout _ k, .handleTimeout _ k' => decide (k < k')
  | _, _ => false

/-- What a transition says, CONFIRMs, repetitions and empty datagrams aside. -/
def spokenIn (t : Transition State Event (Effect UInt16)) : List Str :=
  if resends t then [] else numberedIn t.out

/-! ### Outcomes -/

/-- How the program ends, also while it waits for the CONFIRM of the BYE. -/
def Control.ending : Control → Option Ending
  | .exitProgram _ ret | .exited ret => some (some ret)
  | _ => none

/-- What a state is to the dialogue. -/
def State.stage (s : State) : Stage := ⟨s.client.dialogue, s.control.ending⟩

/-- What an outcome leads to. -/
def Outcome.stage (o : Outcome) : Stage := ⟨o.client.dialogue, o.blocked.bind Control.ending⟩

/-- **The outcome has the letters of the turn**, whatever the network makes of them. -/
structure Makes (t : Turn) (o : Outcome) : Prop where
  stage : o.stage = t.stage
  sent : Forall₂ DatagramOf t.sent (numberedIn o.effects)

theorem Makes.after {t : Turn} {o : Outcome} (makes : Makes t o) {effects : List (Effect UInt16)}
    (silent : numberedIn effects = []) : Makes t (o.after effects) where
  stage := makes.stage
  sent := by
    rw [Outcome.after_effects, numberedIn_append, silent, List.nil_append]
    exact makes.sent

/-- Lines are printed before. -/
theorem Makes.printed {t : Turn} {o : Outcome} (makes : Makes t o) (lines : List Output) :
    Makes t (o.after (printed lines)) := makes.after (numberedIn_printed lines)

/-- A CONFIRM is sent before. -/
theorem Makes.confirmed {t : Turn} {o : Outcome} (makes : Makes t o) (c : UDPClient) (id : UInt16) :
    Makes t (o.after (c.sendMsg (confirmMsg id))) := makes.after (numberedIn_confirm c id)

/-- Nothing is said. -/
theorem makes_of_silent {t : Turn} {o : Outcome} (stage : o.stage = t.stage) (quiet : t.sent = [])
    (silent : numberedIn o.effects = []) : Makes t o := by
  refine ⟨stage, ?_⟩
  rw [quiet, silent]
  exact .nil

theorem bye_makes (c : UDPClient) (ret : ExitCode) :
    Makes ⟨c.dialogue, [.bye], some ret⟩ (c.exitProgram true ret) := by
  refine ⟨rfl, ?_⟩
  rw [show numberedIn (c.exitProgram true ret).effects = [c.byeMsg.udpBuffer] from
    c.byeMsg_numbered.sent c]
  exact .cons ⟨.bye, c.nextId, rfl, rfl⟩ .nil

theorem silent_makes (c : UDPClient) (ret : ExitCode) :
    Makes ⟨c.dialogue, [], some ret⟩ (c.exitProgram false ret) := ⟨rfl, .nil⟩

theorem sendErrorExit_makes (c : UDPClient) : Makes c.dialogue.reject c.sendErrorExit := by
  refine ⟨rfl, ?_⟩
  have effects : c.sendErrorExit.effects = c.erred.sendMsg c.errMsg ++
      c.erred.sendMsg c.erred.byeMsg := rfl
  rw [effects, numberedIn_append, c.errMsg_numbered.sent, c.erred.byeMsg_numbered.sent]
  exact .cons ⟨.err c.dname _, c.nextId, rfl, rfl⟩ (.cons ⟨.bye, c.erred.nextId, rfl, rfl⟩ .nil)

theorem gracefulExit_makes (c : UDPClient) : Makes c.dialogue.interrupted c.gracefulExit := by
  unfold gracefulExit Dialogue.interrupted
  by_cases start : c.clientState = .startState
  · rw [if_pos start, if_pos (show c.dialogue.state = .startState from start)]
    exact silent_makes c .success
  · rw [if_neg start, if_neg (show ¬ c.dialogue.state = .startState from start)]
    exact bye_makes c .success

/-- **The outcome is the one of what has occurred.** -/
def Performs (c : UDPClient) (occurred : Option Occurrence) (o : Outcome) : Prop :=
  Dialogue.Leads DatagramOf ⟨c.dialogue, none⟩ occurred o.stage (numberedIn o.effects)

theorem Makes.performs {c : UDPClient} {t : Turn} {o : Outcome} (makes : Makes t o)
    {occurred : Occurrence} (occurs : c.dialogue.occur occurred = some t.made) :
    Performs c (some occurred) o := by
  rw [Performs, makes.stage]
  exact Dialogue.leads_occur occurs makes.sent

/-- Nothing has occurred. -/
theorem performs_none {c : UDPClient} {o : Outcome} (same : o.stage = ⟨c.dialogue, none⟩)
    (silent : numberedIn o.effects = []) : Performs c none o := by
  rw [Performs, same, silent]
  exact Dialogue.leads_none _

theorem resume_stage (s : State) {back : Control} (stays : back.ending = none) (o : Outcome) :
    (s.resume back o).1.stage = o.stage := by
  show (⟨o.client.dialogue, (o.blocked.getD back).ending⟩ : Stage) = _
  unfold Outcome.stage
  cases o.blocked with
  | none => rw [Option.getD_none, stays, Option.bind_none]
  | some k => rfl

/-! ### Lines -/

/-- What `send_msg` sends for a line: the letter of its request, or an empty datagram. -/
theorem request_sent (c : UDPClient) {m : UDPMessage} {request : Option Request} {id : UInt16}
    (wire : m.udpBuffer = request.elim [] (Request.udp id)) :
    Forall₂ DatagramOf (request.toList.map .request) (numberedIn (c.sendMsg m)) := by
  cases request with
  | none =>
    have empty : m.udpBuffer = [] := wire
    rw [numberedIn_sendMsg, if_pos (Or.inl empty)]
    exact .nil
  | some r =>
    have numbered : Numbered m id := ⟨.request r, Outgoing.noConfusion, wire⟩
    rw [numbered.sent]
    exact .cons ⟨.request r, id, rfl, wire⟩ .nil

/-- **A line of the user.** -/
theorem userLine_makes (c : UDPClient) (text : Str) :
    Makes (c.dialogue.line text) (c.userLine text) := by
  by_cases typed : text = []
  · unfold userLine Dialogue.line
    rw [if_pos typed, if_pos typed]
    exact makes_of_silent rfl rfl rfl
  have type := (c.userMsg_describes text).type
  have wire : (c.userMsg text).1.udpBuffer =
      ((command text).request c.dname text).elim [] (Request.udp c.nextId) :=
    UDPMessage.udpBuffer_userCmd c.dname text c.nextId
  have kept (counter : Nat) (lines more : List Output) :
      Makes ⟨{ c.dialogue with name := (command text).name c.dname }, [], none⟩
        (((Outcome.done (c.named ((command text).name c.dname) counter)).after
          (UDPClient.printed more)).after (UDPClient.printed lines)) :=
    Makes.printed (Makes.printed ⟨rfl, .nil⟩ more) lines
  rw [userLine_eq c typed]
  cases ready : (command text).ready with
  | false =>
    rw [Dialogue.line_kept typed (Or.inl ready)]
    exact kept c.msgCounter _ []
  | true =>
    rw [if_pos rfl, dispatch_eq, type ready]
    have state : (c.named ((command text).name c.dname) c.msgCounter).clientState = c.clientState := rfl
    rw [state]
    cases admits : Admits c.clientState (command text).type with
    | false =>
      rw [Dialogue.line_kept typed (Or.inr admits), if_neg Bool.false_ne_true]
      exact kept (c.msgCounter + 1) _ _
    | true =>
      rw [Dialogue.line_admitted typed ready admits, if_pos rfl]
      refine Makes.printed ⟨rfl, ?_⟩ _
      rw [sendUserMsg, Outcome.after_effects, numberedIn_append]
      show Forall₂ DatagramOf _ (numberedIn (UDPClient.sendMsg _ _) ++ [])
      rw [List.append_nil]
      exact request_sent _ wire

/-! ### Datagrams -/

/-- The REPLY that is awaited leads on as the dialogue does. -/
theorem hear_answered {c : UDPClient} {d : Str} (answered : c.answered d = true)
    (begun : c.clientState ≠ .startState) :
    c.dialogue.hear (.reply (decide (d.getD 3 0 ≠ 0))) = ⟨(c.replied d).dialogue, [], none⟩ := by
  have awaited : (c.replied d).replyMsgSent = false := by simp [replied, answered]
  have state : (c.replied d).clientState =
      if c.clientState = .authState ∧ replyType d = .replyNok then .authState else .openState :=
    if_pos answered
  rw [dialogue, dialogue, awaited, state]
  simp only [replyType_nok_iff]
  generalize decide (d.getD 3 0 ≠ 0) = ok
  cases before : c.clientState with
  | startState => exact absurd before begun
  | authState => cases ok <;> rfl
  | openState => rfl

/-- **A decoded REPLY.** -/
theorem reply_performs {c : UDPClient} (d : Str) (begun : c.clientState ≠ .startState) :
    Performs c (c.replyAs d) ⟨c.replied d, c.repliedEffects d, none⟩ := by
  have silent : numberedIn (c.repliedEffects d) = [] := by
    rw [repliedEffects, numberedIn_append, numberedIn_confirm, List.append_nil]
    split
    · exact numberedIn_printed _
    · rfl
  unfold replyAs
  cases answered : c.answered d with
  | true =>
    have awaited : c.dialogue.awaited = true := (Bool.and_eq_true_iff.mp answered).1
    rw [if_pos rfl]
    refine Makes.performs (t := c.dialogue.hear (.reply (decide (d.getD 3 0 ≠ 0)))) ?_
      (if_pos ⟨awaited, begun⟩)
    rw [hear_answered answered begun]
    exact makes_of_silent rfl rfl silent
  | false =>
    rw [if_neg Bool.false_ne_true]
    refine performs_none ?_ silent
    simp [Outcome.stage, dialogue, replied, answered]

/-- An ERR in AUTH_STATE. -/
theorem handleAuthState_err (c : UDPClient) {m : UDPMessage} (err : m.type = .err) :
    Makes ⟨c.dialogue, [.bye], some .failure⟩ (c.handleAuthState m) := by
  have handler : c.handleAuthState m =
      (c.exitProgram true .failure).after (c.sendMsg (confirmMsg m.messageId)) := by
    unfold handleAuthState sendConfimExit
    simp only [err, sendConfirm_andThen, if_true, reduceCtorEq, if_false]
  rw [handler]
  exact (bye_makes c .failure).confirmed c _

/-- An ERR in OPEN_STATE. -/
theorem handleOpenState_err (c : UDPClient) {m : UDPMessage} (err : m.type = .err) (bytesRx : Nat) :
    Makes ⟨c.dialogue, [.bye], some .failure⟩ (c.handleOpenState m bytesRx) := by
  unfold handleOpenState
  simp only [err, sendConfirm_andThen]
  exact ((bye_makes c .failure).confirmed c _).printed _

/-- A message without a type in OPEN_STATE. -/
theorem handleOpenState_invalid (c : UDPClient) {m : UDPMessage} (invalid : m.type = .invalidMsg)
    (bytesRx : Nat) : Makes c.dialogue.reject (c.handleOpenState m bytesRx) := by
  unfold handleOpenState
  simp only [invalid, sendConfirm_andThen]
  exact ((sendErrorExit_makes c).confirmed c _).printed _

/-- The decoder keeps the type of an ERR. -/
theorem decoded_type_err {d : Str} (err : kind d = .err) :
    ((heard d).processInboundMsg d.length).1.type = .err := by
  rw [decoded_err err, heard_type, err]
  rfl

/-- Lines are printed, and the program goes on. -/
theorem done_performs (c : UDPClient) (lines : List Output) :
    Performs c none ((Outcome.done c).after (printed lines)) := by
  refine performs_none rfl ?_
  rw [Outcome.after_effects, numberedIn_append, numberedIn_printed]
  rfl

/-- A CONFIRM is nothing to the session. -/
theorem confirm_performs {c : UDPClient} {d : Str} (begun : c.clientState ≠ .startState)
    (confirm : kind d = .confirm) : Performs c none (c.handled d) := by
  have handled := handled_handled c d
  generalize c.handled d = o at handled
  cases handled with
  | skipped => exact done_performs c []
  | confirmed => exact performs_none rfl rfl
  | unmatched => exact done_performs c []
  | reply reply => cases confirm.symm.trans reply
  | msg msg => cases confirm.symm.trans msg
  | dropped _ _ other => exact absurd confirm other
  | leaving _ unexpected => exact absurd (Or.inl ⟨begun, Or.inl confirm⟩) unexpected

/-- A decoded REPLY that is new. -/
theorem handled_reply_performs {c : UDPClient} {d : Str} (fresh : ¬ c.Seen d)
    (begun : c.clientState ≠ .startState) (reply : kind d = .reply) (long : 8 ≤ d.length) :
    Performs c (c.replyAs d) (c.handled d) := by
  rw [(handled_handled c d).of_reply fresh reply long begun]
  exact reply_performs d begun

/-- **The handler of AUTH_STATE.** -/
theorem auth_performs {c : UDPClient} {d : Str} (fresh : ¬ c.Seen d) (auth : c.clientState = .authState) :
    Performs c (c.handledAs d) (c.handled d) := by
  have begun : c.clientState ≠ .startState := by simp [auth]
  have unfolded := handled_fresh fresh
  rw [auth] at unfolded
  simp only at unfolded
  unfold handledAs
  rw [if_neg fresh, auth]
  cases isKind : kind d with
  | confirm => exact confirm_performs begun isKind
  | reply =>
    by_cases long : 8 ≤ d.length
    · simp only [if_pos long]
      exact handled_reply_performs fresh begun isKind long
    · simp only [if_neg long]
      rw [unfolded, decode_reply_short isKind (by omega)]
      exact done_performs c _
  | msg =>
    by_cases long : 7 ≤ d.length
    · simp only [if_pos long]
      have handler : c.handleAuthState (heard d) =
          c.sendErrorExit.after (c.sendMsg (confirmMsg (heard d).messageId)) := by
        simp only [handleAuthState, heard_type, isKind, Kind.type, sendConfirm_andThen]
      rw [unfolded, decode_msg isKind long, handler]
      exact (((sendErrorExit_makes c).confirmed c _).printed _).performs rfl
    · simp only [if_neg long]
      rw [unfolded, decode_short (Or.inl isKind) (by omega)]
      exact ((handleAuthState_err c rfl).printed _).performs rfl
  | err =>
    rw [unfolded]
    exact ((handleAuthState_err c (decoded_type_err isKind)).printed _).performs rfl
  | bye =>
    have handler : c.handleAuthState (heard d) = .done c := by
      simp only [handleAuthState, heard_type, isKind, Kind.type]
    rw [unfolded, decode_plain (Or.inr (Or.inl isKind)), handler]
    exact done_performs c _
  | invalid =>
    have handler : c.handleAuthState (heard d) = .done c := by
      simp only [handleAuthState, heard_type, isKind, Kind.type]
    rw [unfolded, decode_plain (Or.inr (Or.inr isKind)), handler]
    exact done_performs c _

/-- **The handler of OPEN_STATE.** -/
theorem open_performs {c : UDPClient} {d : Str} (fresh : ¬ c.Seen d) (isOpen : c.clientState = .openState) :
    Performs c (c.handledAs d) (c.handled d) := by
  have begun : c.clientState ≠ .startState := by simp [isOpen]
  have unfolded := handled_fresh fresh
  rw [isOpen] at unfolded
  simp only at unfolded
  unfold handledAs
  rw [if_neg fresh, isOpen]
  cases isKind : kind d with
  | confirm => exact confirm_performs begun isKind
  | reply =>
    by_cases long : 8 ≤ d.length
    · simp only [if_pos long]
      exact handled_reply_performs fresh begun isKind long
    · simp only [if_neg long]
      rw [unfolded, decode_reply_short isKind (by omega)]
      exact ((handleOpenState_invalid c rfl _).printed _).performs rfl
  | msg =>
    by_cases long : 7 ≤ d.length
    · simp only [if_pos long]
      rw [(handled_handled c d).of_msg fresh isKind long isOpen]
      exact performs_none rfl rfl
    · simp only [if_neg long]
      rw [unfolded, decode_short (Or.inl isKind) (by omega)]
      exact ((handleOpenState_err c rfl _).printed _).performs rfl
  | err =>
    rw [unfolded]
    exact ((handleOpenState_err c (decoded_type_err isKind) _).printed _).performs rfl
  | bye =>
    have type : (heard d).type = .bye := by rw [heard_type, isKind]; rfl
    have handler : Makes ⟨c.dialogue, [], some .failure⟩ (c.handleOpenState (heard d) d.length) := by
      unfold handleOpenState
      simp only [type, sendConfirm_andThen]
      exact ((silent_makes c .failure).confirmed c _).printed _
    rw [unfolded, decode_plain (Or.inr (Or.inl isKind))]
    exact (handler.printed _).performs rfl
  | invalid =>
    have type : (heard d).type = .invalidMsg := by rw [heard_type, isKind]; rfl
    rw [unfolded, decode_plain (Or.inr (Or.inr isKind))]
    exact ((handleOpenState_invalid c type _).printed _).performs rfl

/-- **`fsm_logic_handler`.** -/
theorem handled_performs (c : UDPClient) (d : Str) : Performs c (c.handledAs d) (c.handled d) := by
  by_cases seen : c.Seen d
  · rw [handled_seen seen, handledAs, if_pos seen]
    exact done_performs c []
  cases state : c.clientState with
  | startState =>
    rw [handled_fresh seen, handledAs, if_neg seen, state]
    exact (((bye_makes c .failure).printed _).printed _).performs rfl
  | authState => exact auth_performs seen state
  | openState => exact open_performs seen state

/-- **A datagram in the main loop.** -/
theorem receiveInMain_performs (c : UDPClient) (d : Str) :
    Performs c (c.heardAs d) (c.receiveInMain d) := by
  unfold heardAs
  by_cases early : c.PreHandled d
  · rw [if_pos early, receiveInMain_eq_preHandle early]
    by_cases err : kind d = .err
    · rw [if_pos err, preHandle_err err]
      exact ((((bye_makes c .failure).confirmed c _).printed _).printed _).performs rfl
    · obtain ⟨id, lines, same⟩ := preHandle_rejects early err
      rw [if_neg err, same]
      exact ((((sendErrorExit_makes c).confirmed c id).printed lines).printed _).performs rfl
  · rw [if_neg early, receiveInMain_eq_handled early]
    exact handled_performs c d

/-! ### Steps and runs -/

/-- What has occurred in a transition leads from stage to stage. -/
def Occurs (t : Transition State Event (Effect UInt16)) : Prop :=
  Dialogue.Leads DatagramOf t.before.stage (occurrence t) t.after.stage (spokenIn t)

theorem spokenIn_eq {t : Transition State Event (Effect UInt16)} (once : resends t = false) :
    spokenIn t = numberedIn t.out := by
  unfold spokenIn
  rw [once, if_neg Bool.false_ne_true]

/-- Only in `handle_timeout` is anything sent again. -/
theorem once_of_before {t : Transition State Event (Effect UInt16)}
    (other : ∀ m k, t.before.control ≠ .handleTimeout m k) : resends t = false := by
  unfold resends
  split
  · rename_i m k _ _ waiting _
    exact absurd waiting (other m k)
  · rfl

/-- The program that leaves sends nothing again. -/
theorem once_of_leaving {t : Transition State Event (Effect UInt16)}
    (leaves : t.after.control.leaving = true) : resends t = false := by
  unfold resends
  split
  · rename_i waiting
    rw [waiting] at leaves
    cases leaves
  · rfl

/-- The step of an outcome. -/
theorem Performs.occurs {s : State} {e : Event} {o : Outcome} {back : Control}
    (performs : Performs s.client (occurrence ⟨s, e, (s.resume back o).1, (s.resume back o).2⟩) o)
    (running : s.control.ending = none) (stays : back.ending = none)
    (once : resends ⟨s, e, (s.resume back o).1, (s.resume back o).2⟩ = false) :
    Occurs ⟨s, e, (s.resume back o).1, (s.resume back o).2⟩ := by
  unfold Occurs
  rw [resume_stage s stays, spokenIn_eq once, State.stage, running]
  exact performs

/-- Nothing occurs. -/
theorem occurs_none {t : Transition State Event (Effect UInt16)} (nothing : occurrence t = none)
    (same : t.after.stage = t.before.stage) (silent : spokenIn t = []) : Occurs t := by
  unfold Occurs
  rw [nothing, same, silent]
  exact Dialogue.leads_none _

/-- **An iteration of the loop of `handle_timeout`.** -/
theorem timeoutStep_occurs (s : State) {m : UDPMessage} {k : Nat} (r : Received)
    (waiting : s.control = .handleTimeout m k) :
    Occurs ⟨s, .recvfrom r, (timeoutStep s m k r).1, (timeoutStep s m k r).2⟩ := by
  have running : s.control.ending = none := by
    rw [waiting]
    rfl
  by_cases empty : r.bytesRx ≤ 0
  · by_cases again : r.errno.again = true
    · by_cases last : k = s.client.maxUdpRetransmission.toNat
      · have gives : timeoutStep s m k r = s.resume .poll
            ((s.client.exitProgram true .failure).after (printed [.notice .maxTimeouts])) := by
          unfold timeoutStep
          simp only [if_pos empty, if_pos again, if_pos last]
        rw [gives]
        refine Performs.occurs ?_ running rfl (once_of_leaving rfl)
        simp only [occurrence, waiting, if_pos empty, if_pos (And.intro again last)]
        exact ((bye_makes s.client .failure).printed _).performs rfl
      · -- the message is sent again, which says nothing new
        have repeats : timeoutStep s m k r =
            ({ s with control := .handleTimeout m (k + 1) }, s.client.sendMsg m) := by
          unfold timeoutStep
          simp only [if_pos empty, if_pos again, if_neg last]
        rw [repeats]
        refine occurs_none ?_ ?_ ?_
        · simp only [occurrence, waiting, if_pos empty, last, and_false, if_false]
        · simp [State.stage, waiting, Control.ending]
        · simp [spokenIn, resends, waiting]
    · have returns : timeoutStep s m k r =
          ({ s with control := .poll }, printed [.notice .noData]) := by
        unfold timeoutStep
        simp only [if_pos empty, if_neg again]
      rw [returns]
      refine occurs_none ?_ ?_ ?_
      · simp only [occurrence, waiting, if_pos empty, again, Bool.false_eq_true, false_and, if_false]
      · simp [State.stage, waiting, Control.ending]
      · simp [spokenIn, resends, waiting]
  · have datagram : timeoutStep s m k r = s.resume
        (if (s.client.receiveInTimeout m r.buffer).1 then .poll else .handleTimeout m k)
        (s.client.receiveInTimeout m r.buffer).2 := by
      unfold timeoutStep
      simp only [if_neg empty]
    rw [datagram, receiveInTimeout_eq]
    by_cases awaited : s.client.Awaited m r.buffer
    · simp only [if_pos awaited, if_true]
      refine Performs.occurs ?_ running rfl ?_
      · simp only [occurrence, waiting, if_neg empty, if_pos awaited]
        exact performs_none rfl rfl
      · simp [resends, waiting, State.resume, Outcome.done]
    · simp only [if_neg awaited, Bool.false_eq_true, if_false]
      refine Performs.occurs ?_ running rfl ?_
      · simp only [occurrence, waiting, if_neg empty, if_neg awaited]
        exact handled_performs s.client r.buffer
      · rcases (handled_handled s.client r.buffer).leaving_or_returns with leaving | stays
        · exact once_of_leaving (leaving.resume s _)
        · simp [resends, waiting, s.resume_of_returns stays]

/-- The program may be interrupted before its end, and on the way out of a failure. -/
theorem Control.ending_of_interruptible {k : Control} (free : k.interruptible = true) :
    k.ending = none ∨ k.ending = some (some .failure) := by
  cases k with
  | exitProgram _ ret =>
    cases ret with
    | success => cases free
    | failure => exact Or.inr rfl
  | exited _ => cases free
  | _ => exact Or.inl rfl

/-- **A SIGINT**, also on the way out. -/
theorem gracefulExit_occurs {s : State} (free : s.control.interruptible = true) :
    Occurs ⟨s, .sigint, (s.resume .poll s.client.gracefulExit).1,
      (s.resume .poll s.client.gracefulExit).2⟩ := by
  have makes := gracefulExit_makes s.client
  unfold Occurs
  rw [resume_stage s rfl, makes.stage,
    spokenIn_eq (once_of_leaving ((gracefulExit_leaving s.client).resume s .poll))]
  exact Dialogue.leads_interrupt (Control.ending_of_interruptible free) makes.sent

theorem pollStep_occurs (s : State) (polling : s.control = .poll) (result : PollResult) :
    Occurs ⟨s, .poll result, (pollStep s result).1, (pollStep s result).2⟩ := by
  have once : resends ⟨s, .poll result, (pollStep s result).1, (pollStep s result).2⟩ = false :=
    once_of_before (by simp [polling])
  have running : s.control.ending = none := by
    rw [polling]
    rfl
  cases result with
  | failed =>
    refine Performs.occurs ?_ running rfl once
    simp only [occurrence]
    exact ((silent_makes s.client .failure).printed _).performs rfl
  | ready socket stdin =>
    have quiet : (pollStep s (.ready socket stdin)).1.stage = s.stage ∧
        (pollStep s (.ready socket stdin)).2 = [] := by
      unfold pollStep State.stage
      simp only [running]
      split
      · exact ⟨rfl, rfl⟩
      split
      · exact ⟨rfl, rfl⟩
      · exact ⟨rfl, rfl⟩
    refine occurs_none ?_ quiet.1 ?_
    · simp only [occurrence]
    · rw [spokenIn_eq once, quiet.2]
      rfl

/-- **A datagram in the main loop**, or none in time. -/
theorem acceptStep_occurs (s : State) (accepting : s.control = .acceptMsg) (r : Received) :
    Occurs ⟨s, .recvfrom r, (acceptStep s r).1, (acceptStep s r).2⟩ := by
  have once : resends ⟨s, .recvfrom r, (acceptStep s r).1, (acceptStep s r).2⟩ = false :=
    once_of_before (by simp [accepting])
  have running : s.control.ending = none := by
    rw [accepting]
    rfl
  by_cases empty : r.bytesRx ≤ 0
  · by_cases again : r.errno.again = true
    · have waits : acceptStep s r =
          ({ s with control := .poll }, printed [.notice .timeoutApplied]) := by
        unfold acceptStep
        rw [if_pos empty, if_pos again]
      rw [waits] at once ⊢
      refine occurs_none ?_ ?_ ((spokenIn_eq once).trans (numberedIn_printed _))
      · simp only [occurrence, accepting, if_pos empty, if_pos again]
      · simp [State.stage, accepting, Control.ending]
    · have fails : acceptStep s r = s.resume .poll
          ((s.client.exitProgram false .failure).after (printed [.notice .noData])) := by
        unfold acceptStep
        rw [if_pos empty, if_neg again]
      rw [fails] at once ⊢
      refine Performs.occurs ?_ running rfl once
      simp only [occurrence, accepting, if_pos empty, if_neg again]
      exact ((silent_makes s.client .failure).printed _).performs rfl
  · have datagram : acceptStep s r = s.resume .poll
        (UDPClient.receiveInMain { s.client with serverPort := r.port } r.buffer) := by
      unfold acceptStep
      rw [if_neg empty]
    rw [datagram] at once ⊢
    refine Performs.occurs ?_ running rfl once
    simp only [occurrence, accepting, if_neg empty]
    exact receiveInMain_performs { s.client with serverPort := r.port } r.buffer

/-- The loop of `exit_program` keeps the exit status. -/
theorem byeStep_ending (s : State) (k : Nat) (ret : ExitCode) (r : Received) :
    (byeStep s k ret r).1.control.ending = some (some ret) := by
  unfold byeStep
  simp only
  split
  · split
    · split
      · rfl
      · rfl
    · rfl
  · split
    · rfl
    · rfl

theorem byeStep_occurs (s : State) {k : Nat} {ret : ExitCode} (exits : s.control = .exitProgram k ret)
    (r : Received) :
    Occurs ⟨s, .recvfrom r, (byeStep s k ret r).1, (byeStep s k ret r).2⟩ := by
  have once : resends ⟨s, .recvfrom r, (byeStep s k ret r).1, (byeStep s k ret r).2⟩ = false :=
    once_of_before (by simp [exits])
  obtain ⟨control, notices, _, spec⟩ := byeStep_spec s k ret r
  refine occurs_none ?_ ?_ ?_
  · simp only [occurrence, exits]
  · show (⟨(byeStep s k ret r).1.client.dialogue, (byeStep s k ret r).1.control.ending⟩ : Stage) = _
    rw [byeStep_ending, spec, State.stage, exits]
    rfl
  · rw [spokenIn_eq once, spec]
    exact numberedIn_printed _

/-- **One step** is what has occurred in it. -/
theorem step_occurs {s s' : State} {e : Event} {out : List (Effect UInt16)}
    (made : step s e = some (s', out)) : Occurs ⟨s, e, s', out⟩ := by
  cases step_calls made with
  | gracefulExit free made =>
    obtain ⟨rfl, rfl⟩ := Prod.ext_iff.mp made.symm
    exact gracefulExit_occurs free
  | @pollStep result _ _ polling made =>
    obtain ⟨rfl, rfl⟩ := Prod.ext_iff.mp made.symm
    exact pollStep_occurs s polling result
  | @acceptStep r _ _ accepting made =>
    obtain ⟨rfl, rfl⟩ := Prod.ext_iff.mp made.symm
    exact acceptStep_occurs s accepting r
  | @getlineStep line _ _ reading made =>
    obtain ⟨rfl, rfl⟩ := Prod.ext_iff.mp made.symm
    have running : s.control.ending = none := by
      rw [reading]
      rfl
    have once : resends ⟨s, .getline line, (getlineStep s line).1, (getlineStep s line).2⟩ = false :=
      once_of_before (by simp [reading])
    cases line with
    | none =>
      refine Performs.occurs ?_ running rfl once
      simp only [occurrence]
      exact (bye_makes s.client .failure).performs rfl
    | some text =>
      refine Performs.occurs ?_ running rfl once
      simp only [occurrence]
      exact (userLine_makes s.client text).performs rfl
  | @timeoutStep m k r _ _ waiting made =>
    obtain ⟨rfl, rfl⟩ := Prod.ext_iff.mp made.symm
    exact timeoutStep_occurs s r waiting
  | @byeStep k ret r _ _ exits made =>
    obtain ⟨rfl, rfl⟩ := Prod.ext_iff.mp made.symm
    exact byeStep_occurs s exits r

/-- **The client implements the dialogue.** -/
theorem implements_dialogue (port : UInt16) : Implements (machine port) Dialogue.machine State.stage
    (fun t => (occurrence t).toList) spokenIn DatagramOf where
  start := by
    rintro s ⟨limit, revents, rfl⟩
    rfl
  step := fun _ made => step_occurs made

/-- **Every run of the UDP client is a run of the dialogue** on what has occurred in it, over any network:
the client is where the dialogue is, the datagrams it sends for the first time and that are not empty are the
letters, and it leaves as the dialogue does. -/
theorem udp_refines {port : UInt16} {history : List (Transition State Event (Effect UInt16))}
    {s : State} (run : Run (machine port) history s) : ∃ letters,
      Drive Dialogue.machine ⟨.begun, none⟩ (occurrences history) s.stage letters ∧
      Forall₂ DatagramOf letters (history.flatMap spokenIn) := by
  obtain ⟨_, letters, rfl, driven, sent⟩ := (implements_dialogue port).run run
  exact ⟨letters, driven, sent⟩

/-- A sign-in and a line over a network that loses a CONFIRM of each and delivers the REPLY twice. -/
def lossy : List Event :=
  typed "/auth u s d" ++ [.recvfrom (.failed .EAGAIN), heardFrom 4567 (confirmDatagram 0), socketReady,
    heardFrom 5000 (replyDatagram 0 1 0), socketReady, heardFrom 5000 (replyDatagram 0 1 0)] ++
    typed "hello" ++ [.recvfrom (.failed .EAGAIN), heardFrom 5000 (confirmDatagram 1)]

def lossyHistory : List (Transition State Event (Effect UInt16)) :=
  ((machine 4567).trace booted lossy).getD []

theorem udp_refines_lossy : ∃ letters,
    Drive Dialogue.machine ⟨.begun, none⟩ (occurrences lossyHistory)
      ((machine 4567).reached booted lossy).stage letters ∧
    Forall₂ DatagramOf letters (lossyHistory.flatMap spokenIn) :=
  udp_refines (.reached booted_init rfl)

end UDPClient

end Ipk24Chat
