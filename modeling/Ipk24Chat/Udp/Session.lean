/-
**The UDP client keeps the session.**

`session` is an observer of the run: the abstract session behind the user messages sent and the REPLY
datagrams handled. The client keeps the same in `client_state`, `reply_msg_sent` and
`reply_id_vector` (`Refines`), over any datagrams, timeouts and lines.

* `userSent_request`: a user message is, to the session, the one whose datagram goes out;
* `InSession.step`: every step of the client is the action the observer sees, and is allowed;
* `session_safe`: the four properties of the session, for every run in which `poll` keeps its
  contract.
-/

import Ipk24Chat.Udp.Paths
import Ipk24Chat.Protocol.Session
import Ipk24Chat.Stdin.UserInput

namespace Ipk24Chat

namespace UDPClient

open Reactive

/-! ### The observed session -/

/-- The user message of a transition: one is sent when a line makes the client enter
`handle_timeout`. -/
def sentAction (m : UDPMessage) : Action UInt16 :=
  match m.type with
  | .auth => .auth m.messageId
  | .join => .join m.messageId
  | _ => .text

/-- A datagram that is handled as a REPLY: it is long enough and not a duplicate. -/
def HandlesReply (c : UDPClient) (d : Str) : Prop := kind d = .reply ∧ ¬ c.Seen d ∧ 8 ≤ d.length

instance (c : UDPClient) (d : Str) : Decidable (c.HandlesReply d) :=
  inferInstanceAs (Decidable (_ ∧ _ ∧ _))

/-- What a datagram is to the session. -/
def heardAction (c : UDPClient) (d : Str) : Action UInt16 :=
  if c.HandlesReply d then .reply (replyRef d) (decide (d.getD 3 0 ≠ 0)) else .quiet

/-- What a transition is to the session. -/
def action (t : Transition State Event (Effect UInt16)) : Action UInt16 :=
  match t.input, t.after.control with
  | .getline _, .handleTimeout m 0 => sentAction m
  | .recvfrom r, _ =>
    if t.before.control.listens = true then t.before.client.heardAction r.buffer else .quiet
  | _, _ => .quiet

def sessionNote (σ : Session UInt16) (t : Transition State Event (Effect UInt16)) :
    Session UInt16 :=
  σ.apply (action t)

/-- The session behind a history. -/
def session (history : List (Transition State Event (Effect UInt16))) : Session UInt16 :=
  observe sessionNote .fresh history

/-! ### The messages of the user -/

theorem sentAction_request {m : UDPMessage} {c : Command} (ready : c.ready = true)
    (type : m.type = c.type) (name line : Str) :
    sentAction m = .ofRequest m.messageId (c.request name line) := by
  unfold sentAction
  rw [type]
  cases c with
  | rename => cases ready
  | help => cases ready
  | refused => cases ready
  | _ => rfl

/-- **The message of the user is the one that goes out**: its id is the next one, and what the
observer takes it for is what its datagram says. -/
theorem userSent_request {port : UInt16} {t : Transition State Event (Effect UInt16)} {id : UInt16}
    (reachable : Reachable (machine port) t.before)
    (made : step t.before t.input = some (t.after, t.out)) (sent : userSent t = some id) :
    ∃ text lines request, t.input = .getline (some text) ∧
      request = (command text).request t.before.client.dname text ∧
      id = t.before.client.nextId ∧ action t = .ofRequest id request ∧
      t.out = printed lines ++
        [.send (request.elim [] (Request.udp id)) t.before.client.aiPort] := by
  obtain ⟨s, e, s', out⟩ := t
  change step s e = some (s', out) at made
  change Reachable (machine port) s at reachable
  unfold userSent at sent
  split at sent
  · rename_i line m input control
    obtain rfl : e = .getline line := input
    have waits : s'.control = .handleTimeout m 0 := control
    obtain ⟨text, _, _, _, _, rfl, rfl, _⟩ := sent_of_enters made waits
    cases sent
    have typed : text ≠ [] := by
      rintro rfl
      rw [(step_getline made).1] at waits
      cases waits
    have follows := userLine_fate (wellNamed_reachable reachable) typed
    cases handed : (fate s.client.clientState s.client.replyMsgSent s.client.dname text).handed with
    | none =>
      rw [(step_getline made).1, s.resume_of_returns (follows.idle handed).1] at waits
      cases waits
    | some request =>
      obtain ⟨ready, rfl⟩ := ready_of_handed handed
      have id := s.client.userMsg_messageId text
      refine ⟨text, (fate s.client.clientState s.client.replyMsgSent s.client.dname text).printed, _,
        rfl, rfl, id, ?_, ?_⟩
      · simp only [action, waits]
        exact sentAction_request ready ((s.client.userMsg_describes text).type ready) _ _
      · rw [id, (step_getline made).2, follows.effects, Fate.effects, handed]
        rfl
  · cases sent

/-! ### The refinement -/

/-- **The fields of the client are the session.** -/
structure Refines (σ : Session UInt16) (c : UDPClient) : Prop where
  state : c.clientState = σ.state
  awaited : c.replyMsgSent = σ.outstanding.isSome
  vector : c.replyIdVector = σ.outstanding.toList

theorem Refines.of_same {σ : Session UInt16} {c c' : UDPClient} (refines : Refines σ c)
    (state : c'.clientState = c.clientState) (awaited : c'.replyMsgSent = c.replyMsgSent)
    (vector : c'.replyIdVector = c.replyIdVector) : Refines σ c' :=
  ⟨state.trans refines.state, awaited.trans refines.awaited, vector.trans refines.vector⟩

/-- The client's test whether a REPLY answers the request is that of the session. -/
theorem Refines.answered_iff {σ : Session UInt16} {c : UDPClient} (refines : Refines σ c)
    (d : Str) : c.answered d = true ↔ σ.outstanding = some (replyRef d) := by
  unfold answered
  rw [refines.awaited, refines.vector, Bool.and_eq_true, decide_eq_true_eq, frontId_eq_iff]
  cases σ.outstanding with
  | none => simp
  | some id => simp

theorem heardAction_other {c : UDPClient} {d : Str} (other : ¬ c.HandlesReply d) :
    c.heardAction d = .quiet := if_neg other

/-- **A REPLY in the client and in the session.** -/
theorem Refines.replied {σ : Session UInt16} {c : UDPClient} (refines : Refines σ c) (d : Str) :
    Refines (σ.answer (replyRef d) (decide (d.getD 3 0 ≠ 0))) (c.replied d) := by
  by_cases answers : σ.outstanding = some (replyRef d)
  · have answered := (refines.answered_iff d).mpr answers
    have none := Session.answer_outstanding answers (decide (d.getD 3 0 ≠ 0))
    refine ⟨?_, ?_, ?_⟩
    · rw [Session.answer_state answers]
      simp only [UDPClient.replied, answered, if_true, refines.state, replyType_nok_iff]
    · rw [none]
      simp [UDPClient.replied, answered]
    · rw [none]
      simp [UDPClient.replied, answered, refines.vector, answers]
  · have other : c.answered d = false := by
      by_contra answered
      exact answers ((refines.answered_iff d).mp (by simpa using answered))
    rw [Session.answer_of_ne answers]
    refine refines.of_same ?_ ?_ ?_ <;> simp [UDPClient.replied, other]

theorem Leaving.refines {σ : Session UInt16} {c : UDPClient} {o : Outcome}
    (leaving : c.Leaving o) (refines : Refines σ c) : Refines σ o.client :=
  leaving.preserves refines (refines.of_same rfl rfl rfl)

/-- **A datagram in the client and in the session.** -/
theorem Handled.refines {σ : Session UInt16} {c : UDPClient} {d : Str} {o : Outcome}
    (handled : Handled c d o) (refines : Refines σ c) :
    Refines (σ.apply (c.heardAction d)) o.client := by
  have quiet : ¬ c.HandlesReply d → Refines (σ.apply (c.heardAction d)) c := fun other => by
    rw [heardAction_other other]
    exact refines
  cases handled with
  | reply reply fresh long _ =>
    have handles : c.HandlesReply d := ⟨reply, fresh, long⟩
    rw [heardAction, if_pos handles]
    exact refines.replied d
  | skipped seen => exact quiet fun handles => handles.2.1 seen
  | confirmed confirm =>
    exact (quiet fun handles => by simp [confirm, HandlesReply] at handles).of_same rfl rfl rfl
  | unmatched confirm => exact quiet fun handles => by simp [confirm, HandlesReply] at handles
  | msg msg =>
    exact (quiet fun handles => by simp [msg, HandlesReply] at handles).of_same rfl rfl rfl
  | dropped _ _ _ _ short =>
    refine quiet fun handles => ?_
    have := short handles.1
    have := handles.2.2
    omega
  | leaving _ unexpected leaving =>
    refine leaving.refines ?_
    by_cases handles : c.HandlesReply d
    · -- only a session that has not begun leaves because of a REPLY
      have start : c.clientState = .startState := by
        by_contra begun
        exact unexpected (Or.inl ⟨begun, Or.inr ⟨handles.1, handles.2.2⟩⟩)
      have none : σ.outstanding ≠ some (replyRef d) := by
        rw [Session.outstanding_of_start (refines.state.symm.trans start)]
        exact (Option.some_ne_none _).symm
      rw [heardAction, if_pos handles]
      show Refines (σ.answer _ _) c
      rw [Session.answer_of_ne none]
      exact refines
    · exact quiet handles

/-! ### Lines and steps -/

/-- **A message of the user in the client and in the session**, when no reply is awaited. -/
theorem Sendable.session {σ : Session UInt16} {c : UDPClient} {m : UDPMessage} {request : Bool}
    {next : FsmState} (sendable : c.Sendable m request next) (refines : Refines σ c)
    (idle : c.replyMsgSent = false) (dname : Str) (counter : Nat) :
    σ.Allows (sentAction m) ∧ Refines (σ.apply (sentAction m))
      ((c.named dname counter).sendUserMsg m request next).client := by
  have none : σ.outstanding = none := by
    have awaited := refines.awaited
    rw [idle] at awaited
    exact Option.isNone_iff_eq_none.mp (by simpa using awaited.symm)
  have empty : c.replyIdVector = [] := by rw [refines.vector, none]; rfl
  rcases sendable with ⟨notOpen, auth, rfl, rfl⟩ | ⟨isOpen, notAuth, rfl, rfl⟩
  · have action : sentAction m = .auth m.messageId := by simp only [sentAction, auth]
    rw [action]
    refine ⟨⟨by rwa [← refines.state], none⟩, rfl, rfl, ?_⟩
    show c.replyIdVector ++ [m.messageId] = [m.messageId]
    rw [empty, List.nil_append]
  · obtain rfl := Session.eq_active (refines.state.symm.trans isOpen) none
    by_cases join : m.type = .join
    · have action : sentAction m = .join m.messageId := by simp only [sentAction, join]
      rw [action]
      refine ⟨⟨rfl, rfl⟩, rfl, ?_, ?_⟩
      · show (decide (m.type = .join) || c.replyMsgSent) = true
        simp [join]
      · show (if decide (m.type = .join) = true then c.replyIdVector ++ [m.messageId]
          else c.replyIdVector) = [m.messageId]
        rw [if_pos (decide_eq_true join), empty, List.nil_append]
    · have action : sentAction m = .text := by
        unfold sentAction
        split
        · rename_i auth
          exact absurd auth notAuth
        · rename_i isJoin
          exact absurd isJoin join
        · rfl
      rw [action]
      refine ⟨⟨rfl, rfl⟩, rfl, ?_, ?_⟩
      · show (decide (m.type = .join) || c.replyMsgSent) = false
        simp [join, idle]
      · show (if decide (m.type = .join) = true then c.replyIdVector ++ [m.messageId]
          else c.replyIdVector) = []
        rw [if_neg (by simpa using join), empty]

/-- An empty or failed receive is nothing to the session. -/
theorem action_empty {s s' : State} {r : Received} {out : List (Effect UInt16)}
    (empty : r.bytesRx ≤ 0) : action ⟨s, .recvfrom r, s', out⟩ = .quiet := by
  have other : ¬ s.client.HandlesReply r.buffer := fun handles => by
    have reply := handles.1
    rw [kind_of_bytesRx empty] at reply
    cases reply
  simp only [action, heardAction_other other, ite_self]

/-- A transition that leaves without a datagram is nothing to the session. -/
theorem action_leave {s s' : State} {e : Event} {out : List (Effect UInt16)}
    (silent : ∀ r, e = .recvfrom r → r.bytesRx ≤ 0) (leaves : s'.control.leaving = true) :
    action ⟨s, e, s', out⟩ = .quiet := by
  cases e with
  | recvfrom r => exact action_empty (silent r rfl)
  | getline line =>
    cases control : s'.control with
    | handleTimeout m k =>
      rw [control] at leaves
      cases leaves
    | _ => simp only [action, control]
  | poll result => rfl
  | sigint => rfl

theorem action_recvfrom {s : State} (listens : s.control.listens = true) (s' : State)
    (r : Received) (out : List (Effect UInt16)) :
    action ⟨s, .recvfrom r, s', out⟩ = s.client.heardAction r.buffer := if_pos listens

/-- The invariant: the fields are the session, and a line is only read when no reply is awaited. -/
structure InSession (σ : Session UInt16) (s : State) : Prop where
  refines : Refines σ s.client
  reading : s.control = .getline → s.client.replyMsgSent = false

theorem InSession.of_control {σ : Session UInt16} {s : State} (refines : Refines σ s.client)
    (control : s.control ≠ .getline) : InSession σ s :=
  ⟨refines, fun reading => absurd reading control⟩

theorem Handled.control_ne {c : UDPClient} {d : Str} {o : Outcome} (handled : Handled c d o)
    (s : State) {back : Control} (elsewhere : back ≠ .getline) :
    (s.resume back o).1.control ≠ .getline := by
  rcases handled.leaving_or_returns with leaving | returns
  · exact Control.ne_of_leaving (leaving.resume s back) rfl
  · rw [s.resume_of_returns returns]
    exact elsewhere

/-- **One step of the client is an allowed action of the session.** -/
theorem InSession.step {σ : Session UInt16} {s s' : State} {e : Event}
    {out : List (Effect UInt16)} (held : InSession σ s)
    (made : UDPClient.step s e = some (s', out)) (contract : PollContract ⟨s, e, s', out⟩) :
    σ.Allows (action ⟨s, e, s', out⟩) ∧ InSession (sessionNote σ ⟨s, e, s', out⟩) s' := by
  have quiet : action ⟨s, e, s', out⟩ = .quiet → Refines σ s'.client → s'.control ≠ .getline →
      σ.Allows (action ⟨s, e, s', out⟩) ∧ InSession (sessionNote σ ⟨s, e, s', out⟩) s' := by
    intro silent refines control
    rw [sessionNote, silent]
    exact ⟨trivial, .of_control refines control⟩
  have heard : ∀ d, σ.Allows (s.client.heardAction d) := by
    intro d
    unfold heardAction
    split <;> trivial
  cases step_moves made with
  | leave silent leaving =>
    have leaves := leaving.resume s .poll
    exact quiet (action_leave silent leaves) (leaving.refines held.refines)
      (Control.ne_of_leaving leaves rfl)
  | bye k ret r _ _ control leaves =>
    refine quiet ?_ held.refines (Control.ne_of_leaving leaves rfl)
    simp [action, control, Control.listens]
  | poll socket stdin _ =>
    have client := pollStep_client s socket stdin
    refine ⟨trivial, ?_, fun reads => ?_⟩
    · rw [client]
      exact held.refines
    · rw [client]
      rcases pollStep_control contract with accepts | ⟨_, both⟩
      · cases accepts.symm.trans reads
      · exact both.1
  | idle r _ empty => exact quiet (action_empty empty) held.refines (by simp)
  | giveUp _ _ r _ empty => exact quiet (action_empty empty) held.refines (by simp)
  | resend _ _ r _ empty => exact quiet (action_empty empty) held.refines (by simp)
  | awaited m k r control _ awaited =>
    refine quiet ?_ (held.refines.of_same rfl rfl rfl) (by simp)
    have listens : s.control.listens = true := by rw [control]; rfl
    rw [action_recvfrom listens]
    exact heardAction_other fun handles => by simp [HandlesReply, awaited.2.1] at handles
  | line text control lined =>
    cases lined with
    | kept => exact quiet rfl (held.refines.of_same rfl rfl rfl) (by simp [State.resume, Outcome.done])
    | sent dname request next lines sendable =>
      obtain ⟨allowed, refines⟩ := sendable.session held.refines (held.reading control) dname
        (s.client.msgCounter + 1)
      exact ⟨allowed, .of_control refines (fun reads => by cases reads)⟩
  | accept r control _ handled =>
    have listens : s.control.listens = true := by rw [control]; rfl
    rw [sessionNote, action_recvfrom listens]
    have recorded : Refines σ { s.client with serverPort := r.port } :=
      held.refines.of_same rfl rfl rfl
    exact ⟨heard _, .of_control (handled.refines recorded) (handled.control_ne s (by decide))⟩
  | receive m k r control _ _ handled =>
    have listens : s.control.listens = true := by rw [control]; rfl
    rw [sessionNote, action_recvfrom listens]
    exact ⟨heard _, .of_control (handled.refines held.refines) (handled.control_ne s (by simp))⟩

/-! ### Runs -/

/-- The session after every run. -/
theorem inSession_run {port : UInt16} {s : State}
    {history : List (Transition State Event (Effect UInt16))} (run : Run (machine port) history s)
    (contract : ∀ t ∈ history, PollContract t) : InSession (session history) s := by
  refine run.observed_invariant_of PollContract sessionNote .fresh InSession ?_ ?_ contract
  · rintro s ⟨limit, revents, rfl⟩
    exact ⟨⟨rfl, rfl, rfl⟩, fun _ => rfl⟩
  · intro σ s e s' out held made contract
    exact (held.step made contract).2

/-- **Every transition of a run is an action the session allows.** -/
theorem allows_of_run {port : UInt16} {s : State}
    {earlier later : List (Transition State Event (Effect UInt16))}
    {t : Transition State Event (Effect UInt16)}
    (run : Run (machine port) (earlier ++ t :: later) s)
    (contract : ∀ u ∈ earlier ++ t :: later, PollContract u) :
    (session earlier).Allows (action t) ∧ InSession ((session earlier).apply (action t)) t.after := by
  obtain ⟨before, made, _⟩ := run.transition
  have held := inSession_run before fun u member => contract u (List.mem_append_left _ member)
  exact held.step made (contract t (List.mem_append_right _ List.mem_cons_self))

/-- A transition in which the session becomes open: it handles a REPLY with a non-zero result that
names the AUTH outstanding in `σ`. -/
def OpenedBy (σ : Session UInt16) (t : Transition State Event (Effect UInt16)) : Prop :=
  ∃ auth r, σ = .authenticating auth ∧ t.input = .recvfrom r ∧
    t.before.client.HandlesReply r.buffer ∧ r.buffer.getD 3 0 ≠ 0 ∧ replyRef r.buffer = auth

theorem reply_of_action {t : Transition State Event (Effect UInt16)} {ref : UInt16} {ok : Bool}
    (acts : action t = .reply ref ok) :
    ∃ r, t.input = .recvfrom r ∧ t.before.client.HandlesReply r.buffer ∧
      replyRef r.buffer = ref ∧ decide (r.buffer.getD 3 0 ≠ 0) = ok := by
  unfold action at acts
  split at acts
  · unfold sentAction at acts
    split at acts <;> cases acts
  · rename_i r input
    split at acts
    · unfold heardAction at acts
      split at acts
      · rename_i handles
        obtain ⟨ref, ok⟩ := Action.reply.inj acts
        exact ⟨r, input, handles, ref, ok⟩
      · cases acts
    · cases acts
  · cases acts

/-- **The state becomes OPEN_STATE** only by the positive answer to the outstanding AUTH. -/
theorem opened_by {port : UInt16} {s : State}
    {earlier later : List (Transition State Event (Effect UInt16))}
    {t : Transition State Event (Effect UInt16)}
    (run : Run (machine port) (earlier ++ t :: later) s)
    (contract : ∀ u ∈ earlier ++ t :: later, PollContract u)
    (before : t.before.client.clientState ≠ .openState)
    (after : t.after.client.clientState = .openState) : OpenedBy (session earlier) t := by
  obtain ⟨reached, _, _⟩ := run.transition
  have held := inSession_run reached fun u member => contract u (List.mem_append_left _ member)
  obtain ⟨allowed, held'⟩ := allows_of_run run contract
  rw [held.refines.state] at before
  rw [held'.refines.state] at after
  obtain ⟨auth, waiting, acts⟩ := Session.opens allowed before after
  obtain ⟨r, input, handles, ref, ok⟩ := reply_of_action acts
  exact ⟨auth, r, waiting, input, handles, of_decide_eq_true ok, ref⟩

/-- The transition sends a message of the user that is not an AUTH. -/
def SendsInSession (t : Transition State Event (Effect UInt16)) : Prop :=
  (∃ id, action t = .join id) ∨ action t = .text

/-- **The session is safe**, for every run in which `poll` keeps its contract.

* `reply_id_vector` holds exactly the id of the request that is outstanding, if any;
* an id is only taken out of it when there is one;
* OPEN_STATE is entered by a positive REPLY to the outstanding AUTH only;
* a message other than AUTH is only sent behind such a transition;
* nothing is sent while a reply is outstanding. -/
theorem session_safe {port : UInt16} {s : State}
    {history : List (Transition State Event (Effect UInt16))} (run : Run (machine port) history s)
    (contract : ∀ t ∈ history, PollContract t) :
    (s.client.replyMsgSent = (session history).outstanding.isSome ∧
      s.client.replyIdVector = (session history).outstanding.toList) ∧
    (∀ d, s.client.answered d = true → s.client.replyIdVector ≠ []) ∧
    ∀ earlier t later, history = earlier ++ t :: later →
      (t.before.client.clientState ≠ .openState → t.after.client.clientState = .openState →
        OpenedBy (session earlier) t) ∧
      (SendsInSession t → ∃ past u future, earlier = past ++ u :: future ∧
        OpenedBy (session past) u) ∧
      (∀ id, userSent t = some id → (session earlier).outstanding = none ∧
        t.before.client.replyMsgSent = false) := by
  have held := inSession_run run contract
  refine ⟨⟨held.refines.awaited, held.refines.vector⟩, fun d answered empty => ?_, ?_⟩
  · have named := (held.refines.answered_iff d).mp answered
    rw [held.refines.vector, named] at empty
    cases empty
  rintro earlier t later rfl
  obtain ⟨before, made, _⟩ := run.transition
  have contract' : ∀ u ∈ earlier, PollContract u :=
    fun u member => contract u (List.mem_append_left _ member)
  have held' := inSession_run before contract'
  refine ⟨opened_by run contract, fun sends => ?_, fun id sent => ?_⟩
  · have isOpen : t.before.client.clientState = .openState := by
      have allowed := (allows_of_run run contract).1
      rw [held'.refines.state]
      rcases sends with ⟨id, join⟩ | text
      · rw [join] at allowed
        exact allowed.1
      · rw [text] at allowed
        exact allowed.1
    have base : ∀ s, (machine port).init s → ¬ s.client.clientState = .openState := by
      rintro s ⟨limit, revents, rfl⟩ isOpen
      cases isOpen
    obtain ⟨past, u, future, rfl, closed, opened⟩ :=
      before.begins (fun s => s.client.clientState = .openState) base isOpen
    exact ⟨past, u, future, rfl, opened_by before contract' closed opened⟩
  · have idle := held'.reading (userSent_reading made sent)
    refine ⟨?_, idle⟩
    have awaited := held'.refines.awaited
    rw [idle] at awaited
    exact Option.isNone_iff_eq_none.mp (by simpa using awaited.symm)

/-- The sign-in and a message, received on both paths. -/
theorem session_safe_signIn :
    ((machine 4567).reached booted (signIn ++ typed "/join room")).client.replyIdVector = [1] ∧
      (session (((machine 4567).trace booted (signIn ++ typed "/join room")).getD [])).outstanding =
        some 1 := by
  have safe := session_safe (.reached booted_init rfl)
    (show ∀ t ∈ ((machine 4567).trace booted (signIn ++ typed "/join room")).getD [],
      PollContract t by decide +kernel)
  have named : (session (((machine 4567).trace booted
      (signIn ++ typed "/join room")).getD [])).outstanding = some 1 := by
    decide +kernel
  refine ⟨?_, named⟩
  rw [safe.1.2, named]
  rfl

end UDPClient

end Ipk24Chat
