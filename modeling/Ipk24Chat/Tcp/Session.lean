/-
**The TCP client keeps the session.**

A REPLY on the byte stream names no request, so that the session is one over a single id. `session`
observes the run: the user messages sent and the REPLY lines completed. The client keeps the same in
`client_state` and `reply_msg_sent` (`Refines`), although its socket branch may fall through to stdin
in the same iteration.

* `userSends_request`: a message of the user is, to the session, the one whose line goes out;
* `InSession.step`: every step is the action the observer sees, and is allowed;
* `stray_reply`: a REPLY when nothing is outstanding changes and displays nothing;
* `tcp_session_safe`: the properties of the session, for every run in which `poll` keeps its
  contract.
-/

import Ipk24Chat.Protocol.Session
import Ipk24Chat.Stdin.Gating
import Ipk24Chat.Stdin.UserInput

namespace Ipk24Chat

namespace TCPClient

open Reactive

/-! ### The observed session -/

/-- A message goes out. -/
def Sends (out : List (Effect Unit)) : Prop := ∃ content, .send content () ∈ out

/-- A line of the user puts a message on the wire; `userSends_request` says which. -/
def UserSends (t : Transition State Event (Effect Unit)) : Prop :=
  (∃ line, t.input = .getline (some line)) ∧ Sends t.out

/-- What a message of the user is to the session. -/
def sentAction (m : TCPMessage) : Action Unit :=
  match m.type with
  | .auth => .auth ()
  | .join => .join ()
  | _ => .text

/-- What a message of the server is to the session. -/
def heardAction (m : TCPMessage) : Action Unit :=
  match m.type with
  | .replyOk => .reply () true
  | .replyNok => .reply () false
  | _ => .quiet

/-- Whether anything is sent. -/
def sending (out : List (Effect Unit)) : Bool :=
  out.any fun
    | .send _ _ => true
    | .print _ => false

/-- What a transition is to the session. -/
def action (t : Transition State Event (Effect Unit)) : Action Unit :=
  match t.input with
  | .getline (some line) =>
    if sending t.out = true then sentAction (t.before.client.userMsg line).1 else .quiet
  | _ => ((completed t).bind decodedMsg).elim .quiet heardAction

def sessionNote (σ : Session Unit) (t : Transition State Event (Effect Unit)) : Session Unit :=
  σ.apply (action t)

/-- The session behind a history. -/
def session (history : List (Transition State Event (Effect Unit))) : Session Unit :=
  observe sessionNote .fresh history

theorem sending_iff {out : List (Effect Unit)} : sending out = true ↔ Sends out := by
  unfold sending Sends
  rw [List.any_eq_true]
  constructor
  · rintro ⟨effect, member, sends⟩
    cases effect with
    | send content target => exact ⟨content, member⟩
    | print line => cases sends
  · rintro ⟨content, member⟩
    exact ⟨_, member, rfl⟩

theorem not_sends_printed (lines : List Output) : ¬ Sends (printed lines) := by
  rintro ⟨content, member⟩
  simp [printed] at member

theorem heardAction_reply {m : TCPMessage} (reply : IsReply m) :
    heardAction m = .reply () (decide (m.type = .replyOk)) := by
  unfold heardAction
  rcases reply with ok | nok
  · rw [ok]
    rfl
  · rw [nok]
    rfl

theorem heardAction_other {m : TCPMessage} (other : ¬ IsReply m) : heardAction m = .quiet := by
  unfold heardAction
  split
  · rename_i ok
    exact absurd (Or.inl ok) other
  · rename_i nok
    exact absurd (Or.inr nok) other
  · rfl

/-! ### The messages of the user -/

theorem sentAction_request {m : TCPMessage} {c : Command} (ready : c.ready = true)
    (type : m.type = c.type) (name line : Str) :
    sentAction m = .ofRequest () (c.request name line) := by
  unfold sentAction
  rw [type]
  cases c with
  | rename => cases ready
  | help => cases ready
  | refused => cases ready
  | _ => rfl

/-- **The message of the user is the one that goes out**: what the observer takes it for is what its
line says. -/
theorem userSends_request {t : Transition State Event (Effect Unit)}
    (reachable : Reachable machine t.before)
    (made : step t.before t.input = some (t.after, t.out)) (sends : UserSends t) :
    ∃ text lines request, t.input = .getline (some text) ∧
      request = (command text).request t.before.client.dname text ∧
      action t = .ofRequest () request ∧
      t.out = printed lines ++ [.send (request.elim [] Request.tcp) ()] := by
  obtain ⟨s, e, s', out⟩ := t
  obtain ⟨⟨text, input⟩, sent⟩ := sends
  obtain rfl : e = .getline (some text) := input
  change step s _ = some (s', out) at made
  change Reachable machine s at reachable
  obtain ⟨-, rfl⟩ := step_getline made
  have typed : text ≠ [] := by
    rintro rfl
    exact not_sends_printed [] sent
  obtain ⟨_, _, follows⟩ := userLine_fate (wellNamed_reachable reachable) typed
  have effects := congrArg Outcome.effects follows
  cases handed : (fate s.client.clientState s.client.replyMsgSent s.client.dname text).handed with
  | none =>
    rw [show (s.client.userLine text).effects = _ from effects] at sent
    obtain ⟨content, member⟩ := sent
    exact absurd member (Fate.silent_of_kept handed content ())
  | some request =>
    obtain ⟨ready, rfl⟩ := ready_of_handed handed
    refine ⟨text, (fate s.client.clientState s.client.replyMsgSent s.client.dname text).printed, _,
      rfl, rfl, ?_, ?_⟩
    · simp only [action, if_pos (sending_iff.mpr sent)]
      exact sentAction_request ready ((s.client.userMsg_describes text).type ready) _ _
    · refine effects.trans ?_
      simp only [toPoll, Fate.effects, handed]
      rfl

/-! ### The refinement -/

/-- **The fields of the client are the session.** -/
structure Refines (σ : Session Unit) (c : TCPClient) : Prop where
  state : c.clientState = σ.state
  awaited : c.replyMsgSent = σ.outstanding.isSome

theorem Refines.idle {σ : Session Unit} {c : TCPClient} (refines : Refines σ c)
    (idle : c.replyMsgSent = false) : σ.outstanding = none := by
  have awaited := refines.awaited
  rw [idle] at awaited
  exact Option.isNone_iff_eq_none.mp (by simpa using awaited.symm)

theorem Refines.outstanding {σ : Session Unit} {c : TCPClient} (refines : Refines σ c)
    (awaited : c.replyMsgSent = true) : σ.outstanding = some () := by
  have some := refines.awaited
  rw [awaited] at some
  obtain ⟨_, outstanding⟩ := Option.isSome_iff_exists.mp some.symm
  exact outstanding

/-- **The awaited REPLY in the client and in the session.** -/
theorem Refines.replied {σ : Session Unit} {c : TCPClient} {m : TCPMessage} (refines : Refines σ c)
    (reply : IsReply m) (awaited : c.replyMsgSent = true) :
    Refines (σ.apply (heardAction m)) (c.replied m) := by
  have answers := refines.outstanding awaited
  rw [heardAction_reply reply]
  refine ⟨?_, ?_⟩
  · show (c.replied m).clientState = (σ.answer () (decide (m.type = .replyOk))).state
    rw [Session.answer_state answers, ← refines.state]
    have nok : m.type = .replyNok ↔ decide (m.type = .replyOk) = false := by
      rcases reply with ok | nok
      · simp [ok]
      · simp [nok]
    simp only [TCPClient.replied, nok]
  · show false = (σ.answer () (decide (m.type = .replyOk))).outstanding.isSome
    rw [Session.answer_outstanding answers]
    rfl

/-- A REPLY that is not awaited is nothing to the session. -/
theorem Refines.unanswered {σ : Session Unit} {c : TCPClient} (refines : Refines σ c)
    (idle : c.replyMsgSent = false) (m : TCPMessage) : Refines (σ.apply (heardAction m)) c := by
  have none := refines.idle idle
  by_cases reply : IsReply m
  · rw [heardAction_reply reply]
    show Refines (σ.answer () _) c
    rw [Session.answer_of_ne (by simp [none])]
    exact refines
  · rw [heardAction_other reply]
    exact refines

/-! ### Messages of the server -/

/-- A REPLY behind START_STATE. -/
theorem receive_reply {c : TCPClient} {d : Str} {m : TCPMessage} {lines : List Output}
    (decode : decoded d = .ok (m, lines)) (reply : IsReply m) (begun : c.clientState ≠ .startState) :
    (c.receive d).client = (if c.replyMsgSent = true then c.replied m else c) ∧
      ((c.receive d).blocked = none ∨ (c.receive d).blocked = some .poll) := by
  rw [receive_eq, decode]
  simp only [handleInbound]
  cases state : c.clientState with
  | startState => exact absurd state begun
  | authState =>
    rcases reply with ok | nok
    · cases awaited : c.replyMsgSent <;>
        simp [handleAuthState, ok, awaited, Outcome.after, toPoll, replied, state]
    · cases awaited : c.replyMsgSent <;>
        simp [handleAuthState, nok, awaited, Outcome.after, toPoll, replied, state]
  | openState =>
    rcases reply with ok | nok
    · cases awaited : c.replyMsgSent <;>
        simp [handleOpenState, ok, awaited, Outcome.after, replied, state]
    · cases awaited : c.replyMsgSent <;>
        simp [handleOpenState, nok, awaited, Outcome.after, replied, state]

theorem silent_of_replyBranch {m : TCPMessage} {text label : Str} {type : MsgType}
    {r : TCPMessage × List Output} (branch : m.replyBranch text type label = .ok r)
    (reply : IsReply r.1) : r.2 = [] := by
  obtain ⟨found, _, rfl⟩ := ok_of_map branch
  cases found with
  | some text => rfl
  | none => rcases reply with ok | nok <;> simp [TCPMessage.invalid] at *

theorem no_reply_of_chatBranch {m : TCPMessage} {text sender : Str} {type : MsgType}
    {r : TCPMessage × List Output} (other : type ≠ .replyOk ∧ type ≠ .replyNok)
    (branch : m.chatBranch text sender type = .ok r) : ¬ IsReply r.1 := by
  obtain ⟨found, _, rfl⟩ := ok_of_map branch
  cases found with
  | some text => simp [IsReply, other.1, other.2]
  | none => simp [IsReply, TCPMessage.invalid]

/-- **Nothing is printed while a REPLY is decoded.** -/
theorem silent_of_reply {d : Str} {m : TCPMessage} {lines : List Output}
    (decode : decoded d = .ok (m, lines)) (reply : IsReply m) : lines = [] := by
  unfold decoded TCPMessage.processInboundMsg at decode
  simp only [NetworkMessage.new] at decode
  split at decode
  · cases decode
    simp [IsReply] at reply
  simp only [if_true] at decode
  split at decode
  · cases decode
    rfl
  split at decode
  · exact silent_of_replyBranch decode reply
  split at decode
  · exact silent_of_replyBranch decode reply
  split at decode
  · exact absurd reply (no_reply_of_chatBranch (by decide) decode)
  split at decode
  · exact absurd reply (no_reply_of_chatBranch (by decide) decode)
  · cases decode
    simp [IsReply] at reply

/-- **A REPLY when none is awaited** changes nothing and puts out nothing. -/
theorem receive_stray {c : TCPClient} {d : Str} {m : TCPMessage} {lines : List Output}
    (decode : decoded d = .ok (m, lines)) (reply : IsReply m) (begun : c.clientState ≠ .startState)
    (idle : c.replyMsgSent = false) :
    (c.receive d).client = c ∧ (c.receive d).effects = [] := by
  obtain rfl := silent_of_reply decode reply
  refine ⟨?_, ?_⟩
  · rw [(receive_reply decode reply begun).1, idle]
    rfl
  · rw [receive_eq, decode]
    simp only [handleInbound]
    cases state : c.clientState with
    | startState => exact absurd state begun
    | authState => rcases reply with ok | nok <;> simp [handleAuthState, *, Outcome.after, printed]
    | openState => rcases reply with ok | nok <;> simp [handleOpenState, *, Outcome.after, printed]

/-- A message that does not answer a request leaves the client. -/
theorem Heard.unanswered {c : TCPClient} {d : Str} {o : Outcome} (heard : Heard c d o)
    (other : ∀ m lines, decoded d = .ok (m, lines) → IsReply m → c.replyMsgSent = false) :
    o.client = c := by
  cases heard with
  | thrown => rfl
  | leaving _ leaving => exact leaving.client
  | authenticated decode reply _ awaited => cases awaited.symm.trans (other _ _ decode reply)
  | joined decode reply _ awaited => cases awaited.symm.trans (other _ _ decode reply)
  | stray => rfl
  | msg => rfl

/-- **A message of the server in the client and in the session.** -/
theorem receive_refines {σ : Session Unit} {c : TCPClient} (refines : Refines σ c) (d : Str) :
    Refines (σ.apply ((decodedMsg d).elim .quiet heardAction)) (c.receive d).client := by
  have heard := receive_heard c d
  cases decode : decoded d with
  | error e =>
    simp only [decodedMsg, decode, receive_eq]
    exact refines
  | ok r =>
    obtain ⟨m, lines⟩ := r
    simp only [decodedMsg, decode, Option.elim_some]
    by_cases answers : IsReply m ∧ c.replyMsgSent = true
    · obtain ⟨reply, awaited⟩ := answers
      have begun : c.clientState ≠ .startState := by
        intro start
        have none := Session.outstanding_of_start (refines.state.symm.trans start)
        rw [refines.outstanding awaited] at none
        cases none
      rw [(receive_reply decode reply begun).1, if_pos awaited]
      exact refines.replied reply awaited
    · have same : (c.receive d).client = c := by
        refine heard.unanswered fun m' lines' decode' reply' => ?_
        cases decode.symm.trans decode'
        by_contra awaited
        exact answers ⟨reply', by simpa using awaited⟩
      rw [same]
      by_cases reply : IsReply m
      · refine refines.unanswered ?_ m
        by_contra awaited
        exact answers ⟨reply, by simpa using awaited⟩
      · rw [heardAction_other reply]
        exact refines

/-! ### Lines and steps -/

/-- **A message of the user in the client and in the session**, when no reply is awaited. -/
theorem Sendable.session {σ : Session Unit} {c : TCPClient} {m : TCPMessage} {request : Bool}
    {next : FsmState} (sendable : c.Sendable m request next) (refines : Refines σ c)
    (idle : c.replyMsgSent = false) (dname : Str) :
    σ.Allows (sentAction m) ∧
      Refines (σ.apply (sentAction m)) ((c.named dname).requested request next) := by
  have none := refines.idle idle
  rcases sendable with ⟨notOpen, auth, rfl, rfl⟩ | ⟨isOpen, notAuth, rfl, rfl⟩
  · have action : sentAction m = .auth () := by simp only [sentAction, auth]
    rw [action]
    exact ⟨⟨by rwa [← refines.state], none⟩, rfl, rfl⟩
  · obtain rfl := Session.eq_active (refines.state.symm.trans isOpen) none
    by_cases join : m.type = .join
    · have action : sentAction m = .join () := by simp only [sentAction, join]
      rw [action]
      refine ⟨⟨rfl, rfl⟩, rfl, ?_⟩
      show (decide (m.type = .join) || c.replyMsgSent) = true
      simp [join]
    · have action : sentAction m = .text := by
        unfold sentAction
        split
        · rename_i auth
          exact absurd auth notAuth
        · rename_i isJoin
          exact absurd isJoin join
        · rfl
      rw [action]
      refine ⟨⟨rfl, rfl⟩, rfl, ?_⟩
      show (decide (m.type = .join) || c.replyMsgSent) = false
      simp [join, idle]

/-- The invariant: the fields are the session, and a line is only read when no reply is awaited. -/
structure InSession (σ : Session Unit) (s : State) : Prop where
  refines : Refines σ s.client
  reading : s.control = .getline → s.client.replyMsgSent = false

theorem InSession.of_control {σ : Session Unit} {s : State} (refines : Refines σ s.client)
    (control : s.control ≠ .getline) : InSession σ s :=
  ⟨refines, fun reading => absurd reading control⟩

/-- A line of the user is an allowed action of the session. -/
theorem InSession.line {σ : Session Unit} {s s' : State} {line : Str} {out : List (Effect Unit)}
    (held : InSession σ s) (reading : s.control = .getline)
    (made : TCPClient.step s (.getline (some line)) = some (s', out)) :
    σ.Allows (action ⟨s, .getline (some line), s', out⟩) ∧
      InSession (sessionNote σ ⟨s, .getline (some line), s', out⟩) s' := by
  obtain ⟨rfl, rfl⟩ := step_getline made
  have lined := userLine_lined s.client line
  unfold sessionNote action
  generalize s.client.userLine line = o at lined
  cases lined with
  | kept dname lines =>
    have silent : ¬ sending (toPoll (s.client.named dname) (printed lines)).effects = true :=
      fun sends => not_sends_printed lines (sending_iff.mp sends)
    simp only [if_neg silent]
    refine ⟨trivial, .of_control ⟨held.refines.state, held.refines.awaited⟩ ?_⟩
    simp [State.resume, toPoll]
  | sent dname request next lines sendable =>
    have sends : sending (toPoll ((s.client.named dname).requested request next)
        (printed lines ++ sendMsg (s.client.userMsg line).1)).effects = true :=
      sending_iff.mpr ⟨_, List.mem_append_right _ (List.mem_singleton_self _)⟩
    simp only [if_pos sends]
    obtain ⟨allowed, refines⟩ := sendable.session held.refines (held.reading reading) dname
    exact ⟨allowed, .of_control refines (by simp [State.resume, toPoll])⟩

/-- A completed message is an allowed action of the session. -/
theorem InSession.message {σ : Session Unit} {s s' : State} {e : Event} {out : List (Effect Unit)}
    {d : Str} (held : InSession σ s) (done : completed ⟨s, e, s', out⟩ = some d)
    (made : TCPClient.step s e = some (s', out)) :
    σ.Allows (action ⟨s, e, s', out⟩) ∧ InSession (sessionNote σ ⟨s, e, s', out⟩) s' := by
  obtain ⟨buffer, r, _, rfl, answer⟩ := step_completed done made
  have heard : action ⟨s, .recv r, s', out⟩ = (decodedMsg d).elim .quiet heardAction := by
    simp only [action, done]
    rfl
  have refines := receive_refines held.refines d
  have client : s'.client = (s.client.receive d).client := congrArg (·.1.client) answer
  have control : s'.control = (s.resume s.stdinBranch (s.client.receive d)).1.control :=
    congrArg (·.1.control) answer
  rw [sessionNote, heard]
  refine ⟨?_, by rwa [client], fun reading => ?_⟩
  · unfold heardAction
    cases decodedMsg d with
    | none => trivial
    | some m =>
      simp only [Option.elim_some]
      split <;> trivial
  · rw [client]
    rw [control] at reading
    have outcome := receive_heard s.client d
    generalize s.client.receive d = o at outcome reading ⊢
    cases outcome with
    | thrown => cases reading
    | leaving _ leaving =>
      exact absurd reading (Control.ne_of_leaving (leaving.resume s s.stdinBranch) rfl)
    | authenticated => cases reading
    | joined => rfl
    | stray _ _ _ idle => exact idle
    | msg => cases reading

/-- **One step of the client is an allowed action of the session.** -/
theorem InSession.step {σ : Session Unit} {s s' : State} {e : Event} {out : List (Effect Unit)}
    (held : InSession σ s) (made : TCPClient.step s e = some (s', out))
    (contract : PollContract ⟨s, e, s', out⟩) :
    σ.Allows (action ⟨s, e, s', out⟩) ∧ InSession (sessionNote σ ⟨s, e, s', out⟩) s' := by
  by_cases typed : ∃ line, e = .getline (some line)
  · obtain ⟨line, rfl⟩ := typed
    refine held.line ?_ made
    cases step_calls made with
    | getlineStep reading _ => exact reading
  cases done : completed ⟨s, e, s', out⟩ with
  | some d => exact held.message done made
  | none =>
    have silent : action ⟨s, e, s', out⟩ = .quiet := by
      unfold action
      split
      · rename_i line input
        exact absurd ⟨line, input⟩ typed
      · rw [done]
        rfl
    rw [sessionNote, silent]
    refine ⟨trivial, ?_⟩
    cases step_moves made with
    | leave back leaving =>
      refine .of_control ?_ (Control.ne_of_leaving (leaving.resume s back) rfl)
      rw [show (s.resume back _).1.client = s.client from leaving.client]
      exact held.refines
    | poll socket stdin _ =>
      have client := pollStep_client s socket stdin
      refine ⟨?_, fun reading => ?_⟩
      · rw [client]
        exact held.refines
      · rw [client]
        by_contra awaited
        have heard := contract (pollCount_of_awaited (by simpa using awaited))
        have silent := ((pollStep_fields s socket stdin).2 reading).2
        simp [Event.socketSilent, silent] at heard
    | byte => exact .of_control held.refines (by simp)
    | line text => exact absurd ⟨text, rfl⟩ typed
    | message buffer r value control received complete _ =>
      simp [completed, control, received, complete] at done

/-! ### Runs -/

/-- The session after every run. -/
theorem inSession_run {s : State} {history : List (Transition State Event (Effect Unit))}
    (run : Run machine history s) (contract : ∀ t ∈ history, PollContract t) :
    InSession (session history) s := by
  refine run.observed_invariant_of PollContract sessionNote .fresh InSession ?_ ?_ contract
  · rintro s ⟨revents, rfl⟩
    exact ⟨⟨rfl, rfl⟩, fun _ => rfl⟩
  · intro σ s e s' out held made contract
    exact (held.step made contract).2

/-- **Every transition of a run is an action the session allows.** -/
theorem allows_of_run {s : State} {earlier later : List (Transition State Event (Effect Unit))}
    {t : Transition State Event (Effect Unit)} (run : Run machine (earlier ++ t :: later) s)
    (contract : ∀ u ∈ earlier ++ t :: later, PollContract u) :
    InSession (session earlier) t.before ∧ (session earlier).Allows (action t) ∧
      InSession ((session earlier).apply (action t)) t.after := by
  obtain ⟨before, made, _⟩ := run.transition
  have held := inSession_run before fun u member => contract u (List.mem_append_left _ member)
  exact ⟨held, held.step made (contract t (List.mem_append_right _ List.mem_cons_self))⟩

/-- A transition completes a line that is decoded as a REPLY. -/
def Replies (t : Transition State Event (Effect Unit)) (m : TCPMessage) : Prop :=
  (completed t).bind decodedMsg = some m ∧ IsReply m

/-- A transition in which the session becomes open: a positive REPLY comes while an AUTH is
outstanding in `σ`. -/
def OpenedBy (σ : Session Unit) (t : Transition State Event (Effect Unit)) : Prop :=
  σ = .authenticating () ∧ ∃ m, Replies t m ∧ m.type = .replyOk

theorem reply_of_action {t : Transition State Event (Effect Unit)} {ok : Bool}
    (acts : action t = .reply () ok) : ∃ m, Replies t m ∧ (ok = true → m.type = .replyOk) := by
  unfold action at acts
  split at acts
  · split at acts
    · unfold sentAction at acts
      split at acts <;> cases acts
    · cases acts
  · cases found : (completed t).bind decodedMsg with
    | none => simp [found] at acts
    | some m =>
      rw [found, Option.elim_some] at acts
      by_cases reply : IsReply m
      · rw [heardAction_reply reply] at acts
        refine ⟨m, ⟨found, reply⟩, fun positive => ?_⟩
        rw [positive] at acts
        exact of_decide_eq_true (Action.reply.inj acts).2
      · rw [heardAction_other reply] at acts
        cases acts

/-- **The state becomes OPEN_STATE** only by a positive REPLY to the outstanding AUTH. -/
theorem opened_by {s : State} {earlier later : List (Transition State Event (Effect Unit))}
    {t : Transition State Event (Effect Unit)} (run : Run machine (earlier ++ t :: later) s)
    (contract : ∀ u ∈ earlier ++ t :: later, PollContract u)
    (before : t.before.client.clientState ≠ .openState)
    (after : t.after.client.clientState = .openState) : OpenedBy (session earlier) t := by
  obtain ⟨held, allowed, held'⟩ := allows_of_run run contract
  rw [held.refines.state] at before
  rw [held'.refines.state] at after
  obtain ⟨auth, waiting, acts⟩ := Session.opens allowed before after
  obtain ⟨m, replies, positive⟩ := reply_of_action acts
  exact ⟨waiting, m, replies, positive rfl⟩

/-- The transition sends a message of the user that is not an AUTH. -/
def SendsInSession (t : Transition State Event (Effect Unit)) : Prop :=
  action t = .join () ∨ action t = .text

/-- A REPLY is nothing to a client that awaits none. -/
theorem stray_reply {t : Transition State Event (Effect Unit)} {m : TCPMessage}
    (made : step t.before t.input = some (t.after, t.out)) (replies : Replies t m)
    (begun : t.before.client.clientState ≠ .startState)
    (idle : t.before.client.replyMsgSent = false) :
    t.after.client = t.before.client ∧ t.out = [] := by
  obtain ⟨s, e, s', out⟩ := t
  obtain ⟨found, reply⟩ := replies
  obtain ⟨d, done, decode⟩ := Option.bind_eq_some_iff.mp found
  obtain ⟨lines, decode⟩ := decodedMsg_eq decode
  obtain ⟨client, silent⟩ := receive_stray decode reply begun idle
  obtain ⟨_, _, _, _, answer⟩ := step_completed done made
  exact ⟨(congrArg (·.1.client) answer).trans client, (congrArg Prod.snd answer).trans silent⟩

/-- **The TCP session is safe**, for every run in which `poll` keeps its contract.

* a reply is awaited exactly while a request is outstanding;
* OPEN_STATE is entered by a positive REPLY to the outstanding AUTH only;
* a message other than AUTH is only sent behind such a transition;
* no message of the user is sent while a reply is outstanding;
* a REPLY behind START_STATE that answers no request changes nothing and displays nothing. -/
theorem tcp_session_safe {s : State} {history : List (Transition State Event (Effect Unit))}
    (run : Run machine history s) (contract : ∀ t ∈ history, PollContract t) :
    s.client.replyMsgSent = (session history).outstanding.isSome ∧
    ∀ earlier t later, history = earlier ++ t :: later →
      (t.before.client.clientState ≠ .openState → t.after.client.clientState = .openState →
        OpenedBy (session earlier) t) ∧
      (SendsInSession t → ∃ past u future, earlier = past ++ u :: future ∧
        OpenedBy (session past) u) ∧
      (UserSends t → t.before.client.replyMsgSent = false ∧ (session earlier).outstanding = none) ∧
      (∀ m, Replies t m → t.before.client.clientState ≠ .startState →
        (session earlier).outstanding = none → t.after.client = t.before.client ∧ t.out = []) := by
  refine ⟨(inSession_run run contract).refines.awaited, ?_⟩
  rintro earlier t later rfl
  obtain ⟨before, made, _⟩ := run.transition
  have contract' : ∀ u ∈ earlier, PollContract u :=
    fun u member => contract u (List.mem_append_left _ member)
  obtain ⟨held, allowed, _⟩ := allows_of_run run contract
  refine ⟨opened_by run contract, fun sends => ?_, fun sends => ?_, fun m replies begun none => ?_⟩
  · have isOpen : t.before.client.clientState = .openState := by
      rw [held.refines.state]
      rcases sends with join | text
      · rw [join] at allowed
        exact allowed.1
      · rw [text] at allowed
        exact allowed.1
    have base : ∀ s, machine.init s → ¬ s.client.clientState = .openState := by
      rintro s ⟨revents, rfl⟩ isOpen
      cases isOpen
    obtain ⟨past, u, future, rfl, closed, opened⟩ :=
      before.begins (fun s => s.client.clientState = .openState) base isOpen
    exact ⟨past, u, future, rfl, opened_by before contract' closed opened⟩
  · obtain ⟨⟨line, typed⟩, _⟩ := sends
    have reading : t.before.control = .getline := by
      rw [typed] at made
      cases step_calls made with
      | getlineStep reading _ => exact reading
    have idle := held.reading reading
    exact ⟨idle, held.refines.idle idle⟩
  · have idle : t.before.client.replyMsgSent = false := by
      rw [held.refines.awaited, none]
      rfl
    exact stray_reply made replies begun idle

/-- The sign-in and a JOIN. -/
theorem tcp_session_safe_signIn :
    (machine.reached booted (signIn ++ typed "/join room")).client.replyMsgSent = true ∧
      (session ((machine.trace booted (signIn ++ typed "/join room")).getD [])).outstanding =
        some () := by
  have safe := tcp_session_safe (.reached booted_init rfl)
    (show ∀ t ∈ (machine.trace booted (signIn ++ typed "/join room")).getD [], PollContract t by
      decide +kernel)
  have waiting : (session ((machine.trace booted
      (signIn ++ typed "/join room")).getD [])).outstanding = some () := by
    decide +kernel
  refine ⟨?_, waiting⟩
  rw [safe.1, waiting]
  rfl

end TCPClient

end Ipk24Chat
