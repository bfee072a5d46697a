/-
**What the session is for: one request at a time, and an AUTH before everything else.**

The abstract session of a chat client, over any type of request ids. AUTH and JOIN are answered by a
REPLY that names them; the session is open from the first positive answer to an AUTH on. An invalid
combination of phase and outstanding request cannot be built.

* `Session.apply`: what a message sent or a REPLY handled makes of the session;
* `Session.Allows`: when the user may send what;
* `Session.opens`: a session opens only by the positive answer to its outstanding AUTH.
-/

import Ipk24Chat.Protocol.Request

namespace Ipk24Chat

/-- The session, with the id of the request that is outstanding. -/
inductive Session (Id : Type)
  | fresh
  | authenticating (auth : Id)
  /-- The last AUTH was answered negatively. -/
  | refused
  | active (join : Option Id)
  deriving DecidableEq, Repr

/-- What happens to a session. -/
inductive Action (Id : Type)
  | auth (id : Id)
  | join (id : Id)
  /-- A message that is not answered. -/
  | text
  | reply (ref : Id) (ok : Bool)
  | quiet
  deriving DecidableEq, Repr

/-- What a message of the user is to a session. An empty one is a text. -/
def Action.ofRequest {Id : Type} (id : Id) : Option Request → Action Id
  | some (.auth ..) => .auth id
  | some (.join ..) => .join id
  | _ => .text

namespace Session

variable {Id : Type}

def state : Session Id → FsmState
  | .fresh => .startState
  | .authenticating _ | .refused => .authState
  | .active _ => .openState

/-- The request sent and not yet answered. -/
def outstanding : Session Id → Option Id
  | .authenticating auth => some auth
  | .active join => join
  | _ => none

/-- AUTH is sent until the session is open, everything else once it is, and nothing while a request
is outstanding. -/
def Allows (σ : Session Id) : Action Id → Prop
  | .auth _ => σ.state ≠ .openState ∧ σ.outstanding = none
  | .join _ | .text => σ.state = .openState ∧ σ.outstanding = none
  | _ => True

theorem eq_active {σ : Session Id} (isOpen : σ.state = .openState)
    (idle : σ.outstanding = none) : σ = .active none := by
  cases σ with
  | active join =>
    cases idle
    rfl
  | _ => cases isOpen

/-- No request is outstanding in START_STATE. -/
theorem outstanding_of_start {σ : Session Id} (start : σ.state = .startState) :
    σ.outstanding = none := by
  cases σ with
  | fresh => rfl
  | _ => cases start

variable [DecidableEq Id]

/-- The answer `ref` to the outstanding request. -/
def answer (σ : Session Id) (ref : Id) (ok : Bool) : Session Id :=
  if σ.outstanding = some ref then
    match σ with
    | .authenticating _ => if ok then .active none else .refused
    | _ => .active none
  else σ

def apply (σ : Session Id) : Action Id → Session Id
  | .auth id => .authenticating id
  | .join id => .active (some id)
  | .text | .quiet => σ
  | .reply ref ok => σ.answer ref ok

theorem answer_of_ne {σ : Session Id} {ref : Id} (other : σ.outstanding ≠ some ref) (ok : Bool) :
    σ.answer ref ok = σ := if_neg other

/-- An answered request is no longer outstanding. -/
theorem answer_outstanding {σ : Session Id} {ref : Id} (answers : σ.outstanding = some ref)
    (ok : Bool) : (σ.answer ref ok).outstanding = none := by
  unfold answer
  rw [if_pos answers]
  cases σ with
  | authenticating auth => cases ok <;> rfl
  | _ => rfl

/-- The state an answer leads to. -/
theorem answer_state {σ : Session Id} {ref : Id} (answers : σ.outstanding = some ref) (ok : Bool) :
    (σ.answer ref ok).state =
      if σ.state = .authState ∧ ok = false then .authState else .openState := by
  unfold answer
  rw [if_pos answers]
  cases σ with
  | fresh => cases answers
  | refused => cases answers
  | authenticating auth => cases ok <;> rfl
  | active join => cases ok <;> rfl

/-- **A session opens** only by the positive answer to its outstanding AUTH. -/
theorem opens {σ : Session Id} {a : Action Id} (allowed : σ.Allows a)
    (before : σ.state ≠ .openState) (after : (σ.apply a).state = .openState) :
    ∃ auth, σ = .authenticating auth ∧ a = .reply auth true := by
  cases a with
  | auth id => cases after
  | join id => exact absurd allowed.1 before
  | text => exact absurd after before
  | quiet => exact absurd after before
  | reply ref ok =>
    by_cases answers : σ.outstanding = some ref
    · have state := answer_state answers ok
      rw [show (σ.answer ref ok).state = .openState from after] at state
      cases σ with
      | fresh => cases answers
      | refused => cases answers
      | active join => exact absurd rfl before
      | authenticating auth =>
        cases ok with
        | false => cases state
        | true => exact ⟨auth, rfl, by rw [Option.some.inj answers]⟩
    · rw [show σ.apply (.reply ref ok) = σ from answer_of_ne answers ok] at after
      exact absurd after before

end Session

end Ipk24Chat
