/-
**Which messages the session lets out.**

AUTH until the session is open, everything else once it is. Both clients decide by the type of the
message (`Admits`), print a fixed text for a message that is not admitted (`refusal`), and are in the
state `FsmState.sent` behind one that is sent; AUTH and JOIN are requests, which a REPLY answers.
-/

import Ipk24Chat.Messages.Basic

namespace Ipk24Chat

/-- The state lets messages of this type out. -/
def Admits (state : FsmState) (type : MsgType) : Bool :=
  match state with
  | .openState => decide (type ≠ .auth)
  | _ => decide (type = .auth)

/-- What is printed for a message that the state does not admit. -/
def refusal : FsmState → (awaited : Bool) → List Output
  | .startState, _ => [.notice .authorizeFirst]
  | .authState, false => [.notice .notAuthorizedYet]
  | .authState, true => []
  | .openState, _ => [.notice .alreadyAuthorized]

/-- A request is answered by a REPLY. -/
def isRequest (type : MsgType) : Bool := decide (type = .auth ∨ type = .join)

/-- The state behind a message that is sent. -/
def FsmState.sent : FsmState → FsmState
  | .openState => .openState
  | _ => .authState

theorem auth_of_admits {state : FsmState} {type : MsgType} (admits : Admits state type = true)
    (other : state ≠ .openState) : type = .auth := by
  cases state with
  | openState => exact absurd rfl other
  | startState => exact of_decide_eq_true admits
  | authState => exact of_decide_eq_true admits

/-- An admitted message: AUTH before the session is open, or another one in OPEN_STATE. -/
theorem sendable_of_admits {state : FsmState} {type : MsgType} (admits : Admits state type = true) :
    (state ≠ .openState ∧ type = .auth ∧ isRequest type = true ∧ state.sent = .authState) ∨
      (state = .openState ∧ type ≠ .auth ∧ isRequest type = decide (type = .join) ∧
        state.sent = .openState) := by
  by_cases isOpen : state = .openState
  · subst isOpen
    have other : type ≠ .auth := of_decide_eq_true admits
    exact Or.inr ⟨rfl, other, by simp [isRequest, other], rfl⟩
  · obtain rfl := auth_of_admits admits isOpen
    refine Or.inl ⟨isOpen, rfl, rfl, ?_⟩
    cases state with
    | openState => exact absurd rfl isOpen
    | startState => rfl
    | authState => rfl

theorem leaves_of_admits {state : FsmState} {type : MsgType} (admits : Admits state type = true) :
    state ≠ .startState ∨ type = .auth := by
  cases state with
  | startState => exact Or.inr (of_decide_eq_true admits)
  | authState => exact Or.inl (by decide)
  | openState => exact Or.inl (by decide)

end Ipk24Chat
