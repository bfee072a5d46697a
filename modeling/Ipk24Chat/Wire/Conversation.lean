/-
**The conversation of a client, as languages of its parts.**

The client says AUTH until it is let in, JOIN and MSG once it is. `opening` is what has been said in each
state.

* `opening_auth`, `opening_chat`, `opening_replied`: how the openings grow into each other;
* `Dialogue.line_opening`: what a line of the user adds.
-/

import Ipk24Chat.Joint.Dialogue
import Ipk24Chat.Lib.Words

namespace Ipk24Chat

open Reactive
open scoped Computability

/-! ### Parts of a conversation -/

/-- The messages of the client by their kind, a CONFIRM aside. -/
inductive Part
  | auth
  | join
  | msg
  | err
  | bye
  deriving DecidableEq, Repr

/-- The part of a message with this type byte. -/
def Part.ofCode (code : UInt8) : Option Part :=
  if code = UDP_AUTH then some .auth
  else if code = UDP_JOIN then some .join
  else if code = UDP_MSG then some .msg
  else if code = UDP_ERR then some .err
  else if code = UDP_BYE then some .bye
  else none

def Letter.part : Letter → Part
  | .request (.auth _ _ _) => .auth
  | .request (.join _ _) => .join
  | .request (.msg _ _) => .msg
  | .err _ => .err
  | .bye => .bye

theorem part_of_letter {o : Outgoing} {letter : Letter} (same : o.letter = some letter) :
    Part.ofCode o.code = some letter.part := by
  cases o with
  | request r => cases r <;> cases same <;> rfl
  | err d t =>
    cases same
    rfl
  | bye =>
    cases same
    rfl
  | confirm => cases same

/-- What has been said in a state. -/
def opening : FsmState → Language Part
  | .startState => 1
  | .authState => {[.auth]} * {[.auth]}∗
  | .openState => {[.auth]} * {[.auth]}∗ * ({[.join]} + {[.msg]})∗

/-- The session is begun by an AUTH, which may be repeated until the session is open. -/
theorem opening_auth {state : FsmState} (closed : state ≠ .openState) {word : List Part}
    (said : word ∈ opening state) : word ++ [.auth] ∈ opening .authState := by
  have single : [Part.auth] ∈ ({[.auth]} : Language Part) := rfl
  cases state with
  | openState => exact absurd rfl closed
  | startState =>
    obtain rfl : word = [] := said
    show [Part.auth] ++ [] ∈ ({[.auth]} * {[.auth]}∗ : Language Part)
    exact Language.append_mem_mul single (Language.nil_mem_kstar _)
  | authState =>
    obtain ⟨first, one, more, again, rfl⟩ := Language.mem_mul.mp said
    rw [List.append_assoc]
    exact Language.append_mem_mul one (append_mem_kstar again single)

/-- In OPEN_STATE there are JOINs and MSGs. -/
theorem opening_chat {word : List Part} {part : Part} (said : word ∈ opening .openState)
    (chat : part = .join ∨ part = .msg) : word ++ [part] ∈ opening .openState := by
  obtain ⟨first, auths, more, chats, rfl⟩ := Language.mem_mul.mp said
  have single : [part] ∈ ({[.join]} + {[.msg]} : Language Part) := by
    rcases chat with rfl | rfl
    · exact Or.inl rfl
    · exact Or.inr rfl
  rw [List.append_assoc]
  exact Language.append_mem_mul auths (append_mem_kstar chats single)

/-- The REPLY that opens the session comes when all has been said in AUTH_STATE. -/
theorem opening_replied {word : List Part} (said : word ∈ opening .authState) :
    word ∈ opening .openState := by
  have silent := Language.append_mem_mul said (Language.nil_mem_kstar ({[.join]} + {[.msg]}))
  rw [List.append_nil] at silent
  exact silent

/-- **The message of a line that is admitted**: an AUTH before the session is open, then a JOIN, a MSG or
an empty one. -/
theorem request_of_admits {state : FsmState} {text : Str} (name : Str)
    (ready : (command text).ready = true) (admits : Admits state (command text).type = true) :
    (state ≠ .openState ∧ state.sent = .authState ∧
        ∃ r, (command text).request name text = some r ∧ (Letter.request r).part = .auth) ∨
      (state = .openState ∧ state.sent = .openState ∧ ((command text).request name text = none ∨
        ∃ r, (command text).request name text = some r ∧
          ((Letter.request r).part = .join ∨ (Letter.request r).part = .msg))) := by
  rcases sendable_of_admits admits with ⟨closed, auth, _, next⟩ | ⟨isOpen, other, _, next⟩
  · refine Or.inl ⟨closed, next, ?_⟩
    generalize command text = c at ready auth
    cases c with
    | auth u s d => exact ⟨_, rfl, rfl⟩
    | _ => exact MsgType.noConfusion auth
  · refine Or.inr ⟨isOpen, next, ?_⟩
    generalize command text = c at other
    cases c with
    | auth u s d => exact absurd rfl other
    | join channel => exact Or.inr ⟨_, rfl, Or.inl rfl⟩
    | text => exact Or.inr ⟨_, rfl, Or.inr rfl⟩
    | _ => exact Or.inl rfl

/-- **What a line adds**: an AUTH before the session is open, then a JOIN or a MSG, or nothing. -/
theorem Dialogue.line_opening (d : Dialogue) (text : Str) {word : List Part}
    (said : word ∈ opening d.state) :
    word ++ (d.line text).sent.map Letter.part ∈ opening (d.line text).dialogue.state := by
  by_cases typed : text = []
  · unfold Dialogue.line
    rw [if_pos typed]
    simpa using said
  by_cases kept : (command text).ready = false ∨ Admits d.state (command text).type = false
  · rw [line_kept typed kept]
    simpa using said
  obtain ⟨ready, admits⟩ := not_or.mp kept
  rw [Bool.not_eq_false] at ready admits
  rw [line_admitted typed ready admits]
  rcases request_of_admits d.name ready admits with
    ⟨closed, next, r, spoken, part⟩ | ⟨isOpen, next, silent | ⟨r, spoken, part⟩⟩
  · rw [spoken, next]
    show word ++ [(Letter.request r).part] ∈ _
    rw [part]
    exact opening_auth closed said
  · rw [silent, next, ← isOpen]
    simpa using said
  · rw [isOpen] at said
    rw [spoken, next]
    exact opening_chat said part

end Ipk24Chat
