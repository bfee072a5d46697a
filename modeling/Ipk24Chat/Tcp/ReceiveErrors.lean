/-
**What `recv` returns and what `accept_msg` counts.**

Every `recv` that delivers a byte is to be counted as one, and the first that does not is to end the
program. The result of `recv` is kept in a `size_t`, so that the test `bytes_rx <= 0` does not hold of
the `-1` of an error: it is counted like a byte.

* `recvs`: the answers of `recv` in the call of `accept_msg` that is under way, an observer of the run;
* `delivers_iff`: a run delivers what was received exactly when no `recv` fails in it.
-/

import Ipk24Chat.Tcp.Framing

namespace Ipk24Chat

namespace TCPClient

open Reactive

/-! ### The answers of a call -/

def recvNote (calls : List Recv) (t : Transition State Event (Effect Unit)) : List Recv :=
  match t.input with
  | .recv r => calls ++ [r]
  | _ => []

/-- The answers of `recv` since `accept_msg` was called. -/
def recvs (history : List (Transition State Event (Effect Unit))) : List Recv :=
  observe recvNote [] history

/-- **`accept_msg` delivers what was received**: it returns the bytes of its `recv` calls, all of which
have succeeded, and the first call that does not ends the program without being counted. -/
def Delivers (history : List (Transition State Event (Effect Unit))) : Prop :=
  ∀ earlier t later, history = earlier ++ t :: later →
    (∀ d ∈ completed t, recvs (earlier ++ [t]) = d.map .byte) ∧
    ∀ r, t.input = .recv r → (∀ value, r ≠ .byte value) →
      completed t = none ∧ t.after.control = .exited .failure

/-- A `recv` that returns `-1`. -/
def Event.recvFails : Event → Bool
  | .recv (.failed _) => true
  | _ => false

theorem Event.recvFails_iff {e : Event} : e.recvFails = true ↔ ∃ held, e = .recv (.failed held) := by
  cases e with
  | recv r => cases r <;> simp [recvFails]
  | _ => simp [recvFails]

/-- A `recv` that has not failed has yielded the byte itself. -/
theorem byte_of_received {buffer : Str} {r : Recv} {value : UInt8}
    (received : r.received buffer = some value) (succeeds : (Event.recv r).recvFails = false) :
    r = .byte value := by
  cases r with
  | closed => cases received
  | failed held => cases succeeds
  | byte value' =>
    cases received
    rfl

/-! ### Steps -/

/-- **A failed `recv` is counted**: the call goes on or returns. -/
theorem counted_of_failed {s s' : State} {held : UInt8} {out : List (Effect Unit)}
    (made : step s (.recv (.failed held)) = some (s', out)) :
    completed ⟨s, .recv (.failed held), s', out⟩ ≠ none ∨ s'.control ≠ .exited .failure := by
  cases step_calls made with
  | @acceptStep buffer _ _ _ control made =>
    simp only [acceptStep, acceptByte] at made
    by_cases whole : accepted (buffer ++ [if buffer = [] then 0 else held]) = true
    · exact Or.inl (by simp [completed, control, Recv.received, whole])
    · rw [if_neg whole] at made
      cases made
      exact Or.inr Control.noConfusion

/-- A closed connection ends the program. -/
theorem exited_of_closed {s s' : State} {out : List (Effect Unit)}
    (made : step s (.recv .closed) = some (s', out)) :
    completed ⟨s, .recv .closed, s', out⟩ = none ∧ s'.control = .exited .failure := by
  cases step_calls made with
  | acceptStep control made =>
    cases made
    exact ⟨by simp [completed, control, Recv.received], rfl⟩

/-! ### Runs -/

/-- The buffer holds what was received, while no `recv` has failed. -/
theorem recvs_run {s : State} {history : List (Transition State Event (Effect Unit))}
    (run : Run machine history s) (succeed : ∀ t ∈ history, t.input.recvFails = false) {buffer : Str}
    (accepting : s.control = .acceptMsg buffer) : recvs history = buffer.map .byte := by
  refine run.observed_invariant_of (fun t => t.input.recvFails = false) recvNote []
    (fun calls s => ∀ buffer, s.control = .acceptMsg buffer → calls = buffer.map .byte) ?_ ?_ succeed
    buffer accepting
  · rintro s ⟨revents, rfl⟩ buffer accepting
    cases accepting
  · intro calls s e s' out held made succeeds buffer' accepting
    rcases accepting_of_step made accepting with
      ⟨result, rfl, rfl⟩ | ⟨buffer, r, value, rfl, control, received, _, rfl⟩
    · rfl
    · rw [byte_of_received received succeeds, recvNote, held buffer control, List.map_append,
        List.map_singleton]

/-- **The bytes delivered**: a run delivers what was received exactly when no `recv` fails in it. -/
theorem delivers_iff {s : State} {history : List (Transition State Event (Effect Unit))}
    (run : Run machine history s) :
    Delivers history ↔ ∀ t ∈ history, t.input.recvFails = false := by
  constructor
  · intro delivers t member
    by_contra fails
    obtain ⟨held, input⟩ := Event.recvFails_iff.mp (by simpa using fails)
    obtain ⟨earlier, later, rfl⟩ := List.append_of_mem member
    obtain ⟨silent, ends⟩ := (delivers earlier t later rfl).2 _ input fun _ => Recv.noConfusion
    obtain ⟨s, e, s', out⟩ := t
    obtain rfl : e = .recv (.failed held) := input
    rcases counted_of_failed run.transition.2.1 with counted | goes_on
    · exact counted silent
    · exact goes_on ends
  · rintro succeed earlier ⟨s, e, s', out⟩ later rfl
    obtain ⟨before, made, _⟩ := run.transition
    have fails := succeed _ (List.mem_append_right _ List.mem_cons_self)
    refine ⟨fun d done => ?_, ?_⟩
    · obtain ⟨buffer, r, control, rfl, _⟩ := step_completed done made
      have held := recvs_run before (fun u member => succeed u (List.mem_append_left _ member)) control
      rw [recvs, observe_concat, recvNote]
      show recvs earlier ++ [r] = d.map .byte
      simp only [completed, control] at done
      obtain ⟨value, received, complete⟩ := Option.bind_eq_some_iff.mp done
      split at complete
      · cases complete
        rw [held, byte_of_received received fails, List.map_append, List.map_singleton]
      · cases complete
    · rintro r rfl other
      cases r with
      | byte value => exact absurd rfl (other value)
      | failed held => cases fails
      | closed => exact exited_of_closed made

/-- The sign-in, over a connection without errors. -/
theorem delivers_signIn : Delivers ((machine.trace booted signIn).getD []) := by
  refine (delivers_iff (.reached booted_init rfl)).mpr ?_
  decide +kernel

/-- `recv` fails once, and the server then sends BYE. -/
def failsOnce : List Event :=
  .poll (.ready ⟨true, false⟩ ⟨false, false⟩) :: .recv (.failed 0) :: arrivals (bytes "BYE" ++ crlf)

/-- **The error is counted**: six bytes are returned for five that came, the first of them a NUL. -/
theorem not_delivers_failsOnce : ∃ history s, Run machine history s ∧
    history.map Transition.input = failsOnce ∧
    history.getLast?.bind completed = some (0 :: (bytes "BYE" ++ crlf)) ∧ ¬ Delivers history := by
  have run : Run machine ((machine.trace booted failsOnce).getD []) _ := .reached booted_init rfl
  refine ⟨_, _, run, by decide +kernel, by decide +kernel, fun delivers => ?_⟩
  have goes_on := ((delivers (((machine.trace booted failsOnce).getD []).take 1)
    ⟨⟨.new, 2, ⟨false, false⟩, .acceptMsg []⟩, .recv (.failed 0),
      ⟨.new, 2, ⟨false, false⟩, .acceptMsg [0]⟩, []⟩ _ rfl).2 _ rfl fun _ => Recv.noConfusion).2
  cases goes_on

end TCPClient

end Ipk24Chat
