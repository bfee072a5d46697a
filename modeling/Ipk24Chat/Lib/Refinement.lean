/-
**One machine implements another one.**

`reads` says which inputs of the abstract machine a step stands for, often none, and `shows` what the step
puts out of what counts; the rest is the business of the implementation. An abstract machine may refuse an
input, so that an implementation keeps whatever the abstract machine guards.

* `Implements.run`: every run of the implementation is a run of the abstract machine on the inputs read.
-/

import Ipk24Chat.Lib.Reactive
import Mathlib.Data.List.Forall2

namespace Reactive

open List (Forall₂)

variable {σ ι ο ω τ κ π : Type} {M : Machine σ ι ο} {N : Machine τ κ π} {abs : σ → τ}
  {reads : Transition σ ι ο → List κ} {shows : Transition σ ι ο → List ω} {O : π → ω → Prop}

/-- **Every step of `M` is a drive of `N`** between the abstract states, on the inputs that the step stands
for. -/
structure Implements (M : Machine σ ι ο) (N : Machine τ κ π) (abs : σ → τ)
    (reads : Transition σ ι ο → List κ) (shows : Transition σ ι ο → List ω) (O : π → ω → Prop) :
    Prop where
  start : ∀ s, M.init s → N.init (abs s)
  step : ∀ {s s' input out}, Reachable M s → M.step s input = some (s', out) →
    ∃ outs, Drive N (abs s) (reads ⟨s, input, s', out⟩) (abs s') outs ∧
      Forall₂ O outs (shows ⟨s, input, s', out⟩)

/-- **A run of the implementation is a run of the abstract machine.** -/
theorem Implements.run (implements : Implements M N abs reads shows O)
    {history : List (Transition σ ι ο)} {s : σ} (run : Run M history s) :
    ∃ t outs, N.init t ∧ Drive N t (history.flatMap reads) (abs s) outs ∧
      Forall₂ O outs (history.flatMap shows) := by
  induction run with
  | start initial => exact ⟨_, [], implements.start _ initial, .done, .nil⟩
  | next earlier made ih =>
    obtain ⟨t, outs, start, driven, shown⟩ := ih
    obtain ⟨more, step, shown'⟩ := implements.step earlier.reachable made
    refine ⟨t, outs ++ more, start, ?_, ?_⟩
    · rw [List.flatMap_append, List.flatMap_singleton]
      exact driven.append step
    · rw [List.flatMap_append, List.flatMap_singleton]
      exact List.rel_append shown shown'

end Reactive
