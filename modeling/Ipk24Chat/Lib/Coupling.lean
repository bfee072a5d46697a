/-
**Coupled runs: two machines driven side by side.**

Two runs of one program, or a run of each of two programs, are compared step by step. A `Coupling` is a
relation between the states that every step keeps: for related inputs the second machine has a step as
well, its outputs are related one by one, and the states behind are related again.

* `Coupling.drive`: a drive of the first machine is matched by a drive of the second on any related
  inputs;
* `Interleaved`: inputs with further segments inserted, each where the machine absorbs it;
* `Coupling.absorbs`: the inserted segments put out nothing and change nothing of what follows.
-/

import Ipk24Chat.Lib.Reactive
import Mathlib.Data.List.Forall2

namespace Reactive

open List (Forall₂)

variable {σ ι ο σ' ι' ο' : Type} {M : Machine σ ι ο} {N : Machine σ' ι' ο'} {R : σ → σ' → Prop}
  {I : ι → ι' → Prop} {O : ο → ο' → Prop}

/-- **A relation between states that both machines keep**, on related inputs and with related outputs. -/
structure Coupling (M : Machine σ ι ο) (N : Machine σ' ι' ο') (R : σ → σ' → Prop) (I : ι → ι' → Prop)
    (O : ο → ο' → Prop) : Prop where
  step : ∀ {s s' t input input' out}, R s t → I input input' → M.step s input = some (s', out) →
    ∃ t' out', N.step t input' = some (t', out') ∧ R s' t' ∧ Forall₂ O out out'

/-! ### Drives -/

/-- **A drive is matched on any related inputs.** -/
theorem Coupling.drive (coupled : Coupling M N R I O) {s s' : σ} {t : σ'} {inputs : List ι}
    {inputs' : List ι'} {outs : List ο} (driven : Drive M s inputs s' outs) (related : R s t)
    (alike : Forall₂ I inputs inputs') :
    ∃ t' outs', Drive N t inputs' t' outs' ∧ R s' t' ∧ Forall₂ O outs outs' := by
  induction driven generalizing t inputs' with
  | done =>
    obtain rfl := List.forall₂_nil_left_iff.mp alike
    exact ⟨t, [], .done, related, .nil⟩
  | more made _ ih =>
    obtain ⟨input', rest, first, later, rfl⟩ := List.forall₂_cons_left_iff.mp alike
    obtain ⟨t₁, out', made', related', answers⟩ := coupled.step related first made
    obtain ⟨t', outs', driven', related'', answers'⟩ := ih related' later
    exact ⟨t', out' ++ outs', .more made' driven', related'', List.rel_append answers answers'⟩

/-! ### Inserted inputs -/

/-- The second sequence of inputs is the first one, driven from `s`, with segments inserted that the
machine absorbs where they come. -/
inductive Interleaved (M : Machine σ ι ο) (absorbed : σ → List ι → Prop) : σ → List ι → List ι → Prop
  | done {s : σ} : Interleaved M absorbed s [] []
  | same {s s' : σ} {input : ι} {out : List ο} {inputs inputs' : List ι} :
      M.step s input = some (s', out) → Interleaved M absorbed s' inputs inputs' →
      Interleaved M absorbed s (input :: inputs) (input :: inputs')
  | extra {s : σ} {segment inputs inputs' : List ι} : absorbed s segment →
      Interleaved M absorbed s inputs inputs' → Interleaved M absorbed s inputs (segment ++ inputs')

/-- **Absorbed inputs are not noticed**: when a segment puts out nothing and stays inside the relation,
the drive with the segments puts out the same as the one without them. -/
theorem Coupling.absorbs {R : σ → σ → Prop} {absorbed : σ → List ι → Prop}
    (coupled : Coupling M M R Eq Eq)
    (silent : ∀ {s t segment}, R s t → absorbed s segment →
      ∃ t', Drive M t segment t' [] ∧ R s t')
    {s s' t : σ} {inputs inputs' : List ι} {outs : List ο}
    (inserted : Interleaved M absorbed s inputs inputs') (driven : Drive M s inputs s' outs)
    (related : R s t) : ∃ t', Drive M t inputs' t' outs ∧ R s' t' := by
  induction inserted generalizing s' t outs with
  | done =>
    cases driven
    exact ⟨t, .done, related⟩
  | same made _ ih =>
    cases driven with
    | more made' later =>
      cases made.symm.trans made'
      obtain ⟨t₁, out', step, related', answers⟩ := coupled.step related rfl made
      rw [List.forall₂_eq_eq_eq] at answers
      subst answers
      obtain ⟨t', driven', related''⟩ := ih later related'
      exact ⟨t', .more step driven', related''⟩
  | extra absorbs _ ih =>
    obtain ⟨t₁, quiet, related'⟩ := silent related absorbs
    obtain ⟨t', driven', related''⟩ := ih driven related'
    exact ⟨t', quiet.append driven', related''⟩

end Reactive
