/-
**Machines that may be killed by what they put out.**

Some outputs are deadly: the call that puts one out may end the program there. What comes before it has been
put out, what comes after it has not, and nothing is answered any more. The state of a mortal machine is
`none` when it has been killed.

* `Run.lived`: a run is one of the machine, and a last step up to a deadly output if it has been killed;
* `Drive.mortal`: a machine may live on.
-/

import Ipk24Chat.Lib.Reactive

namespace Reactive

variable {σ ι ο : Type}

/-- An input that a mortal machine lives through, or that it is killed by at this place of what it would put
out. -/
inductive Mortal (ι : Type)
  | lives (input : ι)
  | dies (input : ι) (place : Nat)
  deriving DecidableEq, Repr

/-- The machine, which a `deadly` output may kill. -/
def Machine.mortal (M : Machine σ ι ο) (deadly : ο → Bool) : Machine (Option σ) (Mortal ι) ο where
  init s := ∃ s₀, M.init s₀ ∧ s = some s₀
  step
    | some s, .lives input => (M.step s input).map fun (s', out) => (some s', out)
    | some s, .dies input place =>
      (M.step s input).bind fun (_, out) =>
        if out[place]?.any deadly then some (none, out.take place) else none
    | none, _ => none

/-- A transition that the machine has lived through. -/
def Transition.survived (t : Transition σ ι ο) : Transition (Option σ) (Mortal ι) ο :=
  ⟨some t.before, .lives t.input, some t.after, t.out⟩

theorem survived_injective :
    Function.Injective (Transition.survived : Transition σ ι ο → Transition (Option σ) (Mortal ι) ο) := by
  rintro ⟨s, input, s', out⟩ ⟨s₁, input₁, s₁', out₁⟩ same
  cases same
  rfl

/-- A transition that the machine has been killed in, before it put out what has this place. -/
def Transition.broken (t : Transition σ ι ο) (place : Nat) : Transition (Option σ) (Mortal ι) ο :=
  ⟨some t.before, .dies t.input place, none, t.out.take place⟩

theorem survived_ne_broken (t t' : Transition σ ι ο) (place : Nat) : t.survived ≠ t'.broken place := by
  intro same
  cases congrArg Transition.input same

/-- **What has become of a machine**: it has made a run, or it has been killed in one more step. -/
inductive Lived (M : Machine σ ι ο) (deadly : ο → Bool) :
    List (Transition (Option σ) (Mortal ι) ο) → Option σ → Prop
  | alive {lived : List (Transition σ ι ο)} {s : σ} :
      Run M lived s → Lived M deadly (lived.map Transition.survived) (some s)
  | killed {lived : List (Transition σ ι ο)} {t : Transition σ ι ο} {place : Nat} :
      Run M lived t.before → M.step t.before t.input = some (t.after, t.out) →
        t.out[place]?.any deadly = true →
          Lived M deadly (lived.map Transition.survived ++ [t.broken place]) none

variable {M : Machine σ ι ο} {deadly : ο → Bool}

/-- **A run of the mortal machine** is a run of the machine, and a last step that is cut off if it has been
killed. -/
theorem Run.lived {history : List (Transition (Option σ) (Mortal ι) ο)} {state : Option σ}
    (run : Run (M.mortal deadly) history state) : Lived M deadly history state := by
  induction run with
  | start initial =>
    obtain ⟨s₀, initial, rfl⟩ := initial
    have fresh : Lived M deadly ([].map Transition.survived) (some s₀) := .alive (.start initial)
    exact fresh
  | @next history state state' input out _ made ih =>
    cases ih with
    | killed => cases made
    | @alive lived s run =>
      cases input with
      | lives input =>
        obtain ⟨⟨s', out'⟩, lives, answer⟩ := Option.map_eq_some_iff.mp made
        obtain ⟨rfl, rfl⟩ := Prod.mk.inj answer
        have longer : Lived M deadly _ (some s') := .alive (run.next lives)
        rw [List.map_append] at longer
        exact longer
      | dies input place =>
        obtain ⟨⟨s', whole⟩, dies, answer⟩ := Option.bind_eq_some_iff.mp made
        obtain ⟨struck, answer⟩ := Option.ite_none_right_eq_some.mp answer
        obtain ⟨rfl, rfl⟩ := Prod.mk.inj (Option.some.inj answer)
        exact .killed (t := ⟨s, input, s', whole⟩) run dies struck

@[simp] theorem flatMap_survived (lived : List (Transition σ ι ο)) :
    (lived.map Transition.survived).flatMap Transition.out = lived.flatMap Transition.out := by
  rw [List.flatMap_map]
  rfl

/-- **A machine may live on.** -/
theorem Drive.mortal {s s' : σ} {inputs : List ι} {outs : List ο} (driven : Drive M s inputs s' outs)
    (deadly : ο → Bool) :
    Drive (M.mortal deadly) (some s) (inputs.map .lives) (some s') outs := by
  induction driven with
  | done => exact .done
  | more made _ ih => exact .more (Option.map_eq_some_iff.mpr ⟨_, made, rfl⟩) ih

end Reactive
