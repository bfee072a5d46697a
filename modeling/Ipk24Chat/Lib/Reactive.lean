/-
**Reactive machines: runs, invariants and observers.**

A program that spends its life in blocking calls is a machine whose inputs are the answers of the
environment. `Reactive` is that machine, deterministic and partial (an input the machine is not
waiting for has no step); a `Run` is a list of `Transition`s from an initial state, oldest first.

* `Run.invariant`: what holds initially and is kept by every step holds after every run;
* `Run.invariant_of`: the same, for the runs all of whose transitions meet a condition;
* `Run.observed_invariant_of`: the same for a relation between the state and what an observer
  (a fold over the transitions) has gathered, so that a property may speak of the history;
* `Run.transition`: every transition of a run is a step from a reachable state, after the run of
  what came before it;
* `Run.stable`: a property that every step keeps holds from the moment it is reached;
* `Run.begins`: a property that holds behind a run and not initially begins to hold somewhere;
* `Run.brought_by_iff`, `Run.brought_iff`: a property that certain transitions, or certain inputs, bring
  about, read off a run;
* `Machine.restrict`: the machine in an environment that keeps to a rule;
* `Drive`: the run of a given input sequence from a given state;
* `Machine.trace`, `Machine.driven` and `Machine.reached`: the transitions of such a run, what it puts
  out and its last state, computed.
-/

import Mathlib.Data.List.Induction

namespace Reactive

variable {σ ι ο γ : Type}

/-- A deterministic machine driven by its environment. -/
structure Machine (σ ι ο : Type) where
  /-- The states a run may start in. -/
  init : σ → Prop
  /-- The answer to an input, `none` when the machine is not waiting for it. -/
  step : σ → ι → Option (σ × List ο)

/-- One step of a run, with the states around it. -/
structure Transition (σ ι ο : Type) where
  before : σ
  input : ι
  after : σ
  out : List ο

/-- The runs of a machine: the transitions made, oldest first, and the state reached. -/
inductive Run (M : Machine σ ι ο) : List (Transition σ ι ο) → σ → Prop
  | start {s : σ} : M.init s → Run M [] s
  | next {history : List (Transition σ ι ο)} {s s' : σ} {input : ι} {out : List ο} :
      Run M history s → M.step s input = some (s', out) →
        Run M (history ++ [⟨s, input, s', out⟩]) s'

/-- A state some run reaches. -/
def Reachable (M : Machine σ ι ο) (s : σ) : Prop := ∃ history, Run M history s

variable {M : Machine σ ι ο} {history : List (Transition σ ι ο)} {s s' : σ}

theorem Reachable.start (initial : M.init s) : Reachable M s := ⟨[], .start initial⟩

theorem Reachable.next {input : ι} {out : List ο} (reached : Reachable M s)
    (step : M.step s input = some (s', out)) : Reachable M s' := by
  obtain ⟨history, run⟩ := reached
  exact ⟨_, run.next step⟩

theorem Run.reachable (run : Run M history s) : Reachable M s := ⟨history, run⟩

/-! ### Invariants -/

/-- **The invariant rule under a condition on the transitions.** -/
theorem Run.invariant_of (condition : Transition σ ι ο → Prop) (I : σ → Prop)
    (base : ∀ s, M.init s → I s)
    (step : ∀ s input s' out, I s → M.step s input = some (s', out) →
      condition ⟨s, input, s', out⟩ → I s')
    (run : Run M history s) (met : ∀ t ∈ history, condition t) : I s := by
  induction run with
  | start initial => exact base _ initial
  | next _ made ih =>
    have earlier := ih fun t member => met t (List.mem_append_left _ member)
    exact step _ _ _ _ earlier made (met _ (List.mem_append_right _ (List.mem_singleton_self _)))

/-- **The invariant rule.** -/
theorem Run.invariant (I : σ → Prop) (base : ∀ s, M.init s → I s)
    (step : ∀ s input s' out, I s → M.step s input = some (s', out) → I s')
    (run : Run M history s) : I s :=
  run.invariant_of (fun _ => True) I base
    (fun s input s' out held made _ => step s input s' out held made) fun _ _ => trivial

/-- The invariant rule, for reachable states. -/
theorem Reachable.invariant (I : σ → Prop) (base : ∀ s, M.init s → I s)
    (step : ∀ s input s' out, I s → M.step s input = some (s', out) → I s')
    (reached : Reachable M s) : I s := by
  obtain ⟨_, run⟩ := reached
  exact run.invariant I base step

/-! ### Observers -/

/-- What an observer has gathered after a history. -/
def observe (note : γ → Transition σ ι ο → γ) (blank : γ) (history : List (Transition σ ι ο)) : γ :=
  history.foldl note blank

@[simp] theorem observe_nil (note : γ → Transition σ ι ο → γ) (blank : γ) :
    observe note blank [] = blank := rfl

@[simp] theorem observe_concat (note : γ → Transition σ ι ο → γ) (blank : γ)
    (history : List (Transition σ ι ο)) (t : Transition σ ι ο) :
    observe note blank (history ++ [t]) = note (observe note blank history) t := by
  simp [observe]

/-- The observer that keeps something of every transition. -/
theorem observe_flatMap {α : Type} (part : Transition σ ι ο → List α)
    (history : List (Transition σ ι ο)) :
    observe (fun seen t => seen ++ part t) [] history = history.flatMap part := by
  induction history using List.reverseRecOn with
  | nil => rfl
  | append_singleton history t ih =>
    rw [observe_concat, ih, List.flatMap_append, List.flatMap_singleton]

/-- **The invariant rule with an observer**: a relation between what was observed and the state
reached that holds at the start and is kept by every step that meets the condition. -/
theorem Run.observed_invariant_of (condition : Transition σ ι ο → Prop)
    (note : γ → Transition σ ι ο → γ) (blank : γ) (I : γ → σ → Prop)
    (base : ∀ s, M.init s → I blank s)
    (step : ∀ seen s input s' out, I seen s → M.step s input = some (s', out) →
      condition ⟨s, input, s', out⟩ → I (note seen ⟨s, input, s', out⟩) s')
    (run : Run M history s) (met : ∀ t ∈ history, condition t) :
    I (observe note blank history) s := by
  induction run with
  | start initial => exact base _ initial
  | next _ made ih =>
    have earlier := ih fun t member => met t (List.mem_append_left _ member)
    rw [observe_concat]
    exact step _ _ _ _ _ earlier made
      (met _ (List.mem_append_right _ (List.mem_singleton_self _)))

/-- The invariant rule with an observer, for every run. -/
theorem Run.observed_invariant (note : γ → Transition σ ι ο → γ) (blank : γ) (I : γ → σ → Prop)
    (base : ∀ s, M.init s → I blank s)
    (step : ∀ seen s input s' out, I seen s → M.step s input = some (s', out) →
      I (note seen ⟨s, input, s', out⟩) s')
    (run : Run M history s) : I (observe note blank history) s :=
  run.observed_invariant_of (fun _ => True) note blank I base
    (fun seen s input s' out held made _ => step seen s input s' out held made) fun _ _ => trivial

/-! ### The transitions of a run -/

/-- **A run up to a transition, and the transition as a step.** -/
theorem Run.transition {earlier later : List (Transition σ ι ο)} {t : Transition σ ι ο}
    (run : Run M (earlier ++ t :: later) s) :
    Run M earlier t.before ∧ M.step t.before t.input = some (t.after, t.out) ∧
      Run M (earlier ++ [t]) t.after := by
  induction later using List.reverseRecOn generalizing s with
  | nil =>
    generalize equal : earlier ++ [t] = whole at run
    cases run with
    | start _ => simp at equal
    | next shorter made =>
      obtain ⟨rfl, same⟩ := List.append_inj' equal rfl
      obtain rfl := List.singleton_inj.mp same
      exact ⟨shorter, made, shorter.next made⟩
  | append_singleton later last ih =>
    generalize equal : earlier ++ t :: (later ++ [last]) = whole at run
    cases run with
    | start _ => simp at equal
    | next shorter made =>
      rw [← List.cons_append, ← List.append_assoc] at equal
      obtain ⟨rfl, _⟩ := List.append_inj' equal rfl
      exact ih shorter

/-- **A stable property** that holds behind a transition of a run holds from then on. -/
theorem Run.stable (P : σ → Prop)
    (stable : ∀ s input s' out, P s → M.step s input = some (s', out) → P s')
    {earlier later : List (Transition σ ι ο)} {t : Transition σ ι ο}
    (run : Run M (earlier ++ t :: later) s) (behind : P t.after) : P s := by
  induction later using List.reverseRecOn generalizing s with
  | nil =>
    generalize equal : earlier ++ [t] = whole at run
    cases run with
    | start _ => simp at equal
    | next _ _ =>
      obtain ⟨_, same⟩ := List.append_inj' equal rfl
      obtain rfl := List.singleton_inj.mp same
      exact behind
  | append_singleton later last ih =>
    generalize equal : earlier ++ t :: (later ++ [last]) = whole at run
    cases run with
    | start _ => simp at equal
    | next shorter made =>
      rw [← List.cons_append, ← List.append_assoc] at equal
      obtain ⟨rfl, _⟩ := List.append_inj' equal rfl
      exact stable _ _ _ _ (ih shorter) made

/-- **A property that does not hold initially** and holds behind a run begins to hold at some
transition. -/
theorem Run.begins (P : σ → Prop) (base : ∀ s, M.init s → ¬ P s) (run : Run M history s)
    (holds : P s) : ∃ earlier t later, history = earlier ++ t :: later ∧ ¬ P t.before ∧ P t.after := by
  induction run with
  | start initial => exact absurd holds (base _ initial)
  | next _ _ ih =>
    rename_i past s₀ s₁ input out _ _
    by_cases before : P s₀
    · obtain ⟨earlier, t, later, rfl, flips⟩ := ih before
      exact ⟨earlier, t, later ++ [⟨s₀, input, s₁, out⟩], by simp, flips⟩
    · exact ⟨past, ⟨s₀, input, s₁, out⟩, [], rfl, before, holds⟩

/-- **A property that some transitions bring about** and that nothing ends holds behind a run exactly
when one of them was made. -/
theorem Run.brought_by_iff (P : σ → Prop) (brings : Transition σ ι ο → Prop)
    (base : ∀ s, M.init s → ¬ P s)
    (step : ∀ s input s' out, Reachable M s → M.step s input = some (s', out) →
      (P s' ↔ P s ∨ brings ⟨s, input, s', out⟩))
    (run : Run M history s) : P s ↔ ∃ t ∈ history, brings t := by
  induction run with
  | start initial => exact iff_of_false (base _ initial) (by rintro ⟨t, none, _⟩; cases none)
  | next earlier made ih =>
    rw [step _ _ _ _ earlier.reachable made, ih]
    constructor
    · rintro (⟨t, member, brought⟩ | brought)
      · exact ⟨t, List.mem_append_left _ member, brought⟩
      · exact ⟨_, List.mem_append_right _ (List.mem_singleton_self _), brought⟩
    · rintro ⟨t, member, brought⟩
      rcases List.mem_append.mp member with earlier | last
      · exact Or.inl ⟨t, earlier, brought⟩
      · obtain rfl := List.mem_singleton.mp last
        exact Or.inr brought

/-- The same for a property that some inputs bring about, wherever they come. -/
theorem Run.brought_iff (P : σ → Prop) (brings : ι → Prop) (base : ∀ s, M.init s → ¬ P s)
    (step : ∀ s input s' out, M.step s input = some (s', out) → (P s' ↔ P s ∨ brings input))
    (run : Run M history s) : P s ↔ ∃ t ∈ history, brings t.input :=
  run.brought_by_iff P (fun t => brings t.input) base fun s input s' out _ made =>
    step s input s' out made

/-! ### Environments that keep to a rule -/

section Restrict

variable {may : σ → ι → Prop} [∀ s input, Decidable (may s input)]

/-- The machine, when only some inputs may come in a state. -/
def Machine.restrict (M : Machine σ ι ο) (may : σ → ι → Prop) [∀ s input, Decidable (may s input)] :
    Machine σ ι ο where
  init := M.init
  step s input := if may s input then M.step s input else none

theorem Machine.restrict_step {input : ι} (allowed : may s input) :
    (M.restrict may).step s input = M.step s input := if_pos allowed

/-- **A run of the restricted machine** is a run in which all inputs may come. -/
theorem Run.of_restrict (run : Run (M.restrict may) history s) :
    Run M history s ∧ ∀ t ∈ history, may t.before t.input := by
  induction run with
  | start initial => exact ⟨.start initial, fun t member => by cases member⟩
  | next _ made ih =>
    obtain ⟨allowed, made⟩ := Option.ite_none_right_eq_some.mp made
    refine ⟨ih.1.next made, fun t member => ?_⟩
    rcases List.mem_append.mp member with earlier | last
    · exact ih.2 t earlier
    · rw [List.mem_singleton.mp last]
      exact allowed

end Restrict

/-! ### Driving a machine -/

/-- The run of an input sequence from a given state, with everything it put out. -/
inductive Drive (M : Machine σ ι ο) : σ → List ι → σ → List ο → Prop
  | done {s : σ} : Drive M s [] s []
  | more {s s' s'' : σ} {input : ι} {inputs : List ι} {out outs : List ο} :
      M.step s input = some (s', out) → Drive M s' inputs s'' outs →
        Drive M s (input :: inputs) s'' (out ++ outs)

/-- One step. -/
theorem Drive.single {input : ι} {out : List ο} (made : M.step s input = some (s', out)) :
    Drive M s [input] s' out := by
  have driven := Drive.more made .done
  rw [List.append_nil] at driven
  exact driven

/-- **The invariant rule for a drive**, under a condition on its inputs. -/
theorem Drive.invariant_of (condition : ι → Prop) (I : σ → Prop)
    (step : ∀ s input s' out, I s → M.step s input = some (s', out) → condition input → I s')
    {inputs : List ι} {outs : List ο} (driven : Drive M s inputs s' outs) (held : I s)
    (met : ∀ input ∈ inputs, condition input) : I s' := by
  induction driven with
  | done => exact held
  | more made _ ih =>
    have next := step _ _ _ _ held made (met _ List.mem_cons_self)
    exact ih next fun input member => met input (List.mem_cons_of_mem _ member)

/-- **One drive behind another.** -/
theorem Drive.append {s'' : σ} {inputs more : List ι} {outs outs' : List ο}
    (first : Drive M s inputs s' outs) (next : Drive M s' more s'' outs') :
    Drive M s (inputs ++ more) s'' (outs ++ outs') := by
  induction first with
  | done => exact next
  | more made _ ih =>
    rw [List.append_assoc]
    exact .more made (ih next)

/-- **A drive continues a run.** -/
theorem Run.drive {inputs : List ι} {outs : List ο} (run : Run M history s)
    (driven : Drive M s inputs s' outs) :
    ∃ more, Run M (history ++ more) s' ∧ more.map Transition.input = inputs ∧
      more.flatMap Transition.out = outs := by
  induction driven generalizing history with
  | done => exact ⟨[], by rwa [List.append_nil], rfl, rfl⟩
  | more made _ ih =>
    rename_i s₀ s₁ _ input _ out _ _
    obtain ⟨more, continued, rfl, rfl⟩ := ih (run.next made)
    refine ⟨⟨s₀, input, s₁, out⟩ :: more, ?_, rfl, rfl⟩
    rw [List.append_cons]
    exact continued

theorem Reachable.drive {inputs : List ι} {outs : List ο} (reached : Reachable M s)
    (driven : Drive M s inputs s' outs) : Reachable M s' := by
  obtain ⟨history, run⟩ := reached
  obtain ⟨more, continued, _⟩ := run.drive driven
  exact ⟨_, continued⟩

/-- The transitions of the run of an input sequence, `none` when an input is not waited for. -/
def Machine.trace (M : Machine σ ι ο) : σ → List ι → Option (List (Transition σ ι ο))
  | _, [] => some []
  | s, input :: inputs =>
    match M.step s input with
    | none => none
    | some (s', out) => (M.trace s' inputs).map (⟨s, input, s', out⟩ :: ·)

/-- The state behind some transitions from `s`. -/
def last (s : σ) (transitions : List (Transition σ ι ο)) : σ :=
  match transitions.getLast? with
  | none => s
  | some t => t.after

theorem last_cons (s : σ) (t : Transition σ ι ο) (transitions : List (Transition σ ι ο)) :
    last s (t :: transitions) = last t.after transitions := by
  cases transitions with
  | nil => rfl
  | cons next rest =>
    unfold last
    rw [List.getLast?_cons_cons]
    cases found : (next :: rest).getLast? with
    | none => simp at found
    | some _ => rfl

/-- **A computed trace continues a run.** -/
theorem Run.trace {inputs : List ι} {more : List (Transition σ ι ο)} (run : Run M history s)
    (computed : M.trace s inputs = some more) : Run M (history ++ more) (last s more) := by
  induction inputs generalizing history s more with
  | nil =>
    cases computed
    rw [List.append_nil]
    exact run
  | cons input inputs ih =>
    unfold Machine.trace at computed
    cases made : M.step s input with
    | none => simp [made] at computed
    | some answer =>
      obtain ⟨s', out⟩ := answer
      simp only [made, Option.map_eq_some_iff] at computed
      obtain ⟨rest, computed, rfl⟩ := computed
      rw [last_cons, List.append_cons]
      exact ih (run.next made) computed

/-- A computed trace drives the machine. -/
theorem Drive.of_trace {inputs : List ι} {more : List (Transition σ ι ο)}
    (computed : M.trace s inputs = some more) :
    Drive M s inputs (last s more) (more.flatMap Transition.out) := by
  induction inputs generalizing s more with
  | nil =>
    cases computed
    exact .done
  | cons input inputs ih =>
    unfold Machine.trace at computed
    cases made : M.step s input with
    | none => simp [made] at computed
    | some answer =>
      obtain ⟨s', out⟩ := answer
      simp only [made, Option.map_eq_some_iff] at computed
      obtain ⟨rest, computed, rfl⟩ := computed
      rw [last_cons, List.flatMap_cons]
      exact .more made (ih computed)

/-- One step, computed. -/
def Machine.move (M : Machine σ ι ο) (s : σ) (input : ι) : σ × List ο := (M.step s input).getD (s, [])

/-- **A computed step continues a run.** -/
theorem Run.move (run : Run M history s) (input : ι) (moves : (M.step s input).isSome = true) :
    Run M (history ++ [⟨s, input, (M.move s input).1, (M.move s input).2⟩]) (M.move s input).1 := by
  obtain ⟨answer, made⟩ := Option.isSome_iff_exists.mp moves
  unfold Machine.move
  rw [made]
  exact run.next made

/-- A drive, computed: the state reached and everything put out. -/
def Machine.driven (M : Machine σ ι ο) (s : σ) (inputs : List ι) : Option (σ × List ο) :=
  (M.trace s inputs).map fun transitions => (last s transitions, transitions.flatMap Transition.out)

/-- **A drive is what is computed.** -/
theorem Drive.driven {inputs : List ι} {outs : List ο} (drive : Drive M s inputs s' outs) :
    M.driven s inputs = some (s', outs) := by
  unfold Machine.driven
  induction drive with
  | done => rfl
  | more made _ ih =>
    obtain ⟨transitions, computed, same⟩ := Option.map_eq_some_iff.mp ih
    obtain ⟨rfl, rfl⟩ := Prod.mk.inj same
    unfold Machine.trace
    rw [made]
    simp only [computed, Option.map_some, last_cons, List.flatMap_cons]

/-- The state an input sequence leads to, as computed. -/
def Machine.reached (M : Machine σ ι ο) (s : σ) (inputs : List ι) : σ :=
  last s ((M.trace s inputs).getD [])

theorem Drive.reached {inputs : List ι} (computed : (M.trace s inputs).isSome = true) :
    Drive M s inputs (M.reached s inputs)
      (((M.trace s inputs).getD []).flatMap Transition.out) := by
  obtain ⟨transitions, computed⟩ := Option.isSome_iff_exists.mp computed
  unfold Machine.reached
  rw [computed]
  exact .of_trace computed

theorem Run.reached {inputs : List ι} (initial : M.init s)
    (computed : (M.trace s inputs).isSome = true) :
    Run M ((M.trace s inputs).getD []) (M.reached s inputs) := by
  obtain ⟨transitions, computed⟩ := Option.isSome_iff_exists.mp computed
  unfold Machine.reached
  rw [computed]
  exact (Run.start initial).trace computed

end Reactive
