/-
**The words a machine speaks.**

A `letter` is read off some of the things a machine puts out; the word of a run is what its letters spell,
and `spoken` is the language of all runs. `between` is the language of the drives from one state to
another.

* `spoken_le`: the rule for an upper bound, a language for every state that the steps stay in;
* `prefixes_mul`, `prefixes_kstar`: what words of a regular expression begin with;
* `between_mul`, `kstar_le_between`, `between_le_spoken`: the rules for a lower bound, by which a
  regular expression is spoken when its letters are;
* `spoken_mortal_le`, `between_le_mortal`: the words of a machine that may be killed;
* `sayable_mul`, `kstar_le_sayable`, `mem_spoken_of_sayable`: the same rules from every state of a kind, for
  a machine that never comes back to the same state and uses something up with every letter.
-/

import Ipk24Chat.Lib.Mortal
import Mathlib.Computability.Language
import Mathlib.Order.CompletePartialOrder

namespace Reactive

open scoped Computability

variable {σ ι ο α : Type} {M : Machine σ ι ο} {letter : ο → Option α} {s s' s'' : σ}

/-- **The language of the runs.** -/
def spoken (M : Machine σ ι ο) (letter : ο → Option α) : Language α :=
  {word | ∃ history s, Run M history s ∧
    (history.flatMap Transition.out).filterMap letter = word}

/-- The language of the drives between two states. -/
def between (M : Machine σ ι ο) (letter : ο → Option α) (s s' : σ) : Language α :=
  {word | ∃ inputs outs, Drive M s inputs s' outs ∧ outs.filterMap letter = word}

theorem append_mem_kstar {l : Language α} {word more : List α} (repeated : word ∈ l∗)
    (again : more ∈ l) : word ++ more ∈ l∗ := by
  have closed : l∗ * l ≤ l∗ := kstar_mul_le_kstar
  exact closed (Language.append_mem_mul repeated again)

/-! ### Beginnings of words -/

/-- What words of the language begin with. -/
def prefixes (l : Language α) : Language α := {word | ∃ rest, word ++ rest ∈ l}

variable {l m : Language α}

theorem le_prefixes : l ≤ prefixes l := fun word inside => ⟨[], by rwa [List.append_nil]⟩

theorem prefixes_mono (le : l ≤ m) : prefixes l ≤ prefixes m := by
  rintro word ⟨rest, inside⟩
  exact ⟨rest, le inside⟩

theorem prefixes_add : prefixes (l + m) ≤ prefixes l + prefixes m := by
  rintro word ⟨rest, first | second⟩
  · exact Or.inl ⟨rest, first⟩
  · exact Or.inr ⟨rest, second⟩

theorem prefixes_one : prefixes (1 : Language α) ≤ 1 := by
  rintro word ⟨rest, none⟩
  exact (List.append_eq_nil_iff.mp none).1

theorem prefixes_singleton (a : α) : prefixes ({[a]} : Language α) ≤ 1 + {[a]} := by
  rintro word ⟨rest, one⟩
  have one : word ++ rest = [a] := one
  rcases List.append_eq_singleton_iff.mp one with ⟨rfl, _⟩ | ⟨rfl, _⟩
  · exact Or.inl rfl
  · exact Or.inr rfl

/-- A beginning ends in the first word or in the second. -/
theorem prefixes_mul : prefixes (l * m) ≤ prefixes l + l * prefixes m := by
  rintro word ⟨rest, first, inside, second, inside', same⟩
  rcases List.append_eq_append_iff.mp same with ⟨more, rfl, rfl⟩ | ⟨more, rfl, rfl⟩
  · exact Or.inr (Language.append_mem_mul inside ⟨rest, inside'⟩)
  · exact Or.inl ⟨more, inside⟩

/-- A beginning of repeated words ends in one of them. -/
theorem prefixes_kstar : prefixes (l∗) ≤ 1 + l∗ * prefixes l := by
  rintro word ⟨rest, inside⟩
  obtain ⟨words, same, members⟩ := Language.mem_kstar.mp inside
  clear inside
  have begins {word : List α} (begun : word ∈ prefixes l) : word ∈ 1 + l∗ * prefixes l :=
    Or.inr (Language.append_mem_mul (Language.nil_mem_kstar l) begun)
  induction words generalizing word with
  | nil => exact Or.inl (List.append_eq_nil_iff.mp same).1
  | cons first words ih =>
    rw [List.flatten_cons] at same
    have inside : first ∈ l := members first List.mem_cons_self
    rcases List.append_eq_append_iff.mp same with ⟨more, rfl, _⟩ | ⟨more, rfl, later⟩
    · exact begins ⟨more, inside⟩
    · rcases ih later.symm (fun w member => members w (List.mem_cons_of_mem _ member)) with
        none | ⟨repeated, starred, begun, prefixed, rfl⟩
      · obtain rfl : more = [] := none
        rw [List.append_nil]
        exact begins (le_prefixes inside)
      · refine Or.inr ?_
        show first ++ (repeated ++ begun) ∈ l∗ * prefixes l
        rw [← List.append_assoc]
        have closed : l * l∗ ≤ l∗ := mul_kstar_le_kstar
        exact Language.append_mem_mul (closed (Language.append_mem_mul inside starred)) prefixed

/-- Words of letters begin with words of the same letters. -/
theorem prefixes_kstar_le (letters : prefixes l ≤ 1 + l) : prefixes (l∗) ≤ l∗ :=
  calc prefixes (l∗) ≤ 1 + l∗ * prefixes l := prefixes_kstar
    _ ≤ 1 + l∗ * (1 + l) := add_le_add le_rfl (mul_le_mul' le_rfl letters)
    _ ≤ l∗ := by
      rw [mul_add, mul_one]
      exact sup_le one_le_kstar (sup_le le_rfl kstar_mul_le_kstar)

/-! ### Upper bounds -/

/-- **A language for every state**, which holds what has been said so far, bounds the language of the
runs. -/
theorem spoken_le (said : σ → Language α) {whole : Language α}
    (base : ∀ s, M.init s → [] ∈ said s)
    (step : ∀ s input s' out word, Reachable M s → M.step s input = some (s', out) → word ∈ said s →
      word ++ out.filterMap letter ∈ said s')
    (bound : ∀ s, said s ≤ whole) : spoken M letter ≤ whole := by
  rintro _ ⟨history, s, run, rfl⟩
  refine bound s ?_
  have keeps : Reachable M s ∧ (observe (fun seen t => seen ++ t.out) [] history).filterMap letter ∈
      said s := by
    refine run.observed_invariant _ _
      (fun (seen : List ο) s => Reachable M s ∧ seen.filterMap letter ∈ said s)
      (fun s initial => ⟨.start initial, base s initial⟩) ?_
    rintro seen s input s' out ⟨reachable, spelled⟩ made
    refine ⟨reachable.next made, ?_⟩
    rw [List.filterMap_append]
    exact step s input s' out _ reachable made spelled
  rw [observe_flatMap] at keeps
  exact keeps.2

/-! ### Lower bounds -/

/-- A word that is computed. -/
theorem singleton_le_between (inputs : List ι) {word : List α}
    (computed : (M.trace s inputs).map (fun transitions => (last s transitions,
      (transitions.flatMap Transition.out).filterMap letter)) = some (s', word)) :
    {word} ≤ between M letter s s' := by
  rintro _ rfl
  obtain ⟨transitions, traced, same⟩ := Option.map_eq_some_iff.mp computed
  obtain ⟨rfl, rfl⟩ := Prod.mk.inj same
  exact ⟨inputs, _, .of_trace traced, rfl⟩

/-- A word that is computed, wherever it leads to. -/
theorem singleton_le_between_last (inputs : List ι) {word : List α}
    (computed : (M.trace s inputs).map (fun transitions =>
      (transitions.flatMap Transition.out).filterMap letter) = some word) :
    ∃ s', {word} ≤ between M letter s s' := by
  obtain ⟨transitions, traced, rfl⟩ := Option.map_eq_some_iff.mp computed
  refine ⟨last s transitions, singleton_le_between inputs ?_⟩
  rw [traced]
  rfl

theorem one_le_between : 1 ≤ between M letter s s := by
  rintro _ rfl
  exact ⟨[], [], .done, rfl⟩

/-- **One drive behind another** spells one word behind another. -/
theorem between_mul : between M letter s s' * between M letter s' s'' ≤ between M letter s s'' := by
  rintro _ ⟨_, ⟨inputs, outs, first, rfl⟩, _, ⟨inputs', outs', next, rfl⟩, rfl⟩
  exact ⟨inputs ++ inputs', outs ++ outs', first.append next, List.filterMap_append⟩

/-- **What leads back to a state** can be said again and again. -/
theorem kstar_le_between {again : Language α} (returns : again ≤ between M letter s s) :
    again∗ ≤ between M letter s s := by
  refine kstar_le_of_mul_le_left one_le_between ?_
  exact (mul_le_mul_right returns _).trans between_mul

/-- A drive from an initial state is a run. -/
theorem between_le_spoken (initial : M.init s) : between M letter s s' ≤ spoken M letter := by
  rintro _ ⟨inputs, outs, driven, rfl⟩
  obtain ⟨history, run, _, rfl⟩ := (Run.start initial).drive driven
  exact ⟨history, s', run, rfl⟩

/-! ### Mortal machines -/

/-- The words of a mortal machine begin words of the machine. -/
theorem spoken_mortal_le {deadly : ο → Bool} :
    spoken (M.mortal deadly) letter ≤ prefixes (spoken M letter) := by
  rintro _ ⟨history, state, run, rfl⟩
  cases run.lived with
  | alive lives =>
    rw [flatMap_survived]
    exact le_prefixes ⟨_, _, lives, rfl⟩
  | @killed lived t place lives dies _ =>
    refine ⟨(t.out.drop place).filterMap letter, lived ++ [t], t.after, lives.next dies, ?_⟩
    have whole : (t.out.take place).filterMap letter ++ (t.out.drop place).filterMap letter =
        t.out.filterMap letter := by
      rw [← List.filterMap_append, List.take_append_drop]
    simp only [List.flatMap_append, flatMap_survived, List.flatMap_singleton, List.filterMap_append,
      List.append_assoc, Transition.broken, whole]

/-- What a machine says, it may live to say. -/
theorem between_le_mortal {deadly : ο → Bool} :
    between M letter s s' ≤ between (M.mortal deadly) letter (some s) (some s') := by
  rintro _ ⟨inputs, outs, driven, rfl⟩
  exact ⟨_, outs, driven.mortal deadly, rfl⟩

/-! ### Lower bounds within a budget -/

/-- The words that lead from every state of one kind to a state of another, when a letter takes one of what
a state of the kind has left. -/
def sayable (M : Machine σ ι ο) (letter : ο → Option α) (P Q : Nat → σ → Prop) : Language α :=
  {word | ∀ left s, P (left + word.length) s → ∃ s', Q left s' ∧ word ∈ between M letter s s'}

variable {P Q R : Nat → σ → Prop}

theorem one_le_sayable : 1 ≤ sayable M letter P P := by
  rintro _ rfl left s kind
  exact ⟨s, kind, [], [], .done, rfl⟩

theorem sayable_mul : sayable M letter P Q * sayable M letter Q R ≤ sayable M letter P R := by
  rintro _ ⟨word, first, more, next, rfl⟩ left s kind
  rw [List.length_append, Nat.add_comm word.length, ← Nat.add_assoc] at kind
  obtain ⟨s', kind', spelled⟩ := first _ s kind
  obtain ⟨s'', kind'', spelled'⟩ := next left s' kind'
  exact ⟨s'', kind'', between_mul (Language.append_mem_mul spelled spelled')⟩

theorem kstar_le_sayable {again : Language α} (returns : again ≤ sayable M letter P P) :
    again∗ ≤ sayable M letter P P := by
  refine kstar_le_of_mul_le_left one_le_sayable ?_
  exact (mul_le_mul_right returns _).trans sayable_mul

/-- **What an initial state may say** when it has enough for the word. -/
theorem mem_spoken_of_sayable {word : List α} (leads : word ∈ sayable M letter P Q) {s : σ}
    (initial : M.init s) (enough : P word.length s) : word ∈ spoken M letter := by
  rw [← Nat.zero_add word.length] at enough
  obtain ⟨s', _, spelled⟩ := leads 0 s enough
  exact between_le_spoken initial spelled

end Reactive
