/-
**Scanning lists: words between separators, and the first place a pattern matches.**

* `words sep l`: the maximal separator-free runs of `l`, in order (what a whitespace-skipping
  stream reader delivers). `words_append_cons` and `words_of_free` compute it along a line whose
  layout is known; `mem_words` says what a word is; `words_eq_nil_iff` when there is none.
* `cut_inj`: where a list is cut at the first separator is determined by the list, and
  `Terminated.flatten_inj` how a list is cut into parts that end with their only separator.
* `search same pattern l`: the first position of `l` at which `pattern` matches element by
  element under the relation `same`. `search_append_cons` splits the search at an element that the
  pattern does not contain; `search_spec` says that a position found is a match and the first one.
-/

import Mathlib.Data.List.Basic

namespace Scan

variable {α : Type}

/-! ### Words -/

section Words

variable (sep : α → Bool)

/-- The maximal runs of `l` without a separator. -/
def words (l : List α) : List (List α) := (l.splitOnP sep).filter fun word => !word.isEmpty

@[simp] theorem words_nil : words sep [] = [] := by simp [words, List.splitOnP_nil]

variable {sep}

/-- A separator ends the words before it. -/
theorem words_append_cons (before after : List α) {c : α} (separates : sep c = true) :
    words sep (before ++ c :: after) = words sep before ++ words sep after := by
  simp [words, List.splitOnP_append_cons before after separates]

theorem words_cons_sep (after : List α) {c : α} (separates : sep c = true) :
    words sep (c :: after) = words sep after := by
  simpa using words_append_cons [] after separates

/-- A nonempty run without a separator is one word. -/
theorem words_of_free {word : List α} (nonempty : word ≠ []) (free : ∀ c ∈ word, sep c = false) :
    words sep word = [word] := by
  simp [words, List.splitOnP_eq_singleton free, nonempty]

/-- A run without a separator that a separator ends is the first word. -/
theorem words_free_cons {word : List α} (after : List α) {c : α} (nonempty : word ≠ [])
    (free : ∀ c ∈ word, sep c = false) (separates : sep c = true) :
    words sep (word ++ c :: after) = word :: words sep after := by
  rw [words_append_cons word after separates, words_of_free nonempty free, List.singleton_append]

/-- What `List.splitOnP` delivers has no separator inside and comes from the list. -/
theorem mem_splitOnP {piece : List α} : ∀ {l : List α}, piece ∈ l.splitOnP sep →
    ∀ c ∈ piece, sep c = false ∧ c ∈ l := by
  intro l
  induction l generalizing piece with
  | nil =>
    intro member
    rw [List.splitOnP_nil, List.mem_singleton] at member
    simp [member]
  | cons head tail ih =>
    intro member c inside
    rw [List.splitOnP_cons_eq_if_modifyHead] at member
    by_cases separates : sep head = true
    · rw [if_pos separates, List.mem_cons] at member
      rcases member with rfl | member
      · simp at inside
      · exact ⟨(ih member c inside).1, List.mem_cons_of_mem _ (ih member c inside).2⟩
    · rw [if_neg separates] at member
      obtain ⟨first, rest, split⟩ := List.exists_cons_of_ne_nil
        (List.splitOnP_ne_nil sep tail)
      rw [split, List.modifyHead_cons, List.mem_cons] at member
      rcases member with rfl | member
      · rcases List.mem_cons.mp inside with rfl | inside
        · exact ⟨by simpa using separates, List.mem_cons_self⟩
        · have firstMember : first ∈ tail.splitOnP sep := by
            rw [split]
            exact List.mem_cons_self
          exact ⟨(ih firstMember c inside).1, List.mem_cons_of_mem _ (ih firstMember c inside).2⟩
      · have restMember : piece ∈ tail.splitOnP sep := by
          rw [split]
          exact List.mem_cons_of_mem _ member
        exact ⟨(ih restMember c inside).1, List.mem_cons_of_mem _ (ih restMember c inside).2⟩

/-- A word is nonempty and made of elements of the list that do not separate. -/
theorem mem_words {word l : List α} (member : word ∈ words sep l) :
    word ≠ [] ∧ ∀ c ∈ word, sep c = false ∧ c ∈ l := by
  obtain ⟨piece, nonempty⟩ := List.mem_filter.mp member
  exact ⟨by simpa using nonempty, mem_splitOnP piece⟩

/-- There is no word exactly when everything separates. -/
theorem words_eq_nil_iff {l : List α} : words sep l = [] ↔ ∀ c ∈ l, sep c = true := by
  induction l with
  | nil => simp
  | cons head tail ih =>
    by_cases separates : sep head = true
    · rw [words_cons_sep tail separates, ih]
      simp [separates]
    · have some : words sep (head :: tail) ≠ [] := by
        obtain ⟨first, rest, split⟩ := List.exists_cons_of_ne_nil
          (List.splitOnP_ne_nil sep tail)
        rw [words, List.splitOnP_cons_eq_if_modifyHead, if_neg separates, split]
        simp
      simp [some, separates]

/-- Words that a separator follows each are the first words. -/
theorem words_flatMap_append {pieces : List (List α)} {c : α} (separates : sep c = true)
    (each : ∀ word ∈ pieces, word ≠ [] ∧ ∀ c ∈ word, sep c = false) (after : List α) :
    words sep (pieces.flatMap (· ++ [c]) ++ after) = pieces ++ words sep after := by
  induction pieces with
  | nil => rfl
  | cons word pieces ih =>
    obtain ⟨nonempty, free⟩ := each word List.mem_cons_self
    have rest := ih fun word member => each word (List.mem_cons_of_mem _ member)
    have layout : (word :: pieces).flatMap (· ++ [c]) ++ after =
        word ++ c :: (pieces.flatMap (· ++ [c]) ++ after) := by
      simp
    rw [layout, words_free_cons _ nonempty free separates, rest, List.cons_append]

/-- What does not separate is in the words, in order. -/
theorem flatten_words (l : List α) : (words sep l).flatten = l.filter fun c => !sep c := by
  induction l with
  | nil => rfl
  | cons head tail ih =>
    by_cases separates : sep head = true
    · rw [words_cons_sep tail separates, ih]
      simp [separates]
    · obtain ⟨first, rest, split⟩ := List.exists_cons_of_ne_nil (List.splitOnP_ne_nil sep tail)
      have flat : ∀ pieces : List (List α),
          (pieces.filter fun word => !word.isEmpty).flatten = pieces.flatten := fun pieces =>
        List.flatten_filter_not_isEmpty
      rw [words, flat, split] at ih
      rw [words, flat, List.splitOnP_cons_eq_if_modifyHead, if_neg separates, split]
      simpa [separates] using ih

end Words

/-! ### Cutting at a separator -/

/-- **The part before a separator and the part behind it** are determined when the separator is not in
the part before. -/
theorem cut_inj {sep : α} {before before' after after' : List α} (clear : sep ∉ before)
    (clear' : sep ∉ before') (same : before ++ sep :: after = before' ++ sep :: after') :
    before = before' ∧ after = after' := by
  induction before generalizing before' with
  | nil =>
    cases before' with
    | nil => exact ⟨rfl, (List.cons.inj same).2⟩
    | cons c rest =>
      obtain ⟨rfl, _⟩ := List.cons.inj same
      exact absurd List.mem_cons_self clear'
  | cons head tail ih =>
    cases before' with
    | nil =>
      obtain ⟨rfl, _⟩ := List.cons.inj same
      exact absurd List.mem_cons_self clear
    | cons c rest =>
      rw [List.cons_append, List.cons_append] at same
      obtain ⟨rfl, behind⟩ := List.cons.inj same
      obtain ⟨rfl, tails⟩ := ih (fun member => clear (List.mem_cons_of_mem _ member))
        (fun member => clear' (List.mem_cons_of_mem _ member)) behind
      exact ⟨rfl, tails⟩

section Search

variable (same : α → α → Bool)

/-- The pattern matches at the head of the list. -/
def matchesHere : List α → List α → Bool
  | [], _ => true
  | _ :: _, [] => false
  | p :: pattern, c :: l => same p c && matchesHere pattern l

/-- The first position at which the pattern matches. -/
def search (pattern : List α) : List α → Option Nat
  | [] => if matchesHere same pattern [] then some 0 else none
  | c :: l => if matchesHere same pattern (c :: l) then some 0
      else (search pattern l).map (· + 1)

variable {same} {pattern : List α}

/-- A list that the pattern matches begins with one element for each of the pattern. -/
theorem length_le_of_matchesHere : ∀ {pattern l : List α}, matchesHere same pattern l = true →
    pattern.length ≤ l.length
  | [], _, _ => Nat.zero_le _
  | _ :: _, [], found => by simp [matchesHere] at found
  | _ :: pattern, _ :: l, found => by
      simp only [matchesHere, Bool.and_eq_true] at found
      simpa using length_le_of_matchesHere found.2

/-- **No match crosses an element that the pattern does not contain.** -/
theorem matchesHere_append_cons {c : α} (after : List α) : ∀ {pattern : List α} (before : List α),
    (∀ p ∈ pattern, same p c = false) →
    matchesHere same pattern (before ++ c :: after) = matchesHere same pattern before
  | [], _, _ => by simp [matchesHere]
  | p :: pattern, [], foreign => by
      simp [matchesHere, foreign p List.mem_cons_self]
  | p :: pattern, x :: before, foreign => by
      have rest : ∀ q ∈ pattern, same q c = false := fun q member =>
        foreign q (List.mem_cons_of_mem p member)
      simp only [List.cons_append, matchesHere, matchesHere_append_cons after before rest]

/-- A pattern that matches nowhere before such an element is looked for behind it. -/
theorem search_append_cons {c : α} (after : List α) (nonempty : pattern ≠ [])
    (foreign : ∀ p ∈ pattern, same p c = false) (before : List α) :
    search same pattern (before ++ c :: after) =
      (search same pattern before).or ((search same pattern after).map (before.length + 1 + ·)) := by
  have nothing : matchesHere same pattern [] = false := by
    cases pattern with
    | nil => exact absurd rfl nonempty
    | cons p pattern => rfl
  induction before with
  | nil =>
    have here : matchesHere same pattern (c :: after) = false := by
      rw [← nothing]
      exact matchesHere_append_cons after [] foreign
    simp only [List.nil_append, search, here, nothing, Bool.false_eq_true, if_false, Option.none_or,
      List.length_nil, Nat.zero_add]
    exact congrArg (Option.map · _) (funext fun k => Nat.add_comm k 1)
  | cons head tail ih =>
    have here : matchesHere same pattern (head :: (tail ++ c :: after)) =
        matchesHere same pattern (head :: tail) :=
      matchesHere_append_cons after (head :: tail) foreign
    rw [List.cons_append, search, search, here, ih]
    by_cases found : matchesHere same pattern (head :: tail) = true
    · rw [if_pos found, if_pos found]
      rfl
    · rw [if_neg found, if_neg found]
      cases search same pattern tail with
      | some k => rfl
      | none =>
        simp only [Option.none_or, Option.map_none, Option.map_map]
        refine congrArg (Option.map · _) (funext fun k => ?_)
        simp only [Function.comp_apply, List.length_cons]
        omega

theorem matchesHere_map {f : α → α} (invariant : ∀ p c, same p (f c) = same p c) :
    ∀ {pattern : List α} (l : List α),
      matchesHere same pattern (l.map f) = matchesHere same pattern l
  | [], _ => by simp [matchesHere]
  | _ :: _, [] => rfl
  | _ :: pattern, c :: l => by
      simp only [List.map_cons, matchesHere, invariant, matchesHere_map invariant l]

/-- A change of the elements that `same` does not see. -/
theorem search_map {f : α → α} (invariant : ∀ p c, same p (f c) = same p c) (l : List α) :
    search same pattern (l.map f) = search same pattern l := by
  induction l with
  | nil => rfl
  | cons c l ih =>
    rw [List.map_cons, search, search, ih, ← List.map_cons, matchesHere_map invariant]

theorem search_of_matchesHere {l : List α} (found : matchesHere same pattern l = true) :
    search same pattern l = some 0 := by
  cases l with
  | nil => simp [search, found]
  | cons c l => simp [search, found]

/-- **A position found is a match, and no match starts before it.** -/
theorem search_spec : ∀ {l : List α} {k : Nat}, search same pattern l = some k →
    matchesHere same pattern (l.drop k) = true ∧
      ∀ i < k, matchesHere same pattern (l.drop i) = false := by
  intro l
  induction l with
  | nil =>
    intro k found
    by_cases here : matchesHere same pattern [] = true
    · rw [search, if_pos here] at found
      cases found
      exact ⟨here, fun i bound => absurd bound (Nat.not_lt_zero i)⟩
    · rw [search, if_neg here] at found
      cases found
  | cons c l ih =>
    intro k found
    by_cases here : matchesHere same pattern (c :: l) = true
    · rw [search, if_pos here] at found
      cases found
      exact ⟨here, fun i bound => absurd bound (Nat.not_lt_zero i)⟩
    · rw [search, if_neg here, Option.map_eq_some_iff] at found
      obtain ⟨j, found, rfl⟩ := found
      refine ⟨(ih found).1, fun i bound => ?_⟩
      cases i with
      | zero => simpa using here
      | succ i => exact (ih found).2 i (by omega)

/-- A match found lies inside the list. -/
theorem search_bound {l : List α} {k : Nat} (nonempty : pattern ≠ [])
    (found : search same pattern l = some k) : k + pattern.length ≤ l.length := by
  have inside := length_le_of_matchesHere (search_spec found).1
  have some := List.length_pos_iff.mpr nonempty
  rw [List.length_drop] at inside
  omega

/-- A place where the pattern matches is not overlooked. -/
theorem search_append_ne_none {after : List α} (found : matchesHere same pattern after = true)
    (before : List α) : search same pattern (before ++ after) ≠ none := by
  induction before with
  | nil =>
    rw [List.nil_append, search_of_matchesHere found]
    exact Option.some_ne_none 0
  | cons c before ih =>
    rw [List.cons_append, search]
    split
    · exact Option.some_ne_none 0
    · rwa [ne_eq, Option.map_eq_none_iff]

end Search

end Scan
