/-
**Reading and writing integers as numerals.**

`Numerals` is a positional notation: the digits, the signs, and the symbols that may stand in front of a
numeral. `read` skips those, takes one sign, and reads digits as long as there are any; what comes behind
them is ignored.

* `readNat_map`: the digits are folded from the most significant one;
* `read_write`: an integer that is written is read as itself, whatever comes behind its last digit.
-/

import Mathlib.Data.Nat.Digits.Defs

namespace Numeral

/-- **A positional notation** over the symbols `α`. -/
structure Numerals (α : Type) where
  base : Nat
  /-- The value of a digit. -/
  value : α → Option Nat
  symbol : Nat → α
  plus : α
  minus : α
  /-- What may stand in front. -/
  blank : α → Bool
  one_lt : 1 < base
  value_symbol : ∀ {d}, d < base → value (symbol d) = some d
  blank_digit : ∀ {c}, value c ≠ none → blank c = false
  value_plus : value plus = none
  value_minus : value minus = none
  blank_minus : blank minus = false
  minus_ne_plus : minus ≠ plus

namespace Numerals

variable {α : Type} (N : Numerals α)

/-! ### Reading -/

/-- The value of the leading digits, behind digits of value `acc`. -/
def readNat : (acc : Nat) → List α → Nat
  | acc, [] => acc
  | acc, c :: rest =>
    match N.value c with
    | none => acc
    | some d => readNat (N.base * acc + d) rest

/-- A digit at least. -/
def readDigits (l : List α) : Option Nat :=
  if (l.head?.bind N.value).isSome then some (N.readNat 0 l) else none

/-- An integer at the front of the list, with or without a sign. -/
def read [DecidableEq α] (l : List α) : Option Int :=
  match l.dropWhile N.blank with
  | [] => none
  | c :: rest =>
    if c = N.plus then (N.readDigits rest).map Int.ofNat
    else if c = N.minus then (N.readDigits rest).map fun n : Nat => -(n : Int)
    else (N.readDigits (c :: rest)).map Int.ofNat

/-! ### Writing -/

/-- The digits, the most significant one first. -/
def writeNat (n : Nat) : List α :=
  if n = 0 then [N.symbol 0] else (N.base.digits n).reverse.map N.symbol

def write (v : Int) : List α :=
  if v < 0 then N.minus :: N.writeNat v.natAbs else N.writeNat v.natAbs

/-! ### The round trip -/

/-- No digit comes first. -/
def Stops (rest : List α) : Prop := ∀ c ∈ rest.head?, N.value c = none

variable {N}

theorem Stops.readNat {rest : List α} (stops : N.Stops rest) (acc : Nat) :
    N.readNat acc rest = acc := by
  cases rest with
  | nil => rfl
  | cons c rest =>
    unfold Numerals.readNat
    rw [stops c rfl]

/-- **Digits are folded** into the value before them. -/
theorem readNat_map {rest : List α} (stops : N.Stops rest) {ds : List Nat}
    (digits : ∀ d ∈ ds, d < N.base) (acc : Nat) :
    N.readNat acc (ds.map N.symbol ++ rest) = ds.foldl (fun value d => N.base * value + d) acc := by
  induction ds generalizing acc with
  | nil => exact stops.readNat acc
  | cons d ds ih =>
    have first : N.value (N.symbol d) = some d := N.value_symbol (digits d List.mem_cons_self)
    rw [List.map_cons, List.cons_append, Numerals.readNat, first, List.foldl_cons]
    exact ih (fun d' member => digits d' (List.mem_cons_of_mem d member)) _

theorem foldl_digits (n : Nat) :
    (N.base.digits n).reverse.foldl (fun value d => N.base * value + d) 0 = n := by
  have folded := Nat.ofDigits_digits N.base n
  rw [Nat.ofDigits_eq_foldr] at folded
  rw [List.foldl_reverse]
  simpa [Nat.add_comm] using folded

/-- A number that is written is a list of digits, and not the empty one. -/
theorem writeNat_eq (n : Nat) : ∃ d ds, N.writeNat n = (d :: ds).map N.symbol ∧
    (∀ d' ∈ d :: ds, d' < N.base) ∧ (d :: ds).foldl (fun value d => N.base * value + d) 0 = n := by
  unfold writeNat
  by_cases zero : n = 0
  · rw [if_pos zero, zero]
    have one := N.one_lt
    exact ⟨0, [], rfl, by simp; omega, by simp⟩
  · rw [if_neg zero]
    have some : (N.base.digits n).reverse ≠ [] := by
      simpa [Nat.digits_ne_nil_iff_ne_zero] using zero
    obtain ⟨d, ds, shape⟩ := List.exists_cons_of_ne_nil some
    refine ⟨d, ds, by rw [shape], fun d' member => ?_, by rw [← shape]; exact foldl_digits n⟩
    rw [← shape, List.mem_reverse] at member
    exact Nat.digits_lt_base N.one_lt member

theorem readDigits_writeNat {rest : List α} (stops : N.Stops rest) (n : Nat) :
    N.readDigits (N.writeNat n ++ rest) = some n := by
  obtain ⟨d, ds, shape, digits, value⟩ := N.writeNat_eq n
  have first : N.value (N.symbol d) = some d := N.value_symbol (digits d List.mem_cons_self)
  unfold readDigits
  rw [shape, readNat_map stops digits, value, List.map_cons, List.cons_append, List.head?_cons,
    Option.bind_some, first]
  rfl

/-- **An integer that is written is read as itself.** -/
theorem read_write [DecidableEq α] {rest : List α} (stops : N.Stops rest) (v : Int) :
    N.read (N.write v ++ rest) = some v := by
  unfold write
  by_cases negative : v < 0
  · rw [if_pos negative, List.cons_append, Numerals.read,
      List.dropWhile_cons_of_neg (by simp [N.blank_minus])]
    simp only [if_neg N.minus_ne_plus, if_true, readDigits_writeNat stops, Option.map_some]
    rw [Int.ofNat_natAbs_of_nonpos (Int.le_of_lt negative), Int.neg_neg]
  · obtain ⟨d, ds, shape, digits, _⟩ := N.writeNat_eq v.natAbs
    have first : N.value (N.symbol d) = some d := N.value_symbol (digits d List.mem_cons_self)
    have read := readDigits_writeNat stops v.natAbs
    have visible : N.blank (N.symbol d) = false := N.blank_digit (by simp [first])
    have unsigned : ∀ sign, N.value sign = none → N.symbol d ≠ sign := by
      rintro sign none rfl
      rw [first] at none
      cases none
    rw [if_neg negative, Numerals.read]
    rw [shape, List.map_cons, List.cons_append] at read ⊢
    rw [List.dropWhile_cons_of_neg (by simp [visible])]
    simp only [if_neg (unsigned _ N.value_plus), if_neg (unsigned _ N.value_minus), read,
      Option.map_some]
    rw [Int.ofNat_eq_natCast, Int.natAbs_of_nonneg (Int.not_lt.mp negative)]

end Numerals

end Numeral
