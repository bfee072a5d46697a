/-
**Waits with a limited number of retries.**

A program waits for an answer; it makes a retry on every timeout, and gives up on the timeout behind
the last one. `Wait` is such a wait inside a reactive machine. Among the outputs some are counted: a
retry puts out `each` of them, everything else none.

* `Wait.During.account`: a wait that goes on has made one retry for every timeout, and it has put out
  `each` for every timeout up to the limit;
* `Wait.Account.length`: it takes one answer more than the limit, and those that are no timeouts;
* `transmissions`: the number of copies that a sender with such a wait puts out.
-/

import Ipk24Chat.Lib.Reactive
import Mathlib.Data.List.TakeWhile

namespace Reactive

variable {σ ι ο : Type} {M : Machine σ ι ο}

/-- **A wait with at most `limit` retries.** -/
structure Wait (M : Machine σ ι ο) where
  /-- The wait goes on, behind this many retries. -/
  goesOn : σ → Nat → Prop
  closed : σ → Prop
  /-- An input that the wait takes. -/
  answer : ι → Prop
  timeout : ι → Bool
  limit : Nat
  /-- An output that is counted. -/
  copy : ο → Bool
  /-- The number of copies put out by a retry. -/
  each : Nat
  unique : ∀ {s k k'}, goesOn s k → goesOn s k' → k = k'
  ended : ∀ {s k}, closed s → ¬ goesOn s k
  retry : ∀ {s k input s' out}, goesOn s k → k < limit → answer input → timeout input = true →
    M.step s input = some (s', out) → goesOn s' (k + 1) ∧ out.countP copy = each
  giveUp : ∀ {s input s' out}, goesOn s limit → answer input → timeout input = true →
    M.step s input = some (s', out) → closed s' ∧ out.countP copy = 0
  other : ∀ {s k input s' out}, goesOn s k → answer input → timeout input = false →
    M.step s input = some (s', out) → (goesOn s' k ∨ closed s') ∧ out.countP copy = 0
  /-- No answer begins the wait again. -/
  absorbing : ∀ {s input s' out}, closed s → answer input → M.step s input = some (s', out) → closed s'

namespace Wait

variable (W : Wait M)

/-- **What one answer does** to a wait behind `k` retries. -/
inductive Taken (k : Nat) (input : ι) (s' : σ) (out : List ο) : Prop
  | retried : W.timeout input = true → k < W.limit → W.goesOn s' (k + 1) →
      out.countP W.copy = W.each → Taken k input s' out
  | gaveUp : W.timeout input = true → k = W.limit → W.closed s' → out.countP W.copy = 0 →
      Taken k input s' out
  | passed : W.timeout input = false → W.goesOn s' k → out.countP W.copy = 0 → Taken k input s' out
  | settled : W.timeout input = false → W.closed s' → out.countP W.copy = 0 → Taken k input s' out

/-- **The answers taken by a wait**: it goes on before every one of them. -/
inductive During : σ → List ι → σ → List ο → Prop
  | done {s : σ} : During s [] s []
  | more {s s' s'' : σ} {k : Nat} {input : ι} {inputs : List ι} {out outs : List ο} :
      W.goesOn s k → W.answer input → M.step s input = some (s', out) →
        During s' inputs s'' outs → During s (input :: inputs) s'' (out ++ outs)

variable {W} {s s' : σ} {inputs : List ι} {outs : List ο}

theorem taken {k : Nat} {input : ι} {out : List ο} (goesOn : W.goesOn s k) (below : k ≤ W.limit)
    (answer : W.answer input) (made : M.step s input = some (s', out)) :
    W.Taken k input s' out := by
  cases expired : W.timeout input with
  | true =>
    rcases Nat.lt_or_eq_of_le below with less | rfl
    · obtain ⟨still, copies⟩ := W.retry goesOn less answer expired made
      exact .retried expired less still copies
    · obtain ⟨closed, silent⟩ := W.giveUp goesOn answer expired made
      exact .gaveUp expired rfl closed silent
  | false =>
    obtain ⟨still | closed, silent⟩ := W.other goesOn answer expired made
    · exact .passed expired still silent
    · exact .settled expired closed silent

/-- One answer more. -/
theorem During.snoc {k : Nat} {input : ι} {s'' : σ} {out : List ο}
    (during : W.During s inputs s' outs) (goesOn : W.goesOn s' k) (answer : W.answer input)
    (made : M.step s' input = some (s'', out)) :
    W.During s (inputs ++ [input]) s'' (outs ++ out) := by
  induction during with
  | done =>
    have one := During.more goesOn answer made .done
    rw [List.append_nil] at one
    exact one
  | more going answers first _ ih =>
    rw [List.append_assoc]
    exact .more going answers first (ih goesOn made)

/-- A wait that is over takes no answer. -/
theorem During.of_closed (during : W.During s inputs s' outs) (closed : W.closed s) :
    inputs = [] ∧ s' = s ∧ outs = [] := by
  cases during with
  | done => exact ⟨rfl, rfl, rfl⟩
  | more goesOn => exact absurd goesOn (W.ended closed)

theorem closed_drive (closed : W.closed s) (answers : ∀ input ∈ inputs, W.answer input)
    (driven : Drive M s inputs s' outs) : W.closed s' :=
  driven.invariant_of W.answer W.closed
    (fun _ _ _ _ closed made answer => W.absorbing closed answer made) closed answers

/-- **A drive of answers**: the wait has taken them all and goes on, or it has taken the first of them
and is over before the others. -/
inductive Driven (W : Wait M) : σ → List ι → σ → List ο → Prop
  | waits {s s' : σ} {inputs : List ι} {outs : List ο} {k : Nat} : W.During s inputs s' outs →
      W.goesOn s' k → Driven W s inputs s' outs
  | ends {s mid s' : σ} {first later : List ι} {outs outs' : List ο} : W.During s first mid outs →
      W.closed mid → Drive M mid later s' outs' → Driven W s (first ++ later) s' (outs ++ outs')

theorem Driven.more {k : Nat} {input : ι} {s'' : σ} {out : List ο} (goesOn : W.goesOn s k)
    (answer : W.answer input) (made : M.step s input = some (s', out))
    (driven : Driven W s' inputs s'' outs) : Driven W s (input :: inputs) s'' (out ++ outs) := by
  cases driven with
  | waits during still => exact .waits (.more goesOn answer made during) still
  | ends during closed rest =>
    rw [← List.cons_append, ← List.append_assoc]
    exact .ends (.more goesOn answer made during) closed rest

theorem Driven.of_drive {k : Nat} (goesOn : W.goesOn s k) (below : k ≤ W.limit)
    (answers : ∀ input ∈ inputs, W.answer input) (driven : Drive M s inputs s' outs) :
    Driven W s inputs s' outs := by
  induction driven generalizing k with
  | done => exact .waits .done goesOn
  | more made rest ih =>
    rename_i input inputs out outs
    have answer := answers input List.mem_cons_self
    have later : ∀ input ∈ inputs, W.answer input :=
      fun input member => answers input (List.mem_cons_of_mem _ member)
    have one : W.During _ [input] _ (out ++ []) := .more goesOn answer made .done
    rw [List.append_nil] at one
    cases taken goesOn below answer made with
    | retried _ less goesOn' _ => exact .more goesOn answer made (ih goesOn' less later)
    | passed _ goesOn' _ => exact .more goesOn answer made (ih goesOn' below later)
    | gaveUp _ _ closed _ => exact .ends one closed rest
    | settled _ closed _ => exact .ends one closed rest

/-- A wait goes on or is over behind its answers. -/
theorem drive_cases {k : Nat} (goesOn : W.goesOn s k) (below : k ≤ W.limit)
    (answers : ∀ input ∈ inputs, W.answer input) (driven : Drive M s inputs s' outs) :
    (∃ k', W.goesOn s' k') ∨ W.closed s' := by
  cases Driven.of_drive goesOn below answers driven with
  | waits _ still => exact Or.inl ⟨_, still⟩
  | ends _ closed rest =>
    refine Or.inr (closed_drive closed (fun input member => ?_) rest)
    exact answers input (List.mem_append_right _ member)

/-- **A drive at whose end the wait goes on** is made of its answers. -/
theorem During.of_drive {k k' : Nat} (goesOn : W.goesOn s k) (below : k ≤ W.limit)
    (answers : ∀ input ∈ inputs, W.answer input) (driven : Drive M s inputs s' outs)
    (still : W.goesOn s' k') : W.During s inputs s' outs := by
  cases Driven.of_drive goesOn below answers driven with
  | waits during _ => exact during
  | ends _ closed rest =>
    refine absurd still (W.ended (closed_drive closed (fun input member => ?_) rest))
    exact answers input (List.mem_append_right _ member)

/-- Every drive is made of answers when the machine stops with the wait. -/
theorem During.of_stuck
    (stuck : ∀ {s input}, W.closed s → W.answer input → M.step s input = none)
    {k : Nat} (goesOn : W.goesOn s k) (below : k ≤ W.limit)
    (answers : ∀ input ∈ inputs, W.answer input) (driven : Drive M s inputs s' outs) :
    W.During s inputs s' outs := by
  cases Driven.of_drive goesOn below answers driven with
  | waits during _ => exact during
  | ends during closed rest => cases rest with
    | done =>
      rw [List.append_nil, List.append_nil]
      exact during
    | more made _ =>
      have none := stuck closed (answers _ (List.mem_append_right _ List.mem_cons_self))
      cases none.symm.trans made

/-- **What the answers have done** to a wait behind `k` retries. -/
structure Account (W : Wait M) (k : Nat) (inputs : List ι) (s' : σ) (outs : List ο) : Prop where
  /-- A wait that goes on has made a retry for every timeout. -/
  retries : ∀ k', W.goesOn s' k' → k' = k + inputs.countP W.timeout ∧ k' ≤ W.limit
  /-- The copies put out, whether or not it goes on. -/
  copies : outs.countP W.copy = W.each * min (inputs.countP W.timeout) (W.limit - k)
  timeouts : inputs.countP W.timeout ≤ W.limit - k + 1

/-- **The account of a wait.** -/
theorem During.account {k : Nat} (during : W.During s inputs s' outs) (goesOn : W.goesOn s k)
    (below : k ≤ W.limit) : Account W k inputs s' outs := by
  induction during generalizing k with
  | done =>
    refine ⟨fun k' still => ?_, by simp, by simp⟩
    obtain rfl := W.unique goesOn still
    exact ⟨rfl, below⟩
  | more going answer made rest ih =>
    rename_i input inputs _ _
    obtain rfl := W.unique goesOn going
    cases taken going below answer made with
    | retried expired less still copies =>
      obtain ⟨retries, copies', timeouts⟩ := ih still less
      refine ⟨fun k' goesOn' => ?_, ?_, ?_⟩
      · rw [List.countP_cons_of_pos expired]
        obtain ⟨count, bound⟩ := retries k' goesOn'
        exact ⟨by omega, bound⟩
      · have more : min (inputs.countP W.timeout + 1) (W.limit - k) =
            min (inputs.countP W.timeout) (W.limit - (k + 1)) + 1 := by omega
        rw [List.countP_append, List.countP_cons_of_pos expired, copies, copies', more, Nat.mul_succ,
          Nat.add_comm]
      · rw [List.countP_cons_of_pos expired]
        omega
    | gaveUp expired last closed silent =>
      obtain ⟨rfl, rfl, rfl⟩ := rest.of_closed closed
      exact ⟨fun k' still => absurd still (W.ended closed), by simp [silent, last], by simp [expired]⟩
    | passed expired still silent =>
      obtain ⟨retries, copies', timeouts⟩ := ih still below
      have same : (input :: inputs).countP W.timeout = inputs.countP W.timeout :=
        List.countP_cons_of_neg (by simp [expired])
      refine ⟨fun k' goesOn' => ?_, ?_, ?_⟩
      · rw [same]
        exact retries k' goesOn'
      · rw [List.countP_append, same, silent, Nat.zero_add, copies']
      · rw [same]
        exact timeouts
    | settled expired closed silent =>
      obtain ⟨rfl, rfl, rfl⟩ := rest.of_closed closed
      exact ⟨fun k' still => absurd still (W.ended closed), by simp [silent, expired], by simp [expired]⟩

/-- **A wait ends**: it takes one answer more than the limit, and those that are no timeouts. -/
theorem Account.length {k : Nat} (account : Account W k inputs s' outs) :
    inputs.length ≤ W.limit - k + 1 + inputs.countP fun input => !W.timeout input := by
  have timeouts := account.timeouts
  have split := List.length_eq_countP_add_countP W.timeout (l := inputs)
  simp only [Bool.not_eq_true, Bool.decide_eq_false] at split
  omega

end Wait

/-! ### Retransmission -/

/-- The copies of a message: the first, and one for every timeout before an answer settles it, up to
the limit. -/
def transmissions (limit : Nat) (timeout settles : ι → Bool) (inputs : List ι) : Nat :=
  1 + min ((inputs.takeWhile fun input => !settles input).countP timeout) limit

/-- The answer that settles the message is the last one, or there is none. -/
theorem transmissions_concat {limit : Nat} {timeout settles : ι → Bool} {inputs : List ι} {input : ι}
    (unsettled : ∀ input ∈ inputs, settles input = false)
    (exclusive : settles input = true → timeout input = false) :
    transmissions limit timeout settles (inputs ++ [input]) =
      1 + min ((inputs ++ [input]).countP timeout) limit := by
  have kept : ∀ input ∈ inputs, (!settles input) = true := by
    intro input member
    rw [unsettled input member]
    rfl
  rw [transmissions, List.takeWhile_append_of_pos kept, List.countP_append, List.countP_append]
  cases settled : settles input with
  | false => simp [settled]
  | true => simp [settled, exclusive settled]

/-- One copy is enough when nothing may be sent again, or no timeout comes before the message is
settled. -/
theorem transmissions_eq_one_iff {limit : Nat} {timeout settles : ι → Bool} {inputs : List ι} :
    transmissions limit timeout settles inputs = 1 ↔
      limit = 0 ∨ ∀ input ∈ inputs.takeWhile (fun input => !settles input), timeout input = false := by
  have none : (∀ input ∈ inputs.takeWhile (fun input => !settles input), timeout input = false) ↔
      (inputs.takeWhile fun input => !settles input).countP timeout = 0 := by
    rw [List.countP_eq_zero]
    simp only [Bool.not_eq_true]
  rw [none, transmissions]
  omega

end Reactive
