/-
**Computations that read a memory cell by cell.**

`Reads ι cell α` is a computation that reads cells at places of type `ι` and ends in an `α`; what it
reads next may depend on what it has read. `run` and `accesses` are its result in a memory and the
places it reads there, in order.

* `run_congr`: a memory that agrees on the places read gives the same result and the same accesses.
* `Meets p post`: in every memory, `post` holds of the result and the accesses. `Meets.bind` carries
  it over a sequence.
* `Meets.confined`: a computation that stays within a region has the same result in all memories
  that agree on the region.
-/

import Mathlib.Data.List.Basic

namespace Access

/-- A computation that reads cells. -/
inductive Reads (ι cell : Type) (α : Type) : Type
  | done (a : α)
  | read (i : ι) (next : cell → Reads ι cell α)

namespace Reads

variable {ι cell α β : Type}

def bind : Reads ι cell α → (α → Reads ι cell β) → Reads ι cell β
  | done a, f => f a
  | read i next, f => read i fun c => (next c).bind f

instance : Monad (Reads ι cell) where
  pure := done
  bind := bind

/-- One cell. -/
def get (i : ι) : Reads ι cell cell := read i done

/-- The result in a memory. -/
def run : Reads ι cell α → (ι → cell) → α
  | done a, _ => a
  | read i next, memory => (next (memory i)).run memory

/-- The places read in a memory, in order. -/
def accesses : Reads ι cell α → (ι → cell) → List ι
  | done _, _ => []
  | read i next, memory => i :: (next (memory i)).accesses memory

variable {memory memory' : ι → cell} {p : Reads ι cell α} {f : α → Reads ι cell β}

@[simp] theorem run_pure (a : α) : (pure a : Reads ι cell α).run memory = a := rfl

@[simp] theorem run_get (i : ι) : (get i).run memory = memory i := rfl

@[simp] theorem accesses_pure (a : α) : (pure a : Reads ι cell α).accesses memory = [] := rfl

@[simp] theorem accesses_get (i : ι) : (get i).accesses memory = [i] := rfl

@[simp] theorem run_bind : (p >>= f).run memory = (f (p.run memory)).run memory := by
  change (p.bind f).run memory = _
  induction p with
  | done a => rfl
  | read i next ih => exact ih (memory i)

/-- The cell that is read stands for the value it is bound to, also where a test is made on it. -/
@[simp] theorem run_get_bind (i : ι) (next : cell → Reads ι cell β) :
    (get i >>= next).run memory = (next (memory i)).run memory := rfl

@[simp] theorem accesses_bind :
    (p >>= f).accesses memory = p.accesses memory ++ (f (p.run memory)).accesses memory := by
  change (p.bind f).accesses memory = _
  induction p with
  | done a => rfl
  | read i next ih => exact congrArg (i :: ·) (ih (memory i))

@[simp] theorem run_ite (c : Prop) [Decidable c] (q : Reads ι cell α) :
    (if c then p else q).run memory = if c then p.run memory else q.run memory := by
  split <;> rfl

/-- **A computation depends on the places it reads alone.** -/
theorem run_congr (agree : ∀ i ∈ p.accesses memory, memory' i = memory i) :
    p.run memory' = p.run memory ∧ p.accesses memory' = p.accesses memory := by
  induction p with
  | done a => exact ⟨rfl, rfl⟩
  | read i next ih =>
    have here : memory' i = memory i := agree i List.mem_cons_self
    obtain ⟨result, places⟩ := ih (memory i) fun j later => agree j (List.mem_cons_of_mem i later)
    simp only [run, accesses, here]
    exact ⟨result, congrArg (i :: ·) places⟩

/-! ### Postconditions -/

/-- In every memory, `post` holds of the result and of the places read. -/
def Meets (p : Reads ι cell α) (post : α → List ι → Prop) : Prop :=
  ∀ memory, post (p.run memory) (p.accesses memory)

namespace Meets

variable {post post' : α → List ι → Prop} {after : β → List ι → Prop}

theorem pure {a : α} (holds : post a []) : Meets (pure a : Reads ι cell α) post := fun _ => holds

theorem get {post : cell → List ι → Prop} {i : ι} (holds : ∀ c, post c [i]) :
    Meets (get i) post := fun memory => holds (memory i)

/-- The accesses of the second part stand behind those of the first. -/
theorem bind (first : Meets p post)
    (second : ∀ a places, post a places → Meets (f a) fun b more => after b (places ++ more)) :
    Meets (p >>= f) after := by
  intro memory
  rw [run_bind, accesses_bind]
  exact second _ _ (first memory) memory

theorem imp (meets : Meets p post) (weaker : ∀ a places, post a places → post' a places) :
    Meets p post' := fun memory => weaker _ _ (meets memory)

/-- **What lies outside a region that a computation keeps to does not matter.** -/
theorem confined {region : ι → Prop} (within : Meets p fun _ places => ∀ i ∈ places, region i)
    (agree : ∀ i, region i → memory' i = memory i) :
    p.run memory' = p.run memory ∧ p.accesses memory' = p.accesses memory :=
  run_congr fun i accessed => agree i (within memory i accessed)

end Meets

end Reads

end Access
