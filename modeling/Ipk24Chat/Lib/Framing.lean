/-
**Frames read off a stream, one element at a time.**

A source is read with `recv`; `Reads` relates it to what it has yielded and to the source left behind.
`collect` reads until a test of what has been read holds or there is no room, and `frames` calls it
again and again.

* `collect_iff`: what `collect` returns is the shortest prefix that ends a frame, and nothing behind it
  has been read;
* `collect_of_reads`: it returns once the source yields such a prefix;
* `frames_flatten`: a concatenation of frames is taken apart into these frames;
* `Parted.unique`: a stream has one decomposition into frames and an unfinished rest, and `Parted.more`,
  `Parted.done` follow it element by element.
-/

import Mathlib.Data.List.Basic

namespace Framing

variable {κ β : Type}

/-! ### Sources -/

section Source

variable (recv : κ → Option (β × κ))

/-- The source yields these elements one after the other. -/
inductive Reads : κ → List β → κ → Prop
  | nil {k : κ} : Reads k [] k
  | cons {k k' k'' : κ} {b : β} {rest : List β} : recv k = some (b, k') → Reads k' rest k'' →
      Reads k (b :: rest) k''

/-- Read until the test holds of all that has been read, or there is no room left. -/
def collect (stop : List β → Bool) : (room : Nat) → (buffer : List β) → κ → Option (List β × κ)
  | 0, buffer, k => some (buffer, k)
  | room + 1, buffer, k =>
    match recv k with
    | none => none
    | some (b, k') =>
      if stop (buffer ++ [b]) then some (buffer ++ [b], k')
      else collect stop room (buffer ++ [b]) k'

/-- The results of a number of calls. -/
def frames (stop : List β → Bool) (limit : Nat) : (count : Nat) → κ → Option (List (List β) × κ)
  | 0, k => some ([], k)
  | count + 1, k =>
    match collect recv stop limit [] k with
    | none => none
    | some (frame, k') => (frames stop limit count k').map fun rest => (frame :: rest.1, rest.2)

variable {recv}

theorem Reads.append_inv {first second : List β} {k k'' : κ}
    (reads : Reads recv k (first ++ second) k'') :
    ∃ k', Reads recv k first k' ∧ Reads recv k' second k'' := by
  induction first generalizing k with
  | nil => exact ⟨k, .nil, reads⟩
  | cons b rest ih =>
    cases reads with
    | cons yields behind =>
      obtain ⟨k', before, after⟩ := ih behind
      exact ⟨k', .cons yields before, after⟩

end Source

/-! ### The end of a frame -/

section Stops

variable (stop : List β → Bool)

/-- Behind `buffer`, these elements end a frame: the test holds of them or they fill the room, and
neither is so any earlier. -/
structure Ends (room : Nat) (buffer more : List β) : Prop where
  fits : more.length ≤ room
  ends : (more ≠ [] ∧ stop (buffer ++ more) = true) ∨ more.length = room
  first : ∀ before after, more = before ++ after → before ≠ [] → after ≠ [] →
    stop (buffer ++ before) = false

variable {stop}

theorem Ends.zero (buffer : List β) : Ends stop 0 buffer [] where
  fits := Nat.le_refl 0
  ends := Or.inr rfl
  first := by
    intro before after split nonempty
    exact absurd (List.append_eq_nil_iff.mp split.symm).1 nonempty

theorem Ends.eq_nil {buffer more : List β} (done : Ends stop 0 buffer more) : more = [] :=
  List.eq_nil_of_length_eq_zero (Nat.le_zero.mp done.fits)

theorem Ends.ne_nil {room : Nat} {buffer more : List β} (done : Ends stop (room + 1) buffer more) :
    more ≠ [] := by
  rintro rfl
  rcases done.ends with ⟨nonempty, _⟩ | full
  · exact nonempty rfl
  · cases full

/-- One element ends the frame. -/
theorem Ends.single {buffer : List β} {b : β} (room : Nat) (here : stop (buffer ++ [b]) = true) :
    Ends stop (room + 1) buffer [b] where
  fits := Nat.succ_le_succ (Nat.zero_le room)
  ends := Or.inl ⟨List.cons_ne_nil b [], here⟩
  first := by
    intro before after split nonempty behind
    obtain ⟨c, rest, rfl⟩ := List.exists_cons_of_ne_nil nonempty
    rw [List.cons_append] at split
    obtain ⟨_, empty⟩ := List.cons.inj split
    exact absurd (List.append_eq_nil_iff.mp empty.symm).2 behind

/-- When the test holds behind one element, that element is the rest of the frame. -/
theorem Ends.eq_single {room : Nat} {buffer more : List β} {b : β}
    (done : Ends stop (room + 1) buffer (b :: more)) (here : stop (buffer ++ [b]) = true) :
    more = [] := by
  by_contra behind
  have later := done.first [b] more rfl (List.cons_ne_nil b []) behind
  rw [here] at later
  cases later

/-- **One element that does not end the frame.** -/
theorem Ends.cons_iff {room : Nat} {buffer more : List β} {b : β}
    (here : stop (buffer ++ [b]) = false) :
    Ends stop (room + 1) buffer (b :: more) ↔ Ends stop room (buffer ++ [b]) more := by
  have shift : ∀ l : List β, buffer ++ [b] ++ l = buffer ++ b :: l := fun l => by simp
  constructor
  · intro done
    refine ⟨Nat.le_of_succ_le_succ done.fits, ?_, ?_⟩
    · rcases done.ends with ⟨_, holds⟩ | full
      · refine Or.inl ⟨?_, by rw [shift]; exact holds⟩
        rintro rfl
        rw [here] at holds
        cases holds
      · exact Or.inr (Nat.succ.inj full)
    · intro before after split _ behind
      rw [shift]
      exact done.first (b :: before) after (by rw [split]; rfl) (List.cons_ne_nil b before) behind
  · intro done
    refine ⟨Nat.succ_le_succ done.fits, ?_, ?_⟩
    · rcases done.ends with ⟨_, holds⟩ | full
      · exact Or.inl ⟨List.cons_ne_nil b more, by rw [← shift]; exact holds⟩
      · exact Or.inr (congrArg Nat.succ full)
    · intro before after split nonempty behind
      obtain ⟨c, rest, rfl⟩ := List.exists_cons_of_ne_nil nonempty
      rw [List.cons_append] at split
      obtain ⟨rfl, tails⟩ := List.cons.inj split
      rw [← shift]
      by_cases empty : rest = []
      · rw [empty, List.append_nil]
        exact here
      · exact done.first rest after tails empty behind

end Stops

/-! ### Collecting -/

section Collect

variable {recv : κ → Option (β × κ)} {stop : List β → Bool}

/-- What is read begins with what the source yields. -/
theorem Reads.behind {b : β} {more : List β} {k k₁ k' : κ} (reads : Reads recv k more k')
    (yields : recv k = some (b, k₁)) (nonempty : more ≠ []) :
    ∃ rest, more = b :: rest ∧ Reads recv k₁ rest k' := by
  cases reads with
  | nil => exact absurd rfl nonempty
  | cons yields' behind =>
    cases yields.symm.trans yields'
    exact ⟨_, rfl, behind⟩

/-- **What `collect` returns**, and from where it goes on. -/
theorem collect_iff {room : Nat} {buffer frame : List β} {k k' : κ} :
    collect recv stop room buffer k = some (frame, k') ↔
      ∃ more, frame = buffer ++ more ∧ Reads recv k more k' ∧ Ends stop room buffer more := by
  induction room generalizing buffer k with
  | zero =>
    constructor
    · intro returned
      cases returned
      exact ⟨[], (List.append_nil _).symm, .nil, .zero _⟩
    · rintro ⟨more, rfl, reads, done⟩
      obtain rfl := done.eq_nil
      cases reads
      rw [List.append_nil]
      rfl
  | succ room ih =>
    cases yields : recv k with
    | none =>
      unfold collect
      rw [yields]
      refine iff_of_false (fun returned => by cases returned) ?_
      rintro ⟨more, _, reads, done⟩
      cases reads with
      | nil => exact done.ne_nil rfl
      | cons yields' _ =>
        rw [yields] at yields'
        cases yields'
    | some answer =>
      obtain ⟨b, k₁⟩ := answer
      unfold collect
      simp only [yields]
      cases here : stop (buffer ++ [b]) with
      | true =>
        rw [if_pos rfl]
        constructor
        · intro returned
          cases returned
          exact ⟨[b], rfl, .cons yields .nil, .single room here⟩
        · rintro ⟨more, rfl, reads, done⟩
          obtain ⟨rest, rfl, behind⟩ := reads.behind yields done.ne_nil
          obtain rfl := done.eq_single here
          cases behind
          rfl
      | false =>
        rw [if_neg Bool.false_ne_true, ih]
        constructor
        · rintro ⟨more, rfl, reads, done⟩
          exact ⟨b :: more, by simp, .cons yields reads, (Ends.cons_iff here).mpr done⟩
        · rintro ⟨more, rfl, reads, done⟩
          obtain ⟨rest, rfl, behind⟩ := reads.behind yields done.ne_nil
          exact ⟨rest, by simp, behind, (Ends.cons_iff here).mp done⟩

/-- **`collect` returns** when the source yields enough. -/
theorem collect_of_reads {room : Nat} {buffer stream : List β} {k k' : κ}
    (reads : Reads recv k stream k')
    (enough : room ≤ stream.length ∨
      ∃ before after, stream = before ++ after ∧ before ≠ [] ∧ stop (buffer ++ before) = true) :
    ∃ frame k'', collect recv stop room buffer k = some (frame, k'') := by
  induction room generalizing buffer stream k with
  | zero => exact ⟨buffer, k, rfl⟩
  | succ room ih =>
    cases reads with
    | nil =>
      rcases enough with long | ⟨before, after, split, nonempty, _⟩
      · exact absurd long (Nat.not_succ_le_zero room)
      · exact absurd (List.append_eq_nil_iff.mp split.symm).1 nonempty
    | cons yields behind =>
      rename_i k₁ b rest
      unfold collect
      simp only [yields]
      cases here : stop (buffer ++ [b]) with
      | true => exact ⟨buffer ++ [b], k₁, rfl⟩
      | false =>
        refine ih behind ?_
        rcases enough with long | ⟨before, after, split, nonempty, holds⟩
        · exact Or.inl (Nat.le_of_succ_le_succ long)
        · obtain ⟨c, before, rfl⟩ := List.exists_cons_of_ne_nil nonempty
          rw [List.cons_append] at split
          obtain ⟨rfl, tails⟩ := List.cons.inj split
          refine Or.inr ⟨before, after, tails, ?_, by simpa using holds⟩
          rintro rfl
          rw [here] at holds
          cases holds

/-- **A concatenation of frames is taken apart** into these frames, and nothing behind them is read. -/
theorem frames_flatten {limit : Nat} {messages : List (List β)} {k k' : κ}
    (framed : ∀ m ∈ messages, Ends stop limit [] m) (reads : Reads recv k messages.flatten k') :
    frames recv stop limit messages.length k = some (messages, k') := by
  induction messages generalizing k with
  | nil =>
    cases reads
    rfl
  | cons message rest ih =>
    rw [List.flatten_cons] at reads
    obtain ⟨k₁, first, behind⟩ := reads.append_inv
    have call : collect recv stop limit [] k = some (message, k₁) :=
      collect_iff.mpr ⟨message, rfl, first, framed message List.mem_cons_self⟩
    have later := ih (fun m member => framed m (List.mem_cons_of_mem message member)) behind
    rw [List.length_cons, frames, call]
    simp only [later, Option.map_some]

end Collect

/-! ### Decompositions -/

section Decompositions

variable {stop : List β → Bool} {limit : Nat}

/-- No frame begins another one. -/
theorem Ends.eq_of_prefix {frame longer : List β} (done : Ends stop limit [] frame)
    (done' : Ends stop limit [] longer) (front : frame <+: longer) : frame = longer := by
  obtain ⟨more, rfl⟩ := front
  by_contra differs
  have behind : more ≠ [] := by
    rintro rfl
    exact differs (List.append_nil frame).symm
  have size := done'.fits
  rw [List.length_append] at size
  have positive := List.length_pos_iff.mpr behind
  rcases done.ends with ⟨nonempty, holds⟩ | full
  · rw [done'.first frame more rfl nonempty behind] at holds
    cases holds
  · omega

/-- **A stream taken apart** into frames and a rest that no frame begins. -/
structure Parted (stop : List β → Bool) (limit : Nat) (stream : List β) (frames : List (List β))
    (rest : List β) : Prop where
  whole : stream = frames.flatten ++ rest
  ends : ∀ frame ∈ frames, Ends stop limit [] frame
  unfinished : ∀ frame, frame <+: rest → ¬ Ends stop limit [] frame

/-- The empty stream, where a frame has room. -/
theorem Parted.nil (room : 0 < limit) : Parted stop limit [] [] [] where
  whole := rfl
  ends := fun _ member => by cases member
  unfinished := by
    intro frame front done
    obtain rfl := List.prefix_nil.mp front
    rcases done.ends with ⟨nonempty, _⟩ | full
    · exact nonempty rfl
    · exact absurd full (Nat.ne_of_lt room)

/-- One more element that does not end a frame. -/
theorem Parted.more {stream rest : List β} {frames : List (List β)} {b : β}
    (parted : Parted stop limit stream frames rest)
    (unfinished : ∀ frame, frame <+: rest ++ [b] → ¬ Ends stop limit [] frame) :
    Parted stop limit (stream ++ [b]) frames (rest ++ [b]) where
  whole := by rw [parted.whole, List.append_assoc]
  ends := parted.ends
  unfinished := unfinished

/-- One more element that ends a frame. -/
theorem Parted.done {stream rest : List β} {frames : List (List β)} {b : β} (room : 0 < limit)
    (parted : Parted stop limit stream frames rest) (done : Ends stop limit [] (rest ++ [b])) :
    Parted stop limit (stream ++ [b]) (frames ++ [rest ++ [b]]) [] where
  whole := by
    rw [parted.whole, List.flatten_append, List.flatten_singleton, List.append_nil,
      List.append_assoc]
  ends := by
    intro frame member
    rcases List.mem_append.mp member with member | member
    · exact parted.ends frame member
    · rw [List.mem_singleton.mp member]
      exact done
  unfinished := (Parted.nil room).unfinished

/-- **There is one decomposition.** -/
theorem Parted.unique {stream rest rest' : List β} {frames frames' : List (List β)}
    (parted : Parted stop limit stream frames rest)
    (parted' : Parted stop limit stream frames' rest') : frames = frames' ∧ rest = rest' := by
  induction frames generalizing stream frames' with
  | nil =>
    cases frames' with
    | nil =>
      have whole := parted.whole.symm.trans parted'.whole
      exact ⟨rfl, whole⟩
    | cons frame' others' =>
      have front : frame' <+: rest := by
        have whole := parted.whole.symm.trans parted'.whole
        rw [List.flatten_nil, List.nil_append, List.flatten_cons, List.append_assoc] at whole
        exact ⟨_, whole.symm⟩
      exact absurd (parted'.ends frame' List.mem_cons_self) (parted.unfinished frame' front)
  | cons frame others ih =>
    cases frames' with
    | nil =>
      have front : frame <+: rest' := by
        have whole := parted.whole.symm.trans parted'.whole
        rw [List.flatten_nil, List.nil_append, List.flatten_cons, List.append_assoc] at whole
        exact ⟨_, whole⟩
      exact absurd (parted.ends frame List.mem_cons_self) (parted'.unfinished frame front)
    | cons frame' others' =>
      have whole := parted.whole.symm.trans parted'.whole
      rw [List.flatten_cons, List.flatten_cons, List.append_assoc, List.append_assoc] at whole
      have first := parted.ends frame List.mem_cons_self
      have first' := parted'.ends frame' List.mem_cons_self
      have same : frame = frame' := by
        rcases List.prefix_or_prefix_of_prefix ⟨_, whole⟩ (List.prefix_append frame' _) with front | front
        · exact first.eq_of_prefix first' front
        · exact (first'.eq_of_prefix first front).symm
      subst same
      have behind : others.flatten ++ rest = others'.flatten ++ rest' := List.append_cancel_left whole
      obtain ⟨rfl, rfl⟩ := ih
        ⟨rfl, fun m member => parted.ends m (List.mem_cons_of_mem _ member), parted.unfinished⟩
        ⟨behind, fun m member => parted'.ends m (List.mem_cons_of_mem _ member), parted'.unfinished⟩
      exact ⟨rfl, rfl⟩

end Decompositions

end Framing
