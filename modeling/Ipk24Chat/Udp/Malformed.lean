/-
**Malformed datagrams.**

The formats of the protocol end every field in a NUL and leave none empty. The decoder tests the
shortest lengths they allow, eight bytes for a REPLY and seven for a MSG or an ERR, and not the fields
themselves: an empty one is accepted, and so is one that the end of the datagram cuts off. A MSG that
is too short becomes an ERR, where the REPLY becomes `INVALID_MSG`.

* `WellFormed`: the formats;
* `processed_type`: the type a datagram ends with;
* `rejectsMalformed_iff`: a malformed datagram ends as `INVALID_MSG` except for these (`Filled`).
-/

import Ipk24Chat.Udp.RoundTrip

namespace Ipk24Chat

open UDPClient

/-! ### Formats -/

/-- A field and what is behind its NUL. -/
def Splits (d field rest : Str) : Prop := Carried field ∧ d = field ++ 0 :: rest

/-- From this place on there is a name and a text. -/
def NameAndText (d : Str) : Prop := ∃ name text rest rest', Splits d name rest ∧ Splits rest text rest'

/-- From this place on there is a text. -/
def Text (d : Str) : Prop := ∃ text rest, Splits d text rest

/-- **The format of a datagram.** -/
def WellFormed : MsgType → Str → Prop
  | .msg, d => d.getD 0 0 = UDP_MSG ∧ NameAndText (d.drop 3)
  | .err, d => d.getD 0 0 = UDP_ERR ∧ NameAndText (d.drop 3)
  | .replyOk, d | .replyNok, d => d.getD 0 0 = UDP_REPLY ∧ Text (d.drop 6)
  | .bye, d => d.getD 0 0 = UDP_BYE ∧ 3 ≤ d.length
  | .confirm, d => d.getD 0 0 = UDP_CONFIRM ∧ 3 ≤ d.length
  | _, _ => False

/-- The format of a message of the server, with the result of a REPLY. -/
def DatagramGrammar : MsgType → Str → Prop
  | .replyOk, d => WellFormed .replyOk d ∧ d.getD 3 0 = 1
  | .replyNok, d => WellFormed .replyNok d ∧ d.getD 3 0 = 0
  | type, d => WellFormed type d

/-- **The decoder rejects what is malformed**: the datagram has the format of the type it ends with, or
ends as `INVALID_MSG`. -/
def RejectsMalformed (received : Received) (msgIds : List UInt16) : Prop :=
  (processed received msgIds).1.type = .invalidMsg ∨
    WellFormed (processed received msgIds).1.type received.buffer

/-- The fields of a MSG and an ERR, and of a REPLY that is long enough, are there. -/
def Filled (d : Str) : Prop :=
  (kind d = .msg ∨ kind d = .err → NameAndText (d.drop 3)) ∧
    (kind d = .reply → 8 ≤ d.length → Text (d.drop 6))

/-! ### Lengths -/

theorem Splits.length {d field rest : Str} (splits : Splits d field rest) :
    rest.length + 2 ≤ d.length := by
  obtain ⟨⟨_, nonempty⟩, rfl⟩ := splits
  have := List.length_pos_of_ne_nil nonempty
  rw [List.length_append, List.length_cons]
  omega

theorem Splits.nul_mem {d field rest : Str} (splits : Splits d field rest) : (0 : UInt8) ∈ d := by
  rw [splits.2]
  exact List.mem_append_right _ List.mem_cons_self

/-- A field does not begin with its NUL. -/
theorem Splits.head_ne {d field rest : Str} (splits : Splits d field rest) : d.head? ≠ some 0 := by
  obtain ⟨⟨clean, nonempty⟩, rfl⟩ := splits
  obtain ⟨c, more, rfl⟩ := List.exists_cons_of_ne_nil nonempty
  rintro same
  cases same
  exact clean List.mem_cons_self

theorem NameAndText.length {d : Str} (both : NameAndText (d.drop 3)) : 7 ≤ d.length := by
  obtain ⟨name, text, rest, rest', first, second⟩ := both
  have := first.length
  have := second.length
  rw [List.length_drop] at *
  omega

theorem Text.length {d : Str} (one : Text (d.drop 6)) : 8 ≤ d.length := by
  obtain ⟨text, rest, splits⟩ := one
  have := splits.length
  rw [List.length_drop] at this
  omega

/-! ### Kinds -/

/-- The type byte of a kind. -/
def UDPClient.Kind.code : Kind → UInt8
  | .confirm => UDP_CONFIRM
  | .reply => UDP_REPLY
  | .msg => UDP_MSG
  | .err => UDP_ERR
  | .bye => UDP_BYE
  | .invalid => UDP_AUTH

theorem getD_of_kind {d : Str} {k : Kind} (isKind : kind d = k) (known : k ≠ .invalid) :
    d.getD 0 0 = k.code := by
  subst isKind
  unfold kind at known ⊢
  split_ifs at known ⊢ <;> first | assumption | exact absurd rfl known

/-! ### Rejection -/

theorem validated_msg (received : Received) (msgIds : List UInt16) :
    (validated received msgIds).msg = heard received.buffer := by
  have same : validated received msgIds =
      classified { UDPClient.new 0 0 with seenIds := msgIds } received.buffer := rfl
  rw [same, classified_eq]

/-- **The type a datagram ends with.** -/
theorem processed_type (received : Received) (msgIds : List UInt16) :
    (processed received msgIds).1.type =
      match kind received.buffer with
      | .reply => if received.buffer.length < 8 then .invalidMsg else replyType received.buffer
      | .msg => if received.buffer.length < 7 then .err else .msg
      | k => k.type := by
  unfold processed
  rw [validated_msg]
  cases isKind : kind received.buffer with
  | reply =>
    by_cases short : received.buffer.length < 8
    · rw [decode_reply_short isKind short, if_pos short]
    · rw [decode_reply isKind (by omega), if_neg short]
      rfl
  | msg =>
    by_cases short : received.buffer.length < 7
    · rw [decode_short (Or.inl isKind) short, if_pos short]
    · rw [decode_msg isKind (by omega), if_neg short, heard_type, isKind]
      rfl
  | err => rw [decoded_err isKind, heard_type, isKind]
  | confirm => rw [decode_plain (Or.inl isKind), heard_type, isKind]
  | bye => rw [decode_plain (Or.inr (Or.inl isKind)), heard_type, isKind]
  | invalid => rw [decode_plain (Or.inr (Or.inr isKind)), heard_type, isKind]

/-- A decoded REPLY has its format when there is a text. -/
theorem wellFormed_reply {d : Str} (first : d.getD 0 0 = UDP_REPLY) :
    WellFormed (replyType d) d ↔ Text (d.drop 6) := by
  unfold replyType
  split
  · exact and_iff_right first
  · exact and_iff_right first

theorem replyType_ne (d : Str) : replyType d ≠ .invalidMsg := by
  unfold replyType
  split <;> decide

/-- **Rejection**: every datagram that is malformed ends as `INVALID_MSG`, unless it is a MSG, an ERR or
a REPLY of at least eight bytes whose fields are not there. -/
theorem rejectsMalformed_iff (received : Received) (msgIds : List UInt16) :
    RejectsMalformed received msgIds ↔ Filled received.buffer := by
  unfold RejectsMalformed Filled
  rw [processed_type]
  cases isKind : kind received.buffer with
  | reply =>
    have first := getD_of_kind isKind (by decide)
    simp only [reduceCtorEq, or_self, false_imp_iff, true_and, true_imp_iff]
    by_cases short : received.buffer.length < 8
    · rw [if_pos short]
      exact iff_of_true (Or.inl rfl) fun long => absurd long (by omega)
    · rw [if_neg short, or_iff_right (replyType_ne _), wellFormed_reply first]
      exact ⟨fun text _ => text, fun text => text (by omega)⟩
  | msg =>
    have first := getD_of_kind isKind (by decide)
    simp only [reduceCtorEq, or_false, false_imp_iff, and_true, true_imp_iff]
    by_cases short : received.buffer.length < 7
    · rw [if_pos short]
      refine iff_of_false ?_ fun both => absurd both.length (by omega)
      rintro (invalid | ⟨code, _⟩)
      · cases invalid
      · exact absurd (first.symm.trans code) (by decide)
    · rw [if_neg short, or_iff_right (by decide)]
      exact and_iff_right first
  | err =>
    have first := getD_of_kind isKind (by decide)
    simp only [reduceCtorEq, false_or, false_imp_iff, and_true, true_imp_iff]
    rw [or_iff_right (by decide)]
    exact and_iff_right first
  | confirm =>
    have long := three_le_of_kind (d := received.buffer) (by simp [isKind])
    refine iff_of_true (Or.inr ⟨getD_of_kind isKind (by decide), long⟩) ?_
    simp
  | bye =>
    have long := three_le_of_kind (d := received.buffer) (by simp [isKind])
    refine iff_of_true (Or.inr ⟨getD_of_kind isKind (by decide), long⟩) ?_
    simp
  | invalid => exact iff_of_true (Or.inl rfl) (by simp)

/-- A MSG of three bytes. -/
def shortMsg : Received := .datagram [UDP_MSG, 0, 7] 4567 .EAGAIN

/-- A MSG with an empty name and an empty text. -/
def emptyMsg : Received := .datagram [UDP_MSG, 0, 7, 0, 0, 0, 0] 4567 .EAGAIN

/-- A REPLY whose text is cut off. -/
def cutReply : Received := .datagram [UDP_REPLY, 0, 7, 1, 0, 0, 104, 105] 4567 .EAGAIN

/-- **Three malformed datagrams are accepted**, the first one as an ERR. -/
theorem not_rejectsMalformed :
    (¬ RejectsMalformed shortMsg [] ∧ (processed shortMsg []).1.type = .err) ∧
    (¬ RejectsMalformed emptyMsg [] ∧ (processed emptyMsg []).1.type = .msg) ∧
    (¬ RejectsMalformed cutReply [] ∧ (processed cutReply []).1.type = .replyOk) := by
  refine ⟨⟨?_, rfl⟩, ⟨?_, rfl⟩, ⟨?_, rfl⟩⟩
  · rintro (invalid | ⟨code, _⟩)
    · cases invalid
    · exact absurd code (by decide)
  · rintro (invalid | ⟨_, _, _, _, _, name, _⟩)
    · cases invalid
    · exact name.head_ne rfl
  · rintro (invalid | ⟨_, _, _, text⟩)
    · cases invalid
    · exact absurd text.nul_mem (by decide)

end Ipk24Chat
