/-
**Lines that name their sender, encoded and decoded.**

* `Keywords type`: a spelling of the three keywords of such a line, in any letter case;
* `Keywords.searchIs_line`: the text is cut behind the first `is` of the line, which is the keyword
  unless the display name contains one;
* `roundTrips_iff`: what the encoder writes is read back, in every spelling, exactly when the display
  name contains no `is` in any case.
-/

import Ipk24Chat.Tcp.Encoding
import Ipk24Chat.Tcp.Stepping

namespace Ipk24Chat

open Scan TCPMessage TCPClient

/-! ### Spellings -/

/-- The first keyword. -/
def keyword : MsgType → Str
  | .err => bytes "ERR"
  | _ => bytes "MSG"

/-- A spelling of the keywords of a line. -/
structure Keywords (type : MsgType) where
  label : Str
  source : Str
  link : Str
  label_upper : label.map toupper = keyword type
  source_upper : source.map toupper = bytes "FROM"
  link_upper : link.map toupper = bytes "IS"

/-- The line with these keywords. -/
def Keywords.line {type : MsgType} (k : Keywords type) (name text : Str) : Str :=
  k.label ++ 32 :: (k.source ++ 32 :: (name ++ 32 :: (k.link ++ 32 :: (text ++ [13, 10]))))

theorem keyword_upper (type : MsgType) : (keyword type).map toupper = keyword type := by
  cases type <;> rfl

/-- The spelling of the encoder. -/
def Keywords.upper (type : MsgType) : Keywords type where
  label := keyword type
  source := bytes "FROM"
  link := bytes "IS"
  label_upper := keyword_upper type
  source_upper := rfl
  link_upper := rfl

theorem upper_line (type : MsgType) (name text : Str) :
    (Keywords.upper type).line name text = chatLine (keyword type) name text := by
  simp [Keywords.line, Keywords.upper, chatLine, bytes]

/-! ### Letters -/

theorem toupper_of_isspace {c : UInt8} (space : isspace c = true) : toupper c = c := by
  have small : ¬ 97 ≤ c := by
    simp only [isspace, Bool.or_eq_true, beq_iff_eq, Bool.and_eq_true, decide_eq_true_eq] at space
    rcases space with rfl | ⟨_, most⟩
    · decide
    · intro least
      exact absurd (UInt8.le_trans least most) (by decide)
  simp [toupper, small]

/-- A spelling of a word without whitespace has none. -/
theorem free_of_upper {word upper : Str} (spelled : word.map toupper = upper)
    (free : ∀ c ∈ upper, isspace c = false) : ∀ c ∈ word, isspace c = false := by
  intro c member
  by_contra space
  have space : isspace c = true := by simpa using space
  have inside : c ∈ upper := by
    rw [← spelled, ← toupper_of_isspace space]
    exact List.mem_map_of_mem member
  rw [free c inside] at space
  cases space

theorem ne_nil_of_upper {word upper : Str} (spelled : word.map toupper = upper)
    (nonempty : upper ≠ []) : word ≠ [] := by
  rintro rfl
  exact nonempty spelled.symm

theorem tolower_toupper (c : UInt8) : tolower (toupper c) = tolower c := by
  have values : ∀ n : Fin 256, tolower (toupper (UInt8.ofFin n)) = tolower (UInt8.ofFin n) := by
    decide +kernel
  exact values c.toFin

theorem sameIcase_toupper (p c : UInt8) : sameIcase p (toupper c) = sameIcase p c := by
  unfold sameIcase
  rw [tolower_toupper]

/-- **The search for `is` does not see the case of letters.** -/
theorem searchIs_of_upper {word upper : Str} (spelled : word.map toupper = upper) :
    searchIs word = searchIs upper := by
  rw [← spelled]
  exact (search_map sameIcase_toupper word).symm

/-- The search behind a blank. -/
theorem searchIs_append (before after : Str) : searchIs (before ++ 32 :: after) =
    (searchIs before).or ((searchIs after).map (before.length + 1 + ·)) :=
  search_append_cons after (by decide) (by decide +kernel) before

/-! ### The text of a line -/

theorem Keywords.link_length {type : MsgType} (k : Keywords type) : k.link.length = 2 := by
  rw [← List.length_map (f := toupper), k.link_upper]
  rfl

theorem Keywords.searchIs_label {type : MsgType} (k : Keywords type) : searchIs k.label = none := by
  rw [searchIs_of_upper k.label_upper]
  cases type <;> rfl

/-- **The first `is` of a line** is the keyword, or it is in the display name. -/
theorem Keywords.searchIs_line {type : MsgType} (k : Keywords type) (name text : Str) :
    searchIs (k.line name text) = some
      (k.label.length + 1 + (k.source.length + 1 + (searchIs name).getD (name.length + 1))) := by
  have source : searchIs k.source = none := searchIs_of_upper k.source_upper
  have link : searchIs k.link = some 0 := searchIs_of_upper k.link_upper
  unfold Keywords.line
  rw [searchIs_append, k.searchIs_label, Option.none_or, searchIs_append, source, Option.none_or,
    searchIs_append, searchIs_append, link]
  cases searchIs name with
  | none => rfl
  | some found => rfl

theorem Keywords.length_line {type : MsgType} (k : Keywords type) (name text : Str) :
    (k.line name text).length =
      k.label.length + 1 + (k.source.length + 1 + (name.length + text.length + 6)) := by
  unfold Keywords.line
  simp only [List.length_append, List.length_cons, List.length_nil, k.link_length]
  omega

theorem removeLineEnding_crlf (text : Str) : removeLineEnding (text ++ [13, 10]) = text := by
  have inner : text ++ [13, 10] = (text ++ [13]) ++ [10] := by simp
  unfold removeLineEnding
  rw [inner]
  simp

theorem length_removeLineEnding (text : Str) :
    text.length ≤ (removeLineEnding text).length + 2 := by
  unfold removeLineEnding
  simp only
  split
  · split
    · simp only [List.length_dropLast]
      omega
    · simp only [List.length_dropLast]
      omega
  · split
    · simp only [List.length_dropLast]
      omega
    · omega

/-- A text that stands three places behind the first `is`, and ends the line, is cut out. -/
theorem extract_of_layout {line front text : Str} {position : Nat} (found : searchIs line = some position)
    (layout : line = front ++ (text ++ [13, 10])) (width : front.length = position + 3) :
    extractMessage line = .ok (some text) := by
  have inside : position + 3 ≤ line.length := by
    rw [layout, List.length_append, width]
    exact Nat.le_add_right _ _
  simp only [extractMessage, found, substr, if_pos inside]
  rw [layout, List.drop_left' width]
  exact congrArg (fun text => Except.ok (some text)) (removeLineEnding_crlf text)

/-- **A line whose display name has no `is`**: the text is cut where it begins. -/
theorem Keywords.extract_of_none {type : MsgType} (k : Keywords type) {name : Str} (text : Str)
    (quiet : searchIs name = none) : extractMessage (k.line name text) = .ok (some text) := by
  have start := k.searchIs_line name text
  rw [quiet, Option.getD_none] at start
  have layout : k.line name text =
      (k.label ++ 32 :: (k.source ++ 32 :: (name ++ 32 :: (k.link ++ [32])))) ++ (text ++ [13, 10]) := by
    simp [Keywords.line]
  refine extract_of_layout start layout ?_
  simp only [List.length_append, List.length_cons, List.length_nil, k.link_length]
  omega

/-- **A line whose display name has one**: more than the text is cut out. -/
theorem Keywords.extract_of_some {type : MsgType} (k : Keywords type) {name : Str} (text : Str)
    {position : Nat} (found : searchIs name = some position) :
    ∃ more, extractMessage (k.line name text) = .ok (some more) ∧ text.length < more.length := by
  have start := k.searchIs_line name text
  rw [found, Option.getD_some] at start
  have bound : position + 2 ≤ name.length := search_bound (by decide) found
  have length := k.length_line name text
  have inside : k.label.length + 1 + (k.source.length + 1 + position) + 3 ≤
      (k.line name text).length := by
    omega
  simp only [extractMessage, start, substr, if_pos inside]
  refine ⟨_, rfl, ?_⟩
  have cut := length_removeLineEnding
    ((k.line name text).drop (k.label.length + 1 + (k.source.length + 1 + position) + 3))
  rw [List.length_drop] at cut
  omega

/-! ### The decoder on a line -/

/-- The decoder splits the line into its keywords, the display name and the words of the text. -/
theorem Keywords.words_line {type : MsgType} (k : Keywords type) {name : Str} (text : Str)
    (named : Field .dname name) : words isspace (k.line name text) =
      k.label :: k.source :: name :: k.link :: words isspace (text ++ [13, 10]) := by
  have blank : isspace 32 = true := by decide
  have free : ∀ c ∈ name, isspace c = false := by
    intro c member
    have graph := named.2
    simp only [validateMsgParam, Bool.and_eq_true, List.all_eq_true] at graph
    exact isspace_of_isgraph (graph.2 c member)
  have label : (∀ c ∈ k.label, isspace c = false) ∧ k.label ≠ [] := by
    refine ⟨free_of_upper k.label_upper ?_, ne_nil_of_upper k.label_upper ?_⟩
    · cases type <;> decide +kernel
    · cases type <;> decide
  have source : (∀ c ∈ k.source, isspace c = false) ∧ k.source ≠ [] :=
    ⟨free_of_upper k.source_upper (by decide +kernel), ne_nil_of_upper k.source_upper (by decide)⟩
  have link : (∀ c ∈ k.link, isspace c = false) ∧ k.link ≠ [] :=
    ⟨free_of_upper k.link_upper (by decide +kernel), ne_nil_of_upper k.link_upper (by decide)⟩
  unfold Keywords.line
  rw [words_free_cons _ label.2 label.1 blank, words_free_cons _ source.2 source.1 blank,
    words_free_cons _ named.1 free blank, words_free_cons _ link.2 link.1 blank]

/-- The object a line is received into. -/
def received (line : Str) : TCPMessage := { NetworkMessage.new [] .toBeDecided with buffer := line }

/-- A message that names its sender. -/
def Chat (type : MsgType) : Prop := type = .msg ∨ type = .err

/-- What is displayed of a message that names its sender. -/
def shown (type : MsgType) (sender text : Str) : Output :=
  if type = .err then .err sender text else .msg sender text

/-- A line in any spelling reaches the branch of `ERR` and `MSG`. -/
theorem Keywords.decoded_line {type : MsgType} (k : Keywords type) (chat : Chat type) {name : Str}
    (text : Str) (named : Field .dname name) : decoded (k.line name text) =
      (received (k.line name text)).chatBranch (k.line name text) name type := by
  have split := k.words_line text named
  unfold decoded processInboundMsg
  simp only [NetworkMessage.new, List.take_length, split, List.length_cons, List.getD_cons_zero,
    List.getD_cons_succ, k.label_upper, k.source_upper]
  rcases chat with rfl | rfl
  · simp [keyword, received, NetworkMessage.new, bytes]
  · simp [keyword, received, NetworkMessage.new, bytes]

/-! ### Round trips -/

/-- How a message that names its sender is built, and the type it is received with. -/
inductive Built (text : Str) : MsgType → MsgType → Prop
  | typed : command text = .text → Built text .userCmd .msg
  | msg : Built text .msg .msg
  | customErr : Built text .customErr .err

theorem Built.chat {text : Str} {built type : MsgType} (how : Built text built type) : Chat type := by
  cases how with
  | typed => exact Or.inl rfl
  | msg => exact Or.inl rfl
  | customErr => exact Or.inr rfl

/-- What the encoder puts on the wire. -/
def encoded (built : MsgType) (name text : Str) : Str :=
  (processOutgoingMsg ((NetworkMessage.new text built).setDisplayName name)).1.getOutputBuffer

/-- **The encoder writes the line in upper case.** -/
theorem Built.encoded_eq {name text : Str} {built type : MsgType} (how : Built text built type)
    (named : Field .dname name) (valid : Field .msg text) :
    encoded built name text = (Keywords.upper type).line name text := by
  rw [upper_line]
  have named := nul_not_mem named.2
  have clean := nul_not_mem valid.2
  cases how with
  | typed isText =>
    unfold encoded
    rw [output_userCmd named, isText]
    rfl
  | msg => exact output_msg named clean
  | customErr => exact output_customErr named clean

/-- What is encoded is the line, and in every spelling it is decoded with its type and displayed with
its sender and its text. -/
def RoundTrips (built type : MsgType) (name text : Str) : Prop :=
  encoded built name text = (Keywords.upper type).line name text ∧
    ∀ k : Keywords type, ∃ m, decoded (k.line name text) = .ok (m, [shown type name text]) ∧
      m.type = type

/-- An `i` and an `s` next to each other, in any case. -/
def ContainsIs (name : Str) : Prop :=
  ∃ before first second after, name = before ++ first :: second :: after ∧
    tolower first = chr 'i' ∧ tolower second = chr 's'

/-- The pattern matches an `i` and an `s`. -/
theorem matchesHere_is (first second : UInt8) (after : Str) :
    matchesHere sameIcase (bytes "is") (first :: second :: after) = true ↔
      tolower first = chr 'i' ∧ tolower second = chr 's' := by
  show (sameIcase (chr 'i') first && (sameIcase (chr 's') second && true)) = true ↔ _
  have i : tolower (chr 'i') = chr 'i' := rfl
  have s : tolower (chr 's') = chr 's' := rfl
  rw [sameIcase, sameIcase, i, s, Bool.and_true, Bool.and_eq_true, beq_iff_eq, beq_iff_eq]
  exact and_congr eq_comm eq_comm

theorem containsIs_iff (name : Str) : ContainsIs name ↔ searchIs name ≠ none := by
  constructor
  · rintro ⟨before, first, second, after, rfl, letters⟩
    exact search_append_ne_none ((matchesHere_is first second after).mpr letters) before
  · intro found
    obtain ⟨position, found⟩ := Option.ne_none_iff_exists'.mp found
    have here := (search_spec found).1
    have width := length_le_of_matchesHere here
    obtain ⟨first, rest, shape⟩ := List.exists_cons_of_length_pos (l := name.drop position)
      (Nat.lt_of_lt_of_le (by decide) width)
    obtain ⟨second, after, rfl⟩ := List.exists_cons_of_length_pos (l := rest) (by
      rw [shape, List.length_cons] at width
      exact Nat.lt_of_succ_le (Nat.le_of_succ_le_succ width))
    rw [shape, matchesHere_is] at here
    refine ⟨name.take position, first, second, after, ?_, here⟩
    rw [← shape, List.take_append_drop]

theorem shown_injective {type : MsgType} {sender sender' text text' : Str}
    (same : shown type sender text = shown type sender' text') : text = text' := by
  unfold shown at same
  split at same
  · cases same
    rfl
  · cases same
    rfl

/-- **Round trip**: the line of a `MSG` or `ERR` is read back as it was meant exactly when the display
name contains no `is`. -/
theorem roundTrips_iff {name text : Str} {built type : MsgType} (how : Built text built type)
    (named : Field .dname name) (valid : Field .msg text) :
    RoundTrips built type name text ↔ ¬ ContainsIs name := by
  rw [containsIs_iff, not_not]
  constructor
  · rintro ⟨_, reads⟩
    obtain ⟨m, decode, _⟩ := reads (Keywords.upper type)
    rw [(Keywords.upper type).decoded_line how.chat text named] at decode
    cases found : searchIs name with
    | none => rfl
    | some position =>
      obtain ⟨more, cut, longer⟩ := (Keywords.upper type).extract_of_some text found
      simp only [chatBranch, cut, Except.map, Except.ok.injEq, Prod.mk.injEq, List.cons.injEq,
        and_true] at decode
      have same : more = text := shown_injective decode.2
      rw [same] at longer
      exact absurd longer (Nat.lt_irrefl _)
  · intro quiet
    refine ⟨how.encoded_eq named valid, fun k => ?_⟩
    rw [k.decoded_line how.chat text named]
    simp only [chatBranch, k.extract_of_none text quiet]
    exact ⟨_, rfl, rfl⟩

/-- A name without an `is`. -/
theorem roundTrips_user : RoundTrips .userCmd .msg (bytes "user") (bytes "this is it") := by
  refine (roundTrips_iff (.typed ?_) ⟨?_, ?_⟩ ⟨?_, ?_⟩).mpr ?_
  · decide +kernel
  · decide
  · decide
  · decide
  · decide
  · rw [containsIs_iff]
    decide

/-- **The name `chris`**: the receiver displays `IS hello` for `hello`. -/
theorem not_roundTrips_chris :
    Built (bytes "hello") .userCmd .msg ∧ Field .dname (bytes "chris") ∧ Field .msg (bytes "hello") ∧
      (decoded ((Keywords.upper .msg).line (bytes "chris") (bytes "hello"))).map Prod.snd =
        .ok [.msg (bytes "chris") (bytes "IS hello")] ∧
      ¬ RoundTrips .userCmd .msg (bytes "chris") (bytes "hello") := by
  have displayed : (decoded ((Keywords.upper .msg).line (bytes "chris") (bytes "hello"))).map Prod.snd =
      .ok [.msg (bytes "chris") (bytes "IS hello")] := by
    decide +kernel
  refine ⟨.typed (by decide +kernel), ⟨by decide, by decide⟩, ⟨by decide, by decide⟩, displayed, ?_⟩
  rintro ⟨_, reads⟩
  obtain ⟨m, decode, _⟩ := reads (Keywords.upper .msg)
  rw [decode] at displayed
  have same : [shown .msg (bytes "chris") (bytes "hello")] =
      [Output.msg (bytes "chris") (bytes "IS hello")] := Except.ok.inj displayed
  exact absurd same (by decide)

end Ipk24Chat
