/-
**The text of a REPLY.**

A line `REPLY result IS text` is to be read back with its text, whatever is in it. The text is cut out
behind the keyword `IS`, the first `is` of the line; but the branch is only reached when the line has
four words, so that a text of blanks makes the line invalid.

* `ReplyKeywords.extract_line`: the cut, for every text;
* `ReplyKeywords.words_line`: the words, of which the text has one unless it is blank;
* `reply_iff`: a REPLY is read back exactly when its text is not blank.
-/

import Ipk24Chat.Tcp.Overrun

namespace Ipk24Chat

open Scan TCPClient TCPMessage

/-! ### Lines -/

/-- The keywords of a REPLY, in any letter case. -/
structure ReplyKeywords (ok : Bool) where
  label : Str
  result : Str
  link : Str
  label_upper : label.map toupper = bytes "REPLY"
  result_upper : result.map toupper = if ok then bytes "OK" else bytes "NOK"
  link_upper : link.map toupper = bytes "IS"

/-- `REPLY result IS text` and the line ending. -/
def ReplyKeywords.line {ok : Bool} (k : ReplyKeywords ok) (text : Str) : Str :=
  k.label ++ 32 :: (k.result ++ 32 :: (k.link ++ 32 :: (text ++ crlf)))

/-- The label the client puts before the text. -/
def replyLabel (ok : Bool) : Str := if ok then bytes "Success: " else bytes "Failure: "

/-- **The line is read back**: a REPLY with its result and its text. -/
def ReplyRead (ok : Bool) (line text : Str) : Prop :=
  ∃ m, decoded line = .ok (m, []) ∧ m.type = (if ok then .replyOk else .replyNok) ∧
    m.message = replyLabel ok ++ text

/-! ### The cut -/

variable {ok : Bool}

theorem ReplyKeywords.link_length (k : ReplyKeywords ok) : k.link.length = 2 := by
  rw [← List.length_map (f := toupper), k.link_upper]
  rfl

/-- **The first `is` of the line** is the keyword. -/
theorem ReplyKeywords.searchIs_line (k : ReplyKeywords ok) (text : Str) :
    searchIs (k.line text) = some (k.label.length + 1 + (k.result.length + 1 + 0)) := by
  have label : searchIs k.label = none := searchIs_of_upper k.label_upper
  have result : searchIs k.result = none := by
    rw [searchIs_of_upper k.result_upper]
    cases ok <;> rfl
  have link : searchIs k.link = some 0 := searchIs_of_upper k.link_upper
  unfold ReplyKeywords.line
  rw [searchIs_append, label, Option.none_or, searchIs_append, result, Option.none_or,
    searchIs_append, link]
  rfl

/-- **The text of the line** is what is cut out. -/
theorem ReplyKeywords.extract_line (k : ReplyKeywords ok) (text : Str) :
    extractMessage (k.line text) = .ok (some text) := by
  have layout : k.line text =
      (k.label ++ 32 :: (k.result ++ 32 :: (k.link ++ [32]))) ++ (text ++ crlf) := by
    simp [ReplyKeywords.line]
  refine extract_of_layout (k.searchIs_line text) layout ?_
  simp only [List.length_append, List.length_cons, List.length_nil, k.link_length]
  omega

/-! ### The words -/

/-- The words of the line are its keywords and those of the text. -/
theorem ReplyKeywords.words_line (k : ReplyKeywords ok) (text : Str) :
    words isspace (k.line text) = k.label :: k.result :: k.link :: words isspace (text ++ crlf) := by
  have blank : isspace 32 = true := by decide
  have label : Token k.label := Spells.token k.label_upper (by decide +kernel) (by decide)
  have result : Token k.result := by
    refine Spells.token k.result_upper ?_ ?_
    · cases ok <;> decide +kernel
    · cases ok <;> decide
  have link : Token k.link := Spells.token k.link_upper (by decide +kernel) (by decide)
  unfold ReplyKeywords.line
  rw [words_free_cons _ label.1 label.2 blank, words_free_cons _ result.1 result.2 blank,
    words_free_cons _ link.1 link.2 blank]

/-- A text that may be sent has a word unless it is blank. -/
theorem words_text_iff {text : Str} (valid : validateMsgParam text .msg = true) :
    words isspace (text ++ crlf) ≠ [] ↔ ∃ c ∈ text, c ≠ 32 := by
  simp only [validateMsgParam, Bool.and_eq_true, List.all_eq_true, Bool.or_eq_true,
    beq_iff_eq] at valid
  rw [ne_eq, words_eq_nil_iff]
  constructor
  · intro some
    by_contra none
    refine some fun c member => ?_
    rcases List.mem_append.mp member with inside | inside
    · have same : c = 32 := by
        by_contra other
        exact none ⟨c, inside, other⟩
      rw [same]
      decide
    · exact words_eq_nil_iff.mp words_crlf c inside
  · rintro ⟨c, member, other⟩ all
    have space := all c (List.mem_append_left _ member)
    rcases valid.2 c member with graph | blank
    · rw [isspace_of_isgraph graph] at space
      cases space
    · exact other blank

/-! ### The decoder -/

/-- A line of two or three words is invalid. -/
theorem decoded_few {line : Str} (few : wordCount line < 4) (several : 1 < wordCount line) :
    decoded line = .ok ((received line).invalid .unknownIncoming) := by
  unfold wordCount at few several
  unfold decoded processInboundMsg
  simp only [NetworkMessage.new, List.take_length, if_true]
  rw [if_neg (by omega), if_neg (by omega), if_neg (by omega), if_neg (by omega), if_neg (by omega),
    if_neg (by omega)]
  rfl

/-- A line of at least four words reaches the branch of its result. -/
theorem ReplyKeywords.decoded_line (k : ReplyKeywords ok) {text : Str}
    (worded : words isspace (text ++ crlf) ≠ []) : decoded (k.line text) =
      (received (k.line text)).replyBranch (k.line text) (if ok then .replyOk else .replyNok)
        (replyLabel ok) := by
  have some := List.length_pos_of_ne_nil worded
  have several : (words isspace (k.line text)).length ≥ 4 := by
    rw [k.words_line]
    simp only [List.length_cons]
    omega
  have first : ((words isspace (k.line text)).getD 0 []).map toupper = bytes "REPLY" := by
    rw [k.words_line]
    exact k.label_upper
  have second : ((words isspace (k.line text)).getD 1 []).map toupper =
      if ok then bytes "OK" else bytes "NOK" := by
    rw [k.words_line]
    exact k.result_upper
  unfold decoded processInboundMsg
  simp only [NetworkMessage.new, List.take_length, if_true, first, second]
  rw [if_neg (by omega), if_neg (by omega)]
  cases ok with
  | true =>
    rw [if_pos ⟨several, trivial, rfl⟩]
    rfl
  | false =>
    rw [if_neg (fun both => absurd both.2.2 (by decide)), if_pos ⟨several, trivial, rfl⟩]
    rfl

/-- **Which REPLY is read back**: every one whose text is not blank, and no other. -/
theorem reply_iff (k : ReplyKeywords ok) {text : Str} (field : Field .msg text) :
    ReplyRead ok (k.line text) text ↔ ∃ c ∈ text, c ≠ 32 := by
  rw [← words_text_iff field.2]
  constructor
  · rintro ⟨m, decode, type, _⟩ blank
    have count : wordCount (k.line text) = 3 := by
      unfold wordCount
      rw [k.words_line, blank]
      rfl
    rw [decoded_few (by omega) (by omega)] at decode
    cases decode
  · intro worded
    rw [ReplyRead, k.decoded_line worded, replyBranch, k.extract_line]
    exact ⟨_, rfl, rfl, rfl⟩

/-- A negative REPLY in small letters, with a text that contains `is`. -/
theorem reply_read : ReplyRead false (bytes "reply nok is  this is it " ++ crlf)
    (bytes " this is it ") := by
  let k : ReplyKeywords false := ⟨bytes "reply", bytes "nok", bytes "is", rfl, rfl, rfl⟩
  have field : Field .msg (bytes " this is it ") := ⟨by decide, by decide +kernel⟩
  exact (reply_iff k field).mpr ⟨chr 't', by decide +kernel, by decide⟩

/-- **A text of one blank** is refused: the REPLY to AUTH ends the session. -/
theorem reply_blank :
    (∃ k : ReplyKeywords true, k.line [32] = bytes "REPLY OK IS  " ++ crlf) ∧ Field .msg [32] ∧
    ¬ ReplyRead true (bytes "REPLY OK IS  " ++ crlf) [32] ∧
    (machine.reached booted (typed "/auth u s d" ++ served "REPLY OK IS  ")).control =
      .exited .failure := by
  refine ⟨⟨⟨bytes "REPLY", bytes "OK", bytes "IS", rfl, rfl, rfl⟩, rfl⟩, ⟨by decide, by decide⟩, ?_,
    by decide +kernel⟩
  rintro ⟨m, decode, _⟩
  rw [decoded_few (by decide +kernel) (by decide +kernel)] at decode
  cases decode

end Ipk24Chat
