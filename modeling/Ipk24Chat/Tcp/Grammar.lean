/-
**The lines of the server, and those the decoder accepts.**

`Grammar type line` is the format of a line of a type, with keywords in any letter case, which the
encoder writes as well. The decoder does not read it: `Accepts` is what it looks at (the number of
words, the first one or two, an `is` anywhere) and `Tidy` what it takes for granted.

* `decoded_accepts`: a line that ends in its only CRLF is accepted or becomes `INVALID_MSG`;
* `grammar_iff`: an accepted line has the format exactly when it is tidy;
* `sound_iff`: so the decoder is right about exactly the lines that are tidy when they are accepted.
-/

import Ipk24Chat.Tcp.Framing
import Ipk24Chat.Tcp.RoundTrip

namespace Ipk24Chat

open Scan TCPClient

/-! ### The formats -/

/-- A word in any letter case. -/
def Spells (word : Str) (keyword : Str) : Prop := word.map toupper = keyword

instance (word keyword : Str) : Decidable (Spells word keyword) :=
  inferInstanceAs (Decidable (_ = _))

/-- One token. -/
def Token (word : Str) : Prop := word ≠ [] ∧ ∀ c ∈ word, isspace c = false

/-- `REPLY result IS text`. -/
def ReplyFormat (result line : Str) : Prop :=
  ∃ r o i text, Spells r (bytes "REPLY") ∧ Spells o result ∧ Spells i (bytes "IS") ∧ text ≠ [] ∧
    line = r ++ 32 :: (o ++ 32 :: (i ++ 32 :: (text ++ crlf)))

/-- `MSG FROM name IS text` or `ERR FROM name IS text`. -/
def ChatFormat (type : MsgType) (line : Str) : Prop :=
  ∃ (k : Keywords type) (name text : Str), Token name ∧ text ≠ [] ∧ line = k.line name text

/-- **The format of a line.** -/
def Grammar : MsgType → Str → Prop
  | .bye, line => ∃ b, Spells b (bytes "BYE") ∧ line = b ++ crlf
  | .replyOk, line => ReplyFormat (bytes "OK") line
  | .replyNok, line => ReplyFormat (bytes "NOK") line
  | .msg, line => ChatFormat .msg line
  | .err, line => ChatFormat .err line
  | _, _ => False

/-- The decoder gives a line the type of its format, or `INVALID_MSG`. -/
def Sound (line : Str) : Prop :=
  ∃ m lines, decoded line = .ok (m, lines) ∧ (m.type = .invalidMsg ∨ Grammar m.type line)

/-! ### What the decoder looks at -/

/-- The word at a place of a line, empty when there are fewer. -/
def word (line : Str) (i : Nat) : Str := (words isspace line).getD i []

def wordCount (line : Str) : Nat := (words isspace line).length

/-- The first words, with one blank behind each. -/
def header (line : Str) (count : Nat) : Str :=
  ((words isspace line).take count).flatMap (· ++ [32])

/-- **What acceptance asks for.** -/
def Accepts (line : Str) : MsgType → Prop
  | .bye => wordCount line = 1 ∧ Spells (word line 0) (bytes "BYE")
  | .replyOk => 4 ≤ wordCount line ∧ searchIs line ≠ none ∧
      Spells (word line 0) (bytes "REPLY") ∧ Spells (word line 1) (bytes "OK")
  | .replyNok => 4 ≤ wordCount line ∧ searchIs line ≠ none ∧
      Spells (word line 0) (bytes "REPLY") ∧ Spells (word line 1) (bytes "NOK")
  | .msg => 4 ≤ wordCount line ∧ searchIs line ≠ none ∧ Spells (word line 0) (bytes "MSG")
  | .err => 4 ≤ wordCount line ∧ searchIs line ≠ none ∧ Spells (word line 0) (bytes "ERR")
  | _ => False

/-- **What acceptance takes for granted**: the line begins with the keywords, the missing ones are
there, and there is a text. -/
def Tidy (line : Str) : MsgType → Prop
  | .bye => line.length = 5
  | .replyOk | .replyNok => Spells (word line 2) (bytes "IS") ∧ header line 3 <+: line
  | .msg | .err => Spells (word line 1) (bytes "FROM") ∧ Spells (word line 3) (bytes "IS") ∧
      header line 4 <+: line ∧ (header line 4).length + 2 < line.length
  | _ => True

/-! ### The decoder -/

/-- A line that ends in its only CRLF ends behind every `is`. -/
theorem extract_framed {line : Str} (framed : Framed line) :
    (searchIs line = none ∧ extractMessage line = .ok none) ∨
      (searchIs line ≠ none ∧ ∃ text, extractMessage line = .ok (some text)) := by
  unfold extractMessage
  cases found : searchIs line with
  | none => exact Or.inl ⟨rfl, rfl⟩
  | some position =>
    refine Or.inr ⟨Option.some_ne_none position, ?_⟩
    have inside : position + 3 ≤ line.length := by
      by_contra beyond
      have bound : position + 2 ≤ line.length := search_bound (by decide) found
      obtain ⟨body, rfl⟩ := framed.ends
      have last : (body ++ crlf).drop position = [13, 10] := by
        have place : position = body.length := by
          rw [List.length_append] at bound beyond
          have two : crlf.length = 2 := rfl
          omega
        rw [place, List.drop_left]
        rfl
      have here := (search_spec found).1
      rw [last] at here
      exact absurd here (by decide)
    simp only [substr, if_pos inside]
    exact ⟨_, rfl⟩

/-- Acceptance of anything but `BYE` asks for four words and an `is`. -/
theorem Accepts.several {line : Str} {type : MsgType} (accepts : Accepts line type)
    (other : wordCount line ≠ 1) : 4 ≤ wordCount line ∧ searchIs line ≠ none := by
  cases type with
  | bye => exact absurd accepts.1 other
  | replyOk => exact ⟨accepts.1, accepts.2.1⟩
  | replyNok => exact ⟨accepts.1, accepts.2.1⟩
  | msg => exact ⟨accepts.1, accepts.2.1⟩
  | err => exact ⟨accepts.1, accepts.2.1⟩
  | _ => exact accepts.elim

/-- The decoder has accepted the line with its type, or called an unacceptable one invalid. -/
def Decided (line : Str) (result : Except OutOfRange (TCPMessage × List Output)) : Prop :=
  ∃ m lines, result = .ok (m, lines) ∧
    ((m.type ≠ .invalidMsg ∧ Accepts line m.type) ∨
      (m.type = .invalidMsg ∧ ∀ type, ¬ Accepts line type))

/-- The branches that cut out a text. -/
theorem Decided.of_extract {line : Str} (framed : Framed line) {type : MsgType}
    (known : type ≠ .invalidMsg) (several : 4 ≤ wordCount line)
    (accepts : searchIs line ≠ none → Accepts line type)
    {cut : Option Str → TCPMessage × List Output} (missing : (cut none).1.type = .invalidMsg)
    (given : ∀ text, (cut (some text)).1.type = type) :
    Decided line ((extractMessage line).map cut) := by
  rcases extract_framed framed with ⟨absent, extracted⟩ | ⟨present, text, extracted⟩
  · refine ⟨_, _, by rw [extracted]; rfl, Or.inr ⟨missing, fun type accepts => ?_⟩⟩
    exact (accepts.several (by omega)).2 absent
  · refine ⟨_, _, by rw [extracted]; rfl, Or.inl ?_⟩
    rw [given]
    exact ⟨known, accepts present⟩

/-- **A line is accepted with its type, or it is invalid.** -/
theorem decoded_accepts {line : Str} (framed : Framed line) : Decided line (decoded line) := by
  unfold decoded TCPMessage.processInboundMsg
  simp only [NetworkMessage.new, List.take_length, if_true]
  by_cases empty : (words isspace line).length = 0
  · rw [if_pos empty]
    refine ⟨_, _, rfl, Or.inr ⟨rfl, fun type accepts => ?_⟩⟩
    have := (accepts.several (show wordCount line ≠ 1 by unfold wordCount; omega)).1
    unfold wordCount at this
    omega
  rw [if_neg empty]
  by_cases bye : (words isspace line).length = 1 ∧
      ((words isspace line).getD 0 []).map toupper = bytes "BYE"
  · rw [if_pos bye]
    exact ⟨_, _, rfl, Or.inl ⟨MsgType.noConfusion, bye⟩⟩
  rw [if_neg bye]
  by_cases ok : (words isspace line).length ≥ 4 ∧
      ((words isspace line).getD 0 []).map toupper = bytes "REPLY" ∧
      ((words isspace line).getD 1 []).map toupper = bytes "OK"
  · rw [if_pos ok]
    exact .of_extract framed (show MsgType.replyOk ≠ .invalidMsg by decide) ok.1
      (fun present => ⟨ok.1, present, ok.2⟩) rfl fun _ => rfl
  rw [if_neg ok]
  by_cases nok : (words isspace line).length ≥ 4 ∧
      ((words isspace line).getD 0 []).map toupper = bytes "REPLY" ∧
      ((words isspace line).getD 1 []).map toupper = bytes "NOK"
  · rw [if_pos nok]
    exact .of_extract framed (show MsgType.replyNok ≠ .invalidMsg by decide) nok.1
      (fun present => ⟨nok.1, present, nok.2⟩) rfl fun _ => rfl
  rw [if_neg nok]
  by_cases err : (words isspace line).length ≥ 4 ∧
      ((words isspace line).getD 0 []).map toupper = bytes "ERR"
  · rw [if_pos err]
    exact .of_extract framed (show MsgType.err ≠ .invalidMsg by decide) err.1
      (fun present => ⟨err.1, present, err.2⟩) rfl fun _ => rfl
  rw [if_neg err]
  by_cases msg : (words isspace line).length ≥ 4 ∧
      ((words isspace line).getD 0 []).map toupper = bytes "MSG"
  · rw [if_pos msg]
    exact .of_extract framed (show MsgType.msg ≠ .invalidMsg by decide) msg.1
      (fun present => ⟨msg.1, present, msg.2⟩) rfl fun _ => rfl
  rw [if_neg msg]
  refine ⟨_, _, rfl, Or.inr ⟨rfl, fun type accepts => ?_⟩⟩
  cases type with
  | bye => exact bye accepts
  | replyOk => exact ok ⟨accepts.1, accepts.2.2⟩
  | replyNok => exact nok ⟨accepts.1, accepts.2.2⟩
  | msg => exact msg ⟨accepts.1, accepts.2.2⟩
  | err => exact err ⟨accepts.1, accepts.2.2⟩
  | _ => exact accepts

/-! ### Tidy lines -/

/-- Words that a blank follows each are the first words of the line. -/
theorem words_header {pieces : List Str} (tokens : ∀ w ∈ pieces, Token w) (after : Str) :
    words isspace (pieces.flatMap (· ++ [32]) ++ after) = pieces ++ words isspace after :=
  words_flatMap_append (by decide) tokens after

/-- They are its header, too. -/
theorem header_of_tokens {pieces : List Str} (tokens : ∀ w ∈ pieces, Token w) (after : Str) :
    header (pieces.flatMap (· ++ [32]) ++ after) pieces.length = pieces.flatMap (· ++ [32]) := by
  unfold header
  rw [words_header tokens, List.take_left' rfl]

theorem token_of_words {line w : Str} (member : w ∈ words isspace line) : Token w :=
  ⟨(mem_words member).1, fun c inside => ((mem_words member).2 c inside).1⟩

/-- A spelling of a keyword is a token. -/
theorem Spells.token {w keyword : Str} (spelled : Spells w keyword)
    (free : ∀ c ∈ keyword, isspace c = false) (nonempty : keyword ≠ []) : Token w :=
  ⟨ne_nil_of_upper spelled nonempty, free_of_upper spelled free⟩

/-- Behind a header there is a text, and then the CRLF. -/
theorem text_of_header {front line : Str} (framed : Framed line) (starts : front ++ [32] <+: line) :
    ∃ text, line = front ++ [32] ++ (text ++ crlf) := by
  obtain ⟨body, rfl⟩ := framed.ends
  have layout : body ++ crlf = (body ++ [13]) ++ [10] := by simp [crlf]
  have other : ∀ (before : Str) (c : UInt8), c ≠ 32 → front ++ [32] ≠ before ++ [c] := by
    intro before c different same
    have last := congrArg List.getLast? same
    rw [List.getLast?_concat, List.getLast?_concat] at last
    exact different (Option.some.inj last).symm
  rw [layout, List.prefix_concat_iff, List.prefix_concat_iff] at starts
  rcases starts with same | same | ⟨text, rfl⟩
  · exact absurd same (other _ 10 (by decide))
  · exact absurd same (other _ 13 (by decide))
  · exact ⟨text, by simp⟩

/-- The words behind a header. -/
theorem drop_words {line rest : Str} {count : Nat} (split : line = header line count ++ rest) :
    (words isspace line).drop count = words isspace rest := by
  have each : ∀ w ∈ (words isspace line).take count, Token w := fun w member =>
    token_of_words (List.mem_of_mem_take member)
  have all := words_header each rest
  rw [show ((words isspace line).take count).flatMap (· ++ [32]) ++ rest = line from split.symm]
    at all
  exact List.append_cancel_left ((List.take_append_drop count _).trans all)

theorem four_words {line : Str} (several : 4 ≤ wordCount line) :
    ∃ a b c d more, words isspace line = a :: b :: c :: d :: more := by
  unfold wordCount at several
  rcases shape : words isspace line with _ | ⟨a, _ | ⟨b, _ | ⟨c, _ | ⟨d, more⟩⟩⟩⟩
  · simp [shape] at several
  · simp [shape] at several
  · simp [shape] at several
  · simp [shape] at several
  · exact ⟨a, b, c, d, more, rfl⟩

theorem words_crlf : words isspace crlf = [] := by decide +kernel

/-- **The format of a REPLY**, for a line that is accepted as one. -/
theorem replyFormat_iff {line result : Str} (framed : Framed line)
    (free : ∀ c ∈ result, isspace c = false) (nonempty : result ≠ []) (several : 4 ≤ wordCount line)
    (label : Spells (word line 0) (bytes "REPLY")) (second : Spells (word line 1) result) :
    ReplyFormat result line ↔ Spells (word line 2) (bytes "IS") ∧ header line 3 <+: line := by
  constructor
  · rintro ⟨r, o, i, text, reply, spelled, link, _, rfl⟩
    have tokens : ∀ w ∈ [r, o, i], Token w := by
      simp only [List.forall_mem_cons, List.not_mem_nil, false_imp_iff, implies_true, and_true]
      exact ⟨reply.token (by decide +kernel) (by decide), spelled.token free nonempty,
        link.token (by decide +kernel) (by decide)⟩
    have layout : r ++ 32 :: (o ++ 32 :: (i ++ 32 :: (text ++ crlf))) =
        [r, o, i].flatMap (· ++ [32]) ++ (text ++ crlf) := by
      simp
    rw [layout]
    refine ⟨?_, ?_⟩
    · unfold word
      rw [words_header tokens]
      exact link
    · rw [show header _ 3 = _ from header_of_tokens tokens (text ++ crlf)]
      exact List.prefix_append _ _
  · rintro ⟨link, starts⟩
    obtain ⟨a, b, c, d, more, shape⟩ := four_words several
    have front : header line 3 = a ++ 32 :: (b ++ 32 :: c) ++ [32] := by
      simp [header, shape]
    rw [front] at starts
    obtain ⟨text, split⟩ := text_of_header framed starts
    have behind := drop_words (split.trans (by rw [front]))
    unfold word at label second link
    rw [shape] at label second link behind
    refine ⟨a, b, c, text, label, second, link, ?_, ?_⟩
    · rintro rfl
      rw [List.nil_append, words_crlf] at behind
      cases behind
    · rw [split]
      simp

/-- **The format of a MSG or an ERR**, for a line that is accepted as one. -/
theorem chatFormat_iff {line : Str} {type : MsgType} (framed : Framed line)
    (several : 4 ≤ wordCount line) (label : Spells (word line 0) (keyword type)) :
    ChatFormat type line ↔ Spells (word line 1) (bytes "FROM") ∧ Spells (word line 3) (bytes "IS") ∧
      header line 4 <+: line ∧ (header line 4).length + 2 < line.length := by
  constructor
  · rintro ⟨k, name, text, named, nonempty, rfl⟩
    have tokens : ∀ w ∈ [k.label, k.source, name, k.link], Token w := by
      simp only [List.forall_mem_cons, List.not_mem_nil, false_imp_iff, implies_true, and_true]
      refine ⟨Spells.token k.label_upper ?_ ?_, Spells.token k.source_upper (by decide +kernel)
        (by decide), named, Spells.token k.link_upper (by decide +kernel) (by decide)⟩
      · cases type <;> decide +kernel
      · cases type <;> decide
    have layout : k.line name text =
        [k.label, k.source, name, k.link].flatMap (· ++ [32]) ++ (text ++ crlf) := by
      simp [Keywords.line, crlf]
    have front : header (k.line name text) 4 =
        [k.label, k.source, name, k.link].flatMap (· ++ [32]) := by
      rw [layout]
      exact header_of_tokens tokens (text ++ crlf)
    have split : words isspace (k.line name text) =
        [k.label, k.source, name, k.link] ++ words isspace (text ++ crlf) := by
      rw [layout]
      exact words_header tokens (text ++ crlf)
    refine ⟨?_, ?_, ?_, ?_⟩
    · unfold word
      rw [split]
      exact k.source_upper
    · unfold word
      rw [split]
      exact k.link_upper
    · rw [front, layout]
      exact List.prefix_append _ _
    · have some := List.length_pos_of_ne_nil nonempty
      rw [front, layout, List.length_append, List.length_append]
      show _ + 2 < _ + (_ + 2)
      omega
  · rintro ⟨source, link, starts, longer⟩
    obtain ⟨a, b, c, d, more, shape⟩ := four_words several
    have front : header line 4 = a ++ 32 :: (b ++ 32 :: (c ++ 32 :: d)) ++ [32] := by
      simp [header, shape]
    rw [front] at starts longer
    obtain ⟨text, split⟩ := text_of_header framed starts
    have inside : c ∈ words isspace line := by simp [shape]
    have named : Token c := token_of_words inside
    unfold word at label source link
    rw [shape] at label source link
    refine ⟨⟨a, b, d, label, source, link⟩, c, text, named, ?_, ?_⟩
    · rintro rfl
      have length := congrArg List.length split
      rw [List.length_append] at length
      have two : (([] : Str) ++ crlf).length = 2 := rfl
      omega
    · rw [split]
      simp [Keywords.line, crlf]

/-- **The format of BYE**, for a line that is accepted as one. -/
theorem byeFormat_iff {line : Str} (framed : Framed line) (single : wordCount line = 1)
    (label : Spells (word line 0) (bytes "BYE")) :
    Grammar .bye line ↔ line.length = 5 := by
  constructor
  · rintro ⟨b, spelled, rfl⟩
    have three : b.length = 3 := by
      rw [← List.length_map (f := toupper), show b.map toupper = bytes "BYE" from spelled]
      rfl
    rw [List.length_append, three]
    rfl
  · intro five
    obtain ⟨w, shape⟩ := List.length_eq_one_iff.mp single
    unfold word at label
    rw [shape] at label
    obtain ⟨body, rfl⟩ := framed.ends
    refine ⟨w, label, ?_⟩
    have letters : w = body.filter fun c => !isspace c := by
      have flat : (words isspace (body ++ crlf)).flatten =
          (body ++ crlf).filter fun c => !isspace c := flatten_words _
      rw [shape, List.filter_append] at flat
      have blank : (crlf.filter fun c => !isspace c) = [] := by decide
      rw [blank, List.append_nil] at flat
      simpa using flat
    have three : w.length = 3 := by
      rw [← List.length_map (f := toupper), show w.map toupper = bytes "BYE" from label]
      rfl
    have whole : body.filter (fun c => !isspace c) = body := by
      apply List.filter_sublist.eq_of_length
      rw [← letters, three]
      rw [List.length_append] at five
      have two : crlf.length = 2 := rfl
      omega
    rw [letters, whole]

/-- **An accepted line has the format of its type exactly when it is tidy.** -/
theorem grammar_iff {line : Str} {type : MsgType} (framed : Framed line)
    (accepts : Accepts line type) : Grammar type line ↔ Tidy line type := by
  cases type with
  | bye => exact byeFormat_iff framed accepts.1 accepts.2
  | replyOk =>
    exact replyFormat_iff framed (by decide +kernel) (by decide) accepts.1 accepts.2.2.1
      accepts.2.2.2
  | replyNok =>
    exact replyFormat_iff framed (by decide +kernel) (by decide) accepts.1 accepts.2.2.1
      accepts.2.2.2
  | msg => exact chatFormat_iff framed accepts.1 accepts.2.2
  | err => exact chatFormat_iff framed accepts.1 accepts.2.2
  | _ => exact accepts.elim

/-- The first keyword of a type. -/
def firstWord : MsgType → Str
  | .bye => bytes "BYE"
  | .replyOk | .replyNok => bytes "REPLY"
  | .err => bytes "ERR"
  | _ => bytes "MSG"

theorem Accepts.first {line : Str} {type : MsgType} (accepts : Accepts line type) :
    Spells (word line 0) (firstWord type) := by
  cases type with
  | bye => exact accepts.2
  | replyOk => exact accepts.2.2.1
  | replyNok => exact accepts.2.2.1
  | msg => exact accepts.2.2
  | err => exact accepts.2.2
  | _ => exact accepts.elim

/-- A line is accepted with one type only. -/
theorem Accepts.unique {line : Str} {type type' : MsgType} (accepts : Accepts line type)
    (accepts' : Accepts line type') : type = type' := by
  have same : firstWord type = firstWord type' := accepts.first.symm.trans accepts'.first
  cases type with
  | bye => cases type' with
    | bye => rfl
    | _ => first | exact accepts'.elim | exact absurd same (by decide)
  | replyOk => cases type' with
    | replyOk => rfl
    | replyNok => exact absurd (accepts.2.2.2.symm.trans accepts'.2.2.2) (by decide)
    | _ => first | exact accepts'.elim | exact absurd same (by decide)
  | replyNok => cases type' with
    | replyNok => rfl
    | replyOk => exact absurd (accepts.2.2.2.symm.trans accepts'.2.2.2) (by decide)
    | _ => first | exact accepts'.elim | exact absurd same (by decide)
  | msg => cases type' with
    | msg => rfl
    | _ => first | exact accepts'.elim | exact absurd same (by decide)
  | err => cases type' with
    | err => rfl
    | _ => first | exact accepts'.elim | exact absurd same (by decide)
  | _ => exact accepts.elim

/-! ### Soundness -/

/-- **Soundness of the decoder**: a line that ends in its only CRLF gets the type of its format, or
`INVALID_MSG`, exactly when it is tidy in case it is accepted. -/
theorem sound_iff {line : Str} (framed : Framed line) :
    Sound line ↔ ∀ type, Accepts line type → Tidy line type := by
  obtain ⟨m, lines, decode, accepted⟩ := decoded_accepts framed
  constructor
  · rintro ⟨m', lines', decode', right⟩ type accepts
    rw [decode] at decode'
    cases decode'
    rcases accepted with ⟨known, own⟩ | ⟨_, never⟩
    · obtain rfl := accepts.unique own
      exact (grammar_iff framed own).mp (right.resolve_left known)
    · exact absurd accepts (never type)
  · intro tidy
    refine ⟨m, lines, decode, ?_⟩
    rcases accepted with ⟨_, own⟩ | ⟨invalid, _⟩
    · exact Or.inr ((grammar_iff framed own).mpr (tidy m.type own))
    · exact Or.inl invalid

/-- A REPLY whose keywords are in mixed case. -/
theorem sound_reply : Sound (bytes "REPLy OK is v poradku" ++ crlf) := by
  have framed : Framed (bytes "REPLy OK is v poradku" ++ crlf) :=
    ⟨by decide +kernel, by decide +kernel, by decide +kernel⟩
  have own : Accepts (bytes "REPLy OK is v poradku" ++ crlf) .replyOk :=
    ⟨by decide +kernel, by decide +kernel, by decide +kernel, by decide +kernel⟩
  refine (sound_iff framed).mpr fun type accepts => ?_
  obtain rfl := accepts.unique own
  exact ⟨by decide +kernel, by decide +kernel⟩

/-- A `MSG` without its keyword `IS`. -/
def untidy : Str := bytes "MSG FROM Server: this is it" ++ crlf

/-- **A line that is no `MSG`** is displayed as one: its fourth word is `this`, and the text is cut
behind the `is` in it. -/
theorem not_sound_untidy : Framed untidy ∧
    (decoded untidy).map (fun r => (r.1.type, r.2)) =
      .ok (.msg, [.msg (bytes "Server:") (bytes "is it")]) ∧ ¬ Sound untidy := by
  have framed : Framed untidy := ⟨by decide +kernel, by decide +kernel, by decide +kernel⟩
  have displayed : (decoded untidy).map (fun r => (r.1.type, r.2)) =
      .ok (.msg, [.msg (bytes "Server:") (bytes "is it")]) := by
    decide +kernel
  have own : Accepts untidy .msg := ⟨by decide +kernel, by decide +kernel, by decide +kernel⟩
  refine ⟨framed, displayed, ?_⟩
  rintro ⟨m, lines, decode, right⟩
  rw [decode] at displayed
  have type : m.type = .msg := congrArg Prod.fst (Except.ok.inj displayed)
  rw [type] at right
  have tidy := (grammar_iff framed own).mp (right.resolve_left MsgType.noConfusion)
  exact absurd tidy.2.1 (by decide +kernel)

end Ipk24Chat
