/-
**Lines of the user: `validate_msg_param` and `check_user_message`.**

`checkUserMessage` is the fold of the source over the whitespace-separated fragments of the line. It
dispatches on the message type that it rewrites itself: the first fragment turns a `userCmd` into
the command it names, the later ones are checked as parameters of that command. The result is the
changed message, the fields collected (`parts`), the value returned (`valid`) and what was printed.

`command` says what a line asks for, by the shape of its fragments alone. `Checks` is what the fold
leaves behind for each command, and `checkUserMessage_checks` that it does; `Command.Describes` is the
part of it that a client looks at.
-/

import Ipk24Chat.Messages.Basic
import Ipk24Chat.Lib.Scan

namespace Ipk24Chat

open Scan

/-- The patterns `validate_msg_param` is called with. -/
inductive Pattern
  | id | secret | dname | msg
  deriving DecidableEq, Repr

def validateMsgParam (parameter : Str) : Pattern → Bool
  | .id => parameter.length ≤ 20 && parameter.all fun ch => isalnum ch || ch == chr '-'
  | .secret => parameter.length ≤ 128 && parameter.all fun ch => isalnum ch || ch == chr '-'
  | .dname => parameter.length ≤ 20 && parameter.all isgraph
  | .msg => parameter.length ≤ 1400 && parameter.all fun ch => isgraph ch || ch == chr ' '

/-- What `check_user_message` leaves behind. -/
structure Checked where
  msg : NetworkMessage
  parts : List Str
  valid : Bool
  printed : List Output
  deriving DecidableEq, Repr

/-- A fragment is refused: nothing is to be sent, and the text is printed. -/
def Checked.refuse (m : NetworkMessage) (parts : List Str) (n : Notice) : Checked :=
  ⟨{ m with readyToSend := false }, parts, false, [.notice n]⟩

/-- The loop over the fragments; `count` is their number in the whole line, `counter` the
`msg_part_counter` and `support` the `support_string`. -/
def checkFragments (count : Nat) : List Str → NetworkMessage → (counter : Nat) →
    (support : Str) → (parts : List Str) → Checked
  | [], m, _, _, parts => ⟨m, parts, true, []⟩
  | fragment :: rest, m, counter, support, parts =>
    match m.type with
    | .userCmd =>
      if fragment = bytes "/auth" then
        if count ≠ 4 then .refuse m parts .authUsage
        else checkFragments count rest { m with type := .auth } counter support parts
      else if fragment = bytes "/join" then
        if count ≠ 2 then .refuse m parts .joinUsage
        else checkFragments count rest { m with type := .join } counter support parts
      else if fragment = bytes "/rename" then
        if count ≠ 2 then .refuse m parts .renameUsage
        else checkFragments count rest { m with type := .rename } counter support parts
      else if fragment = bytes "/help" then
        ⟨{ m with type := .help, readyToSend := false }, parts, true, [.notice .helpText]⟩
      else if fragment.head? = some (chr '/') then .refuse m parts .wrongCommand
      -- `ready_to_send` is left as it was when the text is refused
      else if !validateMsgParam m.message .msg then
        ⟨{ m with type := .msg }, parts, false, [.notice .wrongFormat]⟩
      else checkFragments count rest { m with type := .msg } counter support parts
    | .auth =>
      if counter = 1 then
        if validateMsgParam fragment .id then
          checkFragments count rest m (counter + 1) support (parts ++ [fragment])
        else .refuse m parts .authUsage
      else if counter = 2 then
        if validateMsgParam fragment .secret then
          checkFragments count rest m (counter + 1) fragment parts
        else .refuse m parts .authUsage
      else
        if validateMsgParam fragment .dname then
          checkFragments count rest { m with displayName := fragment } counter support
            (parts ++ [fragment, support])
        else .refuse m parts .authUsage
    | .join =>
      if validateMsgParam fragment .id then
        checkFragments count rest m counter support (parts ++ [fragment])
      else .refuse m parts .joinUsage
    | .rename =>
      if validateMsgParam fragment .id then
        checkFragments count rest { m with readyToSend := false, displayName := fragment }
          counter support parts
      else .refuse m parts .renameUsage
    | .err =>
      if !validateMsgParam m.message .msg then .refuse m parts .wrongFormat
      else ⟨m, parts, false, []⟩
    | .bye => ⟨m, parts, true, []⟩
    | _ => checkFragments count rest m counter support parts

/-- The fragments `operator>>` reads from a line. -/
def fragments (line : Str) : List Str := words isspace line

def NetworkMessage.checkUserMessage (m : NetworkMessage) : Checked :=
  if m.type = .customErr then ⟨{ m with readyToSend := true }, [], true, []⟩
  else checkFragments (fragments m.message).length (fragments m.message)
    { m with readyToSend := true } 1 [] []

/-! ### Commands -/

/-- What a line of the user asks for. -/
inductive Command
  /-- A line of whitespace. -/
  | blank
  | auth (username secret displayName : Str)
  | join (channel : Str)
  | rename (displayName : Str)
  | help
  /-- A command that is refused with this text. -/
  | refused (n : Notice)
  /-- A text that is too long or not printable. -/
  | badText
  | text
  deriving DecidableEq, Repr

def authCommand : List Str → Command
  | [u, s, d] =>
    if validateMsgParam u .id ∧ validateMsgParam s .secret ∧ validateMsgParam d .dname then .auth u s d
    else .refused .authUsage
  | _ => .refused .authUsage

/-- A command with one parameter. -/
def oneParameter (make : Str → Command) (usage : Notice) : List Str → Command
  | [p] => if validateMsgParam p .id then make p else .refused usage
  | _ => .refused usage

def joinCommand : List Str → Command := oneParameter .join .joinUsage

def renameCommand : List Str → Command := oneParameter .rename .renameUsage

/-- The command of a line whose fragments are these. -/
def commandOf (line : Str) : List Str → Command
  | [] => .blank
  | fragment :: rest =>
    if fragment = bytes "/auth" then authCommand rest
    else if fragment = bytes "/join" then joinCommand rest
    else if fragment = bytes "/rename" then renameCommand rest
    else if fragment = bytes "/help" then .help
    else if fragment.head? = some (chr '/') then .refused .wrongCommand
    else if validateMsgParam line .msg then .text
    else .badText

def command (line : Str) : Command := commandOf line (fragments line)

/-- **What the validation leaves behind**, command by command. -/
inductive Checks (m : NetworkMessage) : Command → Checked → Prop
  | blank : Checks m .blank ⟨{ m with readyToSend := true }, [], true, []⟩
  | auth (u s d : Str) : Checks m (.auth u s d)
      ⟨{ m with type := .auth, readyToSend := true, displayName := d }, [u, d, s], true, []⟩
  | join (c : Str) : Checks m (.join c) ⟨{ m with type := .join, readyToSend := true }, [c], true, []⟩
  | rename (d : Str) : Checks m (.rename d)
      ⟨{ m with type := .rename, readyToSend := false, displayName := d }, [], true, []⟩
  | help : Checks m .help
      ⟨{ m with type := .help, readyToSend := false }, [], true, [.notice .helpText]⟩
  | refused (type : MsgType) (parts : List Str) (n : Notice) :
      Checks m (.refused n) (.refuse { m with type := type } parts n)
  | badText : Checks m .badText
      ⟨{ m with type := .msg, readyToSend := true }, [], false, [.notice .wrongFormat]⟩
  | text : Checks m .text ⟨{ m with type := .msg, readyToSend := true }, [], true, []⟩

/-- A text is not looked at further. -/
theorem checkFragments_msg (count : Nat) (rest : List Str) {m : NetworkMessage}
    (text : m.type = .msg) (counter : Nat) (support : Str) (parts : List Str) :
    checkFragments count rest m counter support parts = ⟨m, parts, true, []⟩ := by
  induction rest with
  | nil => rfl
  | cons fragment rest ih =>
    unfold checkFragments
    rw [text]
    exact ih

theorem authCommand_of_length {rest : List Str} (other : rest.length ≠ 3) :
    authCommand rest = .refused .authUsage := by
  unfold authCommand
  split
  · exact absurd rfl other
  · rfl

theorem oneParameter_of_length {make : Str → Command} {usage : Notice} {rest : List Str}
    (other : rest.length ≠ 1) : oneParameter make usage rest = .refused usage := by
  unfold oneParameter
  split
  · exact absurd rfl other
  · rfl

/-- The parameters of `/auth`. -/
theorem checkFragments_auth {count : Nat} {rest : List Str} (m : NetworkMessage)
    (counted : count = rest.length + 1) :
    Checks m (authCommand rest) (if count ≠ 4 then .refuse { m with readyToSend := true } [] .authUsage
      else checkFragments count rest { m with type := .auth, readyToSend := true } 1 [] []) := by
  by_cases four : count = 4
  · rw [if_neg (not_not.mpr four)]
    obtain ⟨u, s, d, rfl⟩ := List.length_eq_three.mp (show rest.length = 3 by omega)
    unfold authCommand
    by_cases user : validateMsgParam u .id = true
    · by_cases secret : validateMsgParam s .secret = true
      · by_cases name : validateMsgParam d .dname = true
        · simp only [checkFragments, user, secret, name, if_true, and_self]
          exact .auth u s d
        · simp only [checkFragments, user, secret, name, if_true]
          exact .refused .auth [u] .authUsage
      · simp only [checkFragments, user, secret, if_true]
        exact .refused .auth [u] .authUsage
    · simp only [checkFragments, user, if_true]
      exact .refused .auth [] .authUsage
  · rw [if_pos four, authCommand_of_length (by omega)]
    exact .refused m.type [] .authUsage

/-- **A command with one parameter**, from what the loop does with the parameter alone. -/
theorem checkFragments_oneParameter {count : Nat} {rest : List Str} (m : NetworkMessage)
    (counted : count = rest.length + 1) {type : MsgType} {make : Str → Command} {usage : Notice}
    (taken : ∀ p, validateMsgParam p .id = true →
      Checks m (make p) (checkFragments 2 [p] { m with type := type, readyToSend := true } 1 [] []))
    (refused : ∀ p, ¬ validateMsgParam p .id = true →
      checkFragments 2 [p] { m with type := type, readyToSend := true } 1 [] [] =
        .refuse { m with type := type, readyToSend := true } [] usage) :
    Checks m (oneParameter make usage rest)
      (if count ≠ 2 then .refuse { m with readyToSend := true } [] usage
      else checkFragments count rest { m with type := type, readyToSend := true } 1 [] []) := by
  by_cases two : count = 2
  · rw [if_neg (not_not.mpr two)]
    obtain ⟨p, rfl⟩ := List.length_eq_one_iff.mp (show rest.length = 1 by omega)
    rw [two, oneParameter]
    by_cases valid : validateMsgParam p .id = true
    · rw [if_pos valid]
      exact taken p valid
    · rw [if_neg valid, refused p valid]
      exact .refused type [] usage
  · rw [if_pos two, oneParameter_of_length (by omega)]
    exact .refused m.type [] usage

/-- The parameter of `/join`. -/
theorem checkFragments_join {count : Nat} {rest : List Str} (m : NetworkMessage)
    (counted : count = rest.length + 1) :
    Checks m (joinCommand rest) (if count ≠ 2 then .refuse { m with readyToSend := true } [] .joinUsage
      else checkFragments count rest { m with type := .join, readyToSend := true } 1 [] []) := by
  refine checkFragments_oneParameter m counted (fun c channel => ?_) fun c channel => ?_
  · simp only [checkFragments, channel, if_true]
    exact .join c
  · simp only [checkFragments, channel]
    rfl

/-- The parameter of `/rename`. -/
theorem checkFragments_rename {count : Nat} {rest : List Str} (m : NetworkMessage)
    (counted : count = rest.length + 1) :
    Checks m (renameCommand rest)
      (if count ≠ 2 then .refuse { m with readyToSend := true } [] .renameUsage
      else checkFragments count rest { m with type := .rename, readyToSend := true } 1 [] []) := by
  refine checkFragments_oneParameter m counted (fun d name => ?_) fun d name => ?_
  · simp only [checkFragments, name, if_true]
    exact .rename d
  · simp only [checkFragments, name]
    rfl

/-- **`check_user_message` on a line**, for every line. -/
theorem checkUserMessage_checks {m : NetworkMessage} (user : m.type = .userCmd) :
    Checks m (command m.message) m.checkUserMessage := by
  obtain ⟨type, ready, name, message, buffer⟩ := m
  obtain rfl : type = .userCmd := user
  unfold NetworkMessage.checkUserMessage command
  rw [if_neg (by simp)]
  cases shape : fragments message with
  | nil => exact .blank
  | cons fragment rest =>
    unfold commandOf checkFragments
    by_cases auth : fragment = bytes "/auth"
    · simp only [if_pos auth]
      exact checkFragments_auth ⟨.userCmd, ready, name, message, buffer⟩ rfl
    by_cases join : fragment = bytes "/join"
    · simp only [if_neg auth, if_pos join]
      exact checkFragments_join ⟨.userCmd, ready, name, message, buffer⟩ rfl
    by_cases rename : fragment = bytes "/rename"
    · simp only [if_neg auth, if_neg join, if_pos rename]
      exact checkFragments_rename ⟨.userCmd, ready, name, message, buffer⟩ rfl
    by_cases help : fragment = bytes "/help"
    · simp only [if_neg auth, if_neg join, if_neg rename, if_pos help]
      exact .help
    by_cases slash : fragment.head? = some (chr '/')
    · simp only [if_neg auth, if_neg join, if_neg rename, if_neg help, if_pos slash]
      exact .refused .userCmd [] .wrongCommand
    by_cases valid : validateMsgParam message .msg = true
    · simp only [if_neg auth, if_neg join, if_neg rename, if_neg help, if_neg slash, valid,
        Bool.not_true, Bool.false_eq_true, if_false, if_true]
      rw [checkFragments_msg _ _ rfl]
      exact .text
    · simp only [if_neg auth, if_neg join, if_neg rename, if_neg help, if_neg slash, valid,
        Bool.not_false, if_true, Bool.false_eq_true, if_false]
      exact .badText

/-! ### The fields of a command -/

/-- A nonempty parameter that its pattern accepts. -/
def Field (pattern : Pattern) (parameter : Str) : Prop :=
  parameter ≠ [] ∧ validateMsgParam parameter pattern = true

/-- The parameters of a command are fields. -/
def Command.WellFormed (line : Str) : Command → Prop
  | .auth u s d => Field .id u ∧ Field .secret s ∧ Field .dname d
  | .join c => Field .id c
  | .rename d => Field .id d
  | .text => Field .msg line
  | _ => True

theorem ne_nil_of_fragments {line fragment : Str} (member : fragment ∈ fragments line) :
    fragment ≠ [] := (mem_words member).1

/-- What `/auth` may ask for. -/
theorem authCommand_cases (rest : List Str) : authCommand rest = .refused .authUsage ∨
    ∃ u s d, rest = [u, s, d] ∧ authCommand rest = .auth u s d ∧ validateMsgParam u .id = true ∧
      validateMsgParam s .secret = true ∧ validateMsgParam d .dname = true := by
  unfold authCommand
  split
  · rename_i u s d
    split
    · rename_i valid
      exact Or.inr ⟨u, s, d, rfl, rfl, valid⟩
    · exact Or.inl rfl
  · exact Or.inl rfl

/-- What a command with one parameter may ask for. -/
theorem oneParameter_cases (make : Str → Command) (usage : Notice) (rest : List Str) :
    oneParameter make usage rest = .refused usage ∨
      ∃ p, rest = [p] ∧ oneParameter make usage rest = make p ∧ validateMsgParam p .id = true := by
  unfold oneParameter
  split
  · rename_i p
    split
    · rename_i valid
      exact Or.inr ⟨p, rfl, rfl, valid⟩
    · exact Or.inl rfl
  · exact Or.inl rfl

theorem authCommand_wellFormed {rest : List Str} (nonempty : ∀ parameter ∈ rest, parameter ≠ [])
    (line : Str) : (authCommand rest).WellFormed line ∧ authCommand rest ≠ .blank := by
  rcases authCommand_cases rest with refused | ⟨u, s, d, rfl, same, user, secret, name⟩
  · rw [refused]
    exact ⟨trivial, Command.noConfusion⟩
  · rw [same]
    refine ⟨⟨⟨?_, user⟩, ⟨?_, secret⟩, ⟨?_, name⟩⟩, Command.noConfusion⟩
    · exact nonempty u (by simp)
    · exact nonempty s (by simp)
    · exact nonempty d (by simp)

theorem oneParameter_wellFormed {make : Str → Command} {usage : Notice} {line : Str}
    (field : ∀ p, Field .id p → (make p).WellFormed line ∧ make p ≠ .blank) {rest : List Str}
    (nonempty : ∀ parameter ∈ rest, parameter ≠ []) :
    (oneParameter make usage rest).WellFormed line ∧ oneParameter make usage rest ≠ .blank := by
  rcases oneParameter_cases make usage rest with refused | ⟨p, rfl, same, valid⟩
  · rw [refused]
    exact ⟨trivial, Command.noConfusion⟩
  · rw [same]
    exact field p ⟨nonempty p List.mem_cons_self, valid⟩

/-- A line with fragments has a well-formed command that is not `blank`. -/
theorem commandOf_wellFormed {line fragment : Str} {rest : List Str} (typed : line ≠ [])
    (nonempty : ∀ parameter ∈ rest, parameter ≠ []) :
    (commandOf line (fragment :: rest)).WellFormed line ∧
      commandOf line (fragment :: rest) ≠ .blank := by
  simp only [commandOf]
  split
  · exact authCommand_wellFormed nonempty line
  split
  · refine oneParameter_wellFormed ?_ nonempty
    intro p field
    exact ⟨field, Command.noConfusion⟩
  split
  · refine oneParameter_wellFormed ?_ nonempty
    intro p field
    exact ⟨field, Command.noConfusion⟩
  split
  · exact ⟨trivial, Command.noConfusion⟩
  split
  · exact ⟨trivial, Command.noConfusion⟩
  split
  · rename_i valid
    exact ⟨⟨typed, valid⟩, Command.noConfusion⟩
  · exact ⟨trivial, Command.noConfusion⟩

theorem typed_of_fragments {line fragment : Str} {rest : List Str}
    (shape : fragments line = fragment :: rest) : line ≠ [] := by
  rintro rfl
  simp [fragments] at shape

theorem parameters_nonempty {line fragment : Str} {rest : List Str}
    (shape : fragments line = fragment :: rest) : ∀ parameter ∈ rest, parameter ≠ [] := by
  intro parameter member
  have inside : parameter ∈ fragments line := by
    rw [shape]
    exact List.mem_cons_of_mem _ member
  exact ne_nil_of_fragments inside

/-- **Every command is well formed.** -/
theorem command_wellFormed (line : Str) : (command line).WellFormed line := by
  unfold command
  cases shape : fragments line with
  | nil => trivial
  | cons fragment rest =>
    exact (commandOf_wellFormed (typed_of_fragments shape) (parameters_nonempty shape)).1

/-- A line is blank when it is made of whitespace. -/
theorem command_eq_blank_iff (line : Str) :
    command line = .blank ↔ ∀ c ∈ line, isspace c = true := by
  rw [← words_eq_nil_iff]
  show command line = .blank ↔ fragments line = []
  unfold command
  cases shape : fragments line with
  | nil => exact iff_of_true rfl rfl
  | cons fragment rest =>
    refine iff_of_false ?_ (List.cons_ne_nil _ _)
    exact (commandOf_wellFormed (typed_of_fragments shape) (parameters_nonempty shape)).2

/-- A text that is too long or not printable; its first word is no command. -/
def RefusedText (line : Str) : Prop :=
  ∃ word ∈ (fragments line).head?, word.head? ≠ some (chr '/') ∧ validateMsgParam line .msg = false

theorem authCommand_ne_badText (rest : List Str) : authCommand rest ≠ .badText := by
  rcases authCommand_cases rest with refused | ⟨u, s, d, _, same, _⟩
  · rw [refused]
    exact Command.noConfusion
  · rw [same]
    exact Command.noConfusion

theorem oneParameter_ne_badText {make : Str → Command} (other : ∀ p, make p ≠ .badText)
    (usage : Notice) (rest : List Str) : oneParameter make usage rest ≠ .badText := by
  rcases oneParameter_cases make usage rest with refused | ⟨p, _, same, _⟩
  · rw [refused]
    exact Command.noConfusion
  · rw [same]
    exact other p

theorem command_eq_badText_iff (line : Str) : command line = .badText ↔ RefusedText line := by
  unfold command RefusedText
  cases fragments line with
  | nil => exact iff_of_false Command.noConfusion (by rintro ⟨word, member, _⟩; cases member)
  | cons word rest =>
    simp only [commandOf, List.head?_cons, Option.mem_some_iff, exists_eq_left']
    by_cases slash : word.head? = some (chr '/')
    · refine iff_of_false ?_ fun refused => refused.1 slash
      split
      · exact authCommand_ne_badText rest
      split
      · exact oneParameter_ne_badText (fun _ => Command.noConfusion) _ rest
      split
      · exact oneParameter_ne_badText (fun _ => Command.noConfusion) _ rest
      split
      · exact Command.noConfusion
      · exact Command.noConfusion
    · have other : ∀ name : Str, name.head? = some (chr '/') → word ≠ name := by
        rintro name start rfl
        exact slash start
      rw [if_neg (other _ rfl), if_neg (other _ rfl), if_neg (other _ rfl), if_neg (other _ rfl),
        if_neg slash]
      cases valid : validateMsgParam line .msg with
      | true => simp
      | false => simp [slash]

theorem isgraph_of_isalnum {c : UInt8} (alnum : isalnum c = true) : isgraph c = true := by
  simp only [isalnum, isgraph, Bool.or_eq_true, Bool.and_eq_true, decide_eq_true_eq,
    UInt8.le_iff_toNat_le] at alnum ⊢
  have values : (48 : UInt8).toNat = 48 ∧ (57 : UInt8).toNat = 57 ∧ (65 : UInt8).toNat = 65 ∧
    (90 : UInt8).toNat = 90 ∧ (97 : UInt8).toNat = 97 ∧ (122 : UInt8).toNat = 122 ∧
    (33 : UInt8).toNat = 33 ∧ (126 : UInt8).toNat = 126 := by decide
  omega

theorem isspace_of_isgraph {c : UInt8} (graph : isgraph c = true) : isspace c = false := by
  simp only [isgraph, Bool.and_eq_true, decide_eq_true_eq] at graph
  have above : ¬ c ≤ 13 := fun most => absurd (UInt8.le_trans graph.1 most) (by decide)
  have other : c ≠ 32 := by
    rintro rfl
    exact absurd graph.1 (by decide)
  simp [isspace, above, other]

/-- What `/rename` accepts is a display name. -/
theorem Field.dname_of_id {parameter : Str} (field : Field .id parameter) :
    Field .dname parameter := by
  obtain ⟨nonempty, valid⟩ := field
  refine ⟨nonempty, ?_⟩
  simp only [validateMsgParam, Bool.and_eq_true, List.all_eq_true, Bool.or_eq_true] at valid ⊢
  refine ⟨valid.1, fun c member => ?_⟩
  rcases valid.2 c member with alnum | dash
  · exact isgraph_of_isalnum alnum
  · rw [beq_iff_eq] at dash
    rw [dash]
    decide

/-- A valid parameter has no NUL. -/
theorem nul_not_mem {pattern : Pattern} {parameter : Str}
    (valid : validateMsgParam parameter pattern = true) : (0 : UInt8) ∉ parameter := by
  intro member
  cases pattern with
  | id =>
    simp only [validateMsgParam, Bool.and_eq_true, List.all_eq_true] at valid
    exact absurd (valid.2 0 member) (by decide)
  | secret =>
    simp only [validateMsgParam, Bool.and_eq_true, List.all_eq_true] at valid
    exact absurd (valid.2 0 member) (by decide)
  | dname =>
    simp only [validateMsgParam, Bool.and_eq_true, List.all_eq_true] at valid
    exact absurd (valid.2 0 member) (by decide)
  | msg =>
    simp only [validateMsgParam, Bool.and_eq_true, List.all_eq_true] at valid
    exact absurd (valid.2 0 member) (by decide)

/-! ### What a command makes of a message -/

/-- The message may be handed to `send_msg`. -/
def Command.ready : Command → Bool
  | .blank | .auth _ _ _ | .join _ | .badText | .text => true
  | _ => false

/-- The display name behind the command. -/
def Command.name (name : Str) : Command → Str
  | .auth _ _ d | .rename d => d
  | _ => name

/-- The type of a message that may be sent. -/
def Command.type : Command → MsgType
  | .auth _ _ _ => .auth
  | .join _ => .join
  | .badText | .text => .msg
  | _ => .userCmd

/-- What the validation prints. -/
def Command.printed : Command → List Output
  | .help => [.notice .helpText]
  | .refused n => [.notice n]
  | .badText => [.notice .wrongFormat]
  | _ => []

/-- **What a client looks at** in the message built from a line, and what was printed. -/
structure Command.Describes (c : Command) (name : Str) (m : NetworkMessage) (lines : List Output) :
    Prop where
  ready : m.readyToSend = c.ready
  type : c.ready = true → m.type = c.type
  /-- The name a client takes over. -/
  name : (if m.type = .auth ∨ m.type = .rename then m.displayName else name) = c.name name
  printed : lines = c.printed

theorem Checks.describes {m : NetworkMessage} {c : Command} {checked : Checked}
    (checks : Checks m c checked) (user : m.type = .userCmd) :
    c.Describes m.displayName checked.msg checked.printed := by
  cases checks with
  | blank => exact ⟨rfl, fun _ => user, by simp [user, Command.name], rfl⟩
  | refused type parts n => exact ⟨rfl, fun ready => (by cases ready), ite_self _, rfl⟩
  | rename => exact ⟨rfl, fun ready => (by cases ready), rfl, rfl⟩
  | help => exact ⟨rfl, fun ready => (by cases ready), rfl, rfl⟩
  | auth => exact ⟨rfl, fun _ => rfl, rfl, rfl⟩
  | join => exact ⟨rfl, fun _ => rfl, rfl, rfl⟩
  | badText => exact ⟨rfl, fun _ => rfl, rfl, rfl⟩
  | text => exact ⟨rfl, fun _ => rfl, rfl, rfl⟩

end Ipk24Chat
