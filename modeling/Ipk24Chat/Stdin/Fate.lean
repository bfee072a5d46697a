/-
**What becomes of a line of the user**, whatever the transport.

A line is a command; the state of the session admits it or not. `fate` is the texts that are printed
and the message that is handed to `send_msg`, where a message with an empty buffer is no `Request`.

* `Named`: what holds of the display name in every run, `Named.line` that a line keeps it;
* `fate_faithful_iff`: what is handed over is a valid message, and nothing is for a line that is
  rejected or blank, except for the lines of `Unsendable` in OPEN_STATE.
-/

import Ipk24Chat.Protocol.Admission
import Ipk24Chat.Protocol.Request

namespace Ipk24Chat

/-! ### The fate -/

/-- What becomes of a line. -/
structure Fate where
  printed : List Output
  /-- The message handed to `send_msg`; it is `none` when its buffer is empty. -/
  handed : Option (Option Request)

def fate (state : FsmState) (awaited : Bool) (name line : Str) : Fate :=
  if (command line).ready then
    if Admits state (command line).type then
      ⟨(command line).printed, some ((command line).request name line)⟩
    else ⟨(command line).printed ++ refusal state awaited, none⟩
  else ⟨(command line).printed, none⟩

/-- What is handed over is the message of a command that is ready. -/
theorem ready_of_handed {state : FsmState} {awaited : Bool} {name line : Str} {handed : Option Request}
    (some : (fate state awaited name line).handed = some handed) :
    (command line).ready = true ∧ handed = (command line).request name line := by
  unfold fate at some
  split at some
  · rename_i ready
    split at some
    · exact ⟨ready, (Option.some.inj some).symm⟩
    · cases some
  · cases some

/-! ### The display name -/

/-- The name is valid, and there is one behind START_STATE. -/
structure Named (state : FsmState) (name : Str) : Prop where
  valid : validateMsgParam name .dname = true
  begun : state ≠ .startState → name ≠ []

theorem Named.field {state : FsmState} {name : Str} (named : Named state name)
    (begun : state ≠ .startState) : Field .dname name := ⟨named.begun begun, named.valid⟩

theorem Named.of_field {name : Str} (field : Field .dname name) (state : FsmState) :
    Named state name := ⟨field.2, fun _ => field.1⟩

/-- **A line keeps the name**: START_STATE is left with an AUTH only. -/
theorem Named.line {state next : FsmState} {name : Str} (named : Named state name) (line : Str)
    (leaves : next ≠ .startState → state ≠ .startState ∨ (command line).type = .auth) :
    Named next ((command line).name name) := by
  have wellFormed := command_wellFormed line
  have kept : (command line).type ≠ .auth → Named next name := fun other =>
    ⟨named.valid, fun begun => (leaves begun).elim named.begun fun auth => absurd auth other⟩
  generalize command line = c at wellFormed leaves kept ⊢
  cases c with
  | auth u s d => exact .of_field wellFormed.2.2 next
  | rename d => exact .of_field (Field.dname_of_id wellFormed) next
  | _ => exact kept (by simp [Command.type])

/-! ### Lines that may be handed over -/

/-- A text is rejected. -/
def Rejects (lines : List Output) : Prop := ∃ n : Notice, .notice n ∈ lines ∧ n.stream = .cerr

/-- A line of whitespace. -/
def Blank (line : Str) : Prop := ∀ c ∈ line, isspace c = true

/-- What is handed over is a valid message, and nothing is for a line that is rejected or blank. -/
structure Fate.Faithful (f : Fate) (line : Str) : Prop where
  complete : ∀ handed ∈ f.handed, ∃ r : Request, handed = some r ∧ r.Valid
  silent : Rejects f.printed ∨ Blank line → f.handed = none

/-- A line of whitespace, or a text that is too long or not printable. -/
def Unsendable (line : Str) : Prop := Blank line ∨ RefusedText line

theorem Fate.faithful_of_kept {f : Fate} (line : Str) (kept : f.handed = none) : f.Faithful line := by
  refine ⟨fun handed member => ?_, fun _ => kept⟩
  rw [kept] at member
  cases member

theorem unsendable_iff (line : Str) :
    Unsendable line ↔ command line = .blank ∨ command line = .badText := by
  rw [Unsendable, Blank, command_eq_blank_iff, command_eq_badText_iff]

/-- An `Unsendable` line is ready, and not an AUTH. -/
theorem Unsendable.ready {line : Str} (unsendable : Unsendable line) :
    (command line).ready = true ∧ (command line).type ≠ .auth := by
  rw [unsendable_iff] at unsendable
  rcases unsendable with blank | bad
  · rw [blank]
    decide
  · rw [bad]
    decide

/-- A command that is handed over: its message is valid unless the line is `Unsendable`. -/
theorem handed_faithful_iff {name line : Str} (ready : (command line).ready = true)
    (field : (command line).type ≠ .auth → Field .dname name) :
    Fate.Faithful ⟨(command line).printed, some ((command line).request name line)⟩ line ↔
      ¬ Unsendable line := by
  have message := Command.request_eq_none_iff name line ready
  rw [← unsendable_iff] at message
  rw [← message]
  constructor
  · intro faithful none
    obtain ⟨r, same, _⟩ := faithful.complete _ rfl
    cases same.symm.trans none
  · intro some
    obtain ⟨r, request⟩ := Option.ne_none_iff_exists'.mp some
    refine ⟨fun handed same => ?_, fun silent => ?_⟩
    · cases same
      exact ⟨r, request, Command.request_valid field (command_wellFormed line) r request⟩
    · rcases silent with ⟨n, member, _⟩ | blank
      · rw [Command.printed_of_request request] at member
        cases member
      · exact absurd (message.mpr (Or.inl blank)) some

/-- **When a line is handled faithfully**: in OPEN_STATE exactly when it is not `Unsendable`. -/
theorem fate_faithful_iff {state : FsmState} {name : Str} (named : Named state name)
    (awaited : Bool) (line : Str) : (fate state awaited name line).Faithful line ↔
      ¬ (state = .openState ∧ Unsendable line) := by
  unfold fate
  cases ready : (command line).ready with
  | false =>
    rw [if_neg Bool.false_ne_true]
    refine iff_of_true (Fate.faithful_of_kept line rfl) fun bad => ?_
    cases ready.symm.trans bad.2.ready.1
  | true =>
    rw [if_pos rfl]
    cases admits : Admits state (command line).type with
    | false =>
      rw [if_neg Bool.false_ne_true]
      refine iff_of_true (Fate.faithful_of_kept line rfl) ?_
      rintro ⟨rfl, unsendable⟩
      exact of_decide_eq_false admits unsendable.ready.2
    | true =>
      have field : (command line).type ≠ .auth → Field .dname name := fun other =>
        named.field fun start => other (auth_of_admits admits (by simp [start]))
      rw [if_pos rfl, handed_faithful_iff ready field, not_and']
      refine ⟨fun clear bad => absurd bad clear, fun clear bad => clear bad ?_⟩
      exact not_not.mp fun other => bad.ready.2 (auth_of_admits admits other)

/-- An `Unsendable` line is handed over in OPEN_STATE, with an empty buffer. -/
theorem fate_of_unsendable {line : Str} (unsendable : Unsendable line) (awaited : Bool) (name : Str) :
    (fate .openState awaited name line).handed = some none := by
  obtain ⟨ready, other⟩ := unsendable.ready
  have message := (Command.request_eq_none_iff name line ready).mpr ((unsendable_iff line).mp unsendable)
  have admits : Admits .openState (command line).type = true := decide_eq_true other
  simp only [fate, ready, admits, message, if_true]

/-! ### The fate as effects -/

section Effects

variable {dest : Type} (layout : Request → Str) (line : Str)

/-- What a client does for a line of this fate. -/
def Fate.effects (f : Fate) (target : dest) : List (Effect dest) :=
  f.printed.map .print ++ f.handed.elim [] fun handed => [.send (handed.elim [] layout) target]

/-- An error message is printed. -/
def Rejected (out : List (Effect dest)) : Prop :=
  ∃ n : Notice, .print (.notice n) ∈ out ∧ n.stream = .cerr

def Silent (out : List (Effect dest)) : Prop := ∀ content target, .send content target ∉ out

/-- **A line is handled faithfully**: what is sent is one complete valid message, and nothing is sent
for a line that is rejected or blank. -/
structure Faithful (out : List (Effect dest)) : Prop where
  complete : ∀ content target, .send content target ∈ out →
    ∃ r : Request, r.Valid ∧ content = layout r
  silent : Rejected out ∨ Blank line → Silent out

variable {layout line} {f : Fate} {target : dest}

theorem Fate.mem_send {content : Str} {target' : dest} :
    .send content target' ∈ f.effects layout target ↔
      ∃ handed ∈ f.handed, content = handed.elim [] layout ∧ target' = target := by
  unfold Fate.effects
  rw [List.mem_append]
  cases f.handed with
  | none => simp
  | some handed => simp

theorem Fate.mem_print {o : Output} : .print o ∈ f.effects layout target ↔ o ∈ f.printed := by
  unfold Fate.effects
  rw [List.mem_append]
  cases f.handed with
  | none => simp
  | some handed => simp

theorem Fate.rejected_iff : Rejected (f.effects layout target) ↔ Rejects f.printed :=
  exists_congr fun _ => and_congr_left' Fate.mem_print

theorem Fate.silent_of_kept (kept : f.handed = none) : Silent (f.effects layout target) := by
  intro content target' member
  obtain ⟨handed, some, _⟩ := Fate.mem_send.mp member
  rw [kept] at some
  cases some

/-- **In every layout**, a line is handled faithfully in OPEN_STATE exactly when it is not
`Unsendable`. -/
theorem effects_faithful_iff (nonempty : ∀ r : Request, layout r ≠ []) {state : FsmState} {name : Str}
    (named : Named state name) (awaited : Bool) (line : Str) (target : dest) :
    Faithful layout line ((fate state awaited name line).effects layout target) ↔
      ¬ (state = .openState ∧ Unsendable line) := by
  constructor
  · rintro faithful ⟨rfl, unsendable⟩
    have handed := fate_of_unsendable unsendable awaited name
    obtain ⟨r, _, empty⟩ := faithful.complete [] target (Fate.mem_send.mpr ⟨none, handed, rfl, rfl⟩)
    exact nonempty r empty.symm
  · intro clear
    have faithful := (fate_faithful_iff named awaited line).mpr clear
    refine ⟨fun content target' member => ?_, fun silent => ?_⟩
    · obtain ⟨handed, some, rfl, _⟩ := Fate.mem_send.mp member
      obtain ⟨r, rfl, valid⟩ := faithful.complete handed some
      exact ⟨r, valid, rfl⟩
    · rw [Fate.rejected_iff] at silent
      exact Fate.silent_of_kept (faithful.silent silent)

end Effects

/-! ### The chat among the effects -/

/-- A line of the chat, as opposed to the text of a REPLY and to what the client itself has to say. -/
def Output.isChat : Output → Bool
  | .msg _ _ | .err _ _ => true
  | _ => false

/-- The lines of the chat that are displayed. -/
def chatIn {dest : Type} (effects : List (Effect dest)) : List Output :=
  effects.filterMap fun
    | .print line => if line.isChat then some line else none
    | .send _ _ => none

theorem chatIn_append {dest : Type} (first second : List (Effect dest)) :
    chatIn (first ++ second) = chatIn first ++ chatIn second := List.filterMap_append

theorem chatIn_printed {dest : Type} (lines : List Output) :
    chatIn (lines.map (Effect.print : Output → Effect dest)) = lines.filter Output.isChat := by
  induction lines with
  | nil => rfl
  | cons line lines ih =>
    unfold chatIn at ih ⊢
    cases chat : line.isChat with
    | true => simp [chat, ih]
    | false => simp [chat, ih]

theorem chat_of_printed (c : Command) : c.printed.filter Output.isChat = [] := by
  cases c <;> rfl

theorem chat_of_refusal (state : FsmState) (awaited : Bool) :
    (refusal state awaited).filter Output.isChat = [] := by
  cases state <;> cases awaited <;> rfl

/-- The fate of a line has no chat in it. -/
theorem Fate.chatIn {dest : Type} (layout : Request → Str) (target : dest) (state : FsmState)
    (awaited : Bool) (name line : Str) :
    Ipk24Chat.chatIn ((fate state awaited name line).effects layout target) = [] := by
  have lines : (fate state awaited name line).printed.filter Output.isChat = [] := by
    unfold fate
    split
    · split
      · exact chat_of_printed _
      · rw [List.filter_append, chat_of_printed, chat_of_refusal, List.append_nil]
    · exact chat_of_printed _
  unfold Fate.effects
  rw [chatIn_append, chatIn_printed, lines, List.nil_append]
  cases (fate state awaited name line).handed <;> rfl

end Ipk24Chat
