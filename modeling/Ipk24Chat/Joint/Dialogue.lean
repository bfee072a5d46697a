/-
**The dialogue that both clients implement**, as one state machine.

A `Dialogue` is what a client knows of its session: the state, whether a reply is awaited, the display
name. A turn is a line of the user or a message of the server; it changes the dialogue, sends some
letters and may end the program. A letter is a message without its id and its layout; an ERR also goes
without its text.

* `Dialogue.line`, `Dialogue.hear`: the two kinds of turns;
* `LineOf`, `DatagramOf`: how a letter looks on the two transports.
-/

import Ipk24Chat.Stdin.Fate
import Ipk24Chat.Wire.Unambiguous

namespace Ipk24Chat

/-! ### Letters -/

/-- A message the client sends. -/
inductive Letter
  | request (r : Request)
  | err (displayName : Str)
  | bye
  deriving DecidableEq, Repr

/-- A CONFIRM is no letter. -/
def Outgoing.letter : Outgoing → Option Letter
  | .request r => some (.request r)
  | .err d _ => some (.err d)
  | .bye => some .bye
  | .confirm => none

/-- The line carries the letter. -/
def LineOf (letter : Letter) (line : Str) : Prop :=
  ∃ o : Outgoing, o.letter = some letter ∧ line = o.tcp

/-- The datagram carries the letter, with some id. -/
def DatagramOf (letter : Letter) (datagram : Str) : Prop :=
  ∃ (o : Outgoing) (id : UInt16), o.letter = some letter ∧ datagram = o.udp id

/-! ### Turns -/

/-- What the server may send; a REPLY answers the request that is outstanding. -/
inductive Incoming
  | reply (ok : Bool)
  | msg
  | err
  | bye
  | malformed
  deriving DecidableEq, Repr

/-- What is owed a REPLY behind a message. -/
def Incoming.owed {α : Type} (request : Option α) : Incoming → Option α
  | .reply _ => none
  | _ => request

structure Dialogue where
  state : FsmState
  awaited : Bool
  name : Str
  deriving DecidableEq, Repr

/-- What a turn leads to. -/
structure Turn where
  dialogue : Dialogue
  sent : List Letter
  ended : Option ExitCode
  deriving DecidableEq, Repr

namespace Dialogue

/-- A line of the user. -/
def line (d : Dialogue) (text : Str) : Turn :=
  if text = [] then ⟨d, [], none⟩
  else
    let name := (command text).name d.name
    match (fate d.state d.awaited d.name text).handed with
    | none => ⟨{ d with name := name }, [], none⟩
    | some handed =>
      ⟨⟨d.state.sent, isRequest (command text).type || d.awaited, name⟩,
        handed.toList.map .request, none⟩

/-- What is not expected is answered by an ERR. -/
def reject (d : Dialogue) : Turn := ⟨d, [.err d.name, .bye], some .failure⟩

/-- A message of the server. -/
def hear (d : Dialogue) (m : Incoming) : Turn :=
  match d.state, m with
  | .startState, _ => d.reject
  | .authState, .reply ok =>
    ⟨{ d with awaited := false, state := if ok then .openState else .authState }, [], none⟩
  | .authState, .err => ⟨d, [.bye], some .failure⟩
  | .authState, _ => d.reject
  | .openState, .reply _ => ⟨{ d with awaited := false }, [], none⟩
  | .openState, .msg => ⟨d, [], none⟩
  | .openState, .err => ⟨d, [.bye], some .failure⟩
  | .openState, .bye => ⟨d, [], some .success⟩
  | .openState, .malformed => d.reject

theorem hear_start {d : Dialogue} (start : d.state = .startState) (m : Incoming) :
    d.hear m = d.reject := by
  unfold hear
  rw [start]

theorem hear_malformed (d : Dialogue) : d.hear .malformed = d.reject := by
  cases state : d.state <;> simp only [hear, state]

theorem hear_err {d : Dialogue} (begun : d.state ≠ .startState) :
    d.hear .err = ⟨d, [.bye], some .failure⟩ := by
  cases state : d.state with
  | startState => exact absurd state begun
  | authState => simp only [hear, state]
  | openState => simp only [hear, state]

/-- Before the session is open, chatting is not expected. -/
theorem hear_auth {d : Dialogue} (auth : d.state = .authState) {m : Incoming}
    (chat : m = .msg ∨ m = .bye) : d.hear m = d.reject := by
  rcases chat with rfl | rfl
  · simp only [hear, auth]
  · simp only [hear, auth]

theorem hear_msg {d : Dialogue} (isOpen : d.state = .openState) : d.hear .msg = ⟨d, [], none⟩ := by
  simp only [hear, isOpen]

/-- A line that is handed to `send_msg`. -/
theorem line_admitted {d : Dialogue} {text : Str} (typed : text ≠ [])
    (ready : (command text).ready = true) (admits : Admits d.state (command text).type = true) :
    d.line text = ⟨⟨d.state.sent, isRequest (command text).type || d.awaited,
        (command text).name d.name⟩, ((command text).request d.name text).toList.map .request, none⟩ := by
  simp only [line, if_neg typed, fate, ready, admits, if_true]

/-- Another line. -/
theorem line_kept {d : Dialogue} {text : Str} (typed : text ≠ [])
    (kept : (command text).ready = false ∨ Admits d.state (command text).type = false) :
    d.line text = ⟨{ d with name := (command text).name d.name }, [], none⟩ := by
  rcases kept with idle | refused
  · simp [line, typed, fate, idle]
  · cases ready : (command text).ready <;> simp [line, typed, fate, ready, refused]

end Dialogue

end Ipk24Chat
