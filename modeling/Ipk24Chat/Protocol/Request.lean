/-
**The messages a user may send, and their layout on the wire.**

`Request.tcp` and `Request.udp` are the layouts of the protocol, to be compared with what the encoders
write; `Command.request` is the message a command stands for.
-/

import Ipk24Chat.Messages.Udp

namespace Ipk24Chat

/-- A message of the user. -/
inductive Request
  | auth (username displayName secret : Str)
  | join (channel displayName : Str)
  | msg (displayName text : Str)
  deriving DecidableEq, Repr

/-- All fields are accepted by `validate_msg_param`. -/
def Request.Valid : Request → Prop
  | .auth u d s => Field .id u ∧ Field .dname d ∧ Field .secret s
  | .join c d => Field .id c ∧ Field .dname d
  | .msg d t => Field .dname d ∧ Field .msg t

/-! ### Layouts -/

/-- A line that names its sender: `MSG FROM name IS text` or `ERR FROM name IS text`. -/
def chatLine (label name text : Str) : Str :=
  label ++ bytes " FROM " ++ name ++ bytes " IS " ++ text ++ [13, 10]

/-- The line of a message. -/
def Request.tcp : Request → Str
  | .auth u d s => bytes "AUTH " ++ u ++ bytes " AS " ++ d ++ bytes " USING " ++ s ++ [13, 10]
  | .join c d => bytes "JOIN " ++ c ++ bytes " AS " ++ d ++ [13, 10]
  | .msg d t => chatLine (bytes "MSG") d t

/-- The datagram of a message. -/
def Request.udp (id : UInt16) : Request → Str
  | .auth u d s => [UDP_AUTH] ++ idBytes id ++ u ++ [0] ++ d ++ [0] ++ s ++ [0]
  | .join c d => [UDP_JOIN] ++ idBytes id ++ c ++ [0] ++ d ++ [0]
  | .msg d t => [UDP_MSG] ++ idBytes id ++ d ++ [0] ++ t ++ [0]

theorem Request.tcp_ne_nil (r : Request) : r.tcp ≠ [] := by
  cases r <;> simp [Request.tcp, chatLine]

theorem Request.udp_ne_nil (id : UInt16) (r : Request) : r.udp id ≠ [] := by
  cases r <;> simp [Request.udp]

/-! ### The message of a command -/

/-- The message a command stands for, under the display name of the client. -/
def Command.request (name line : Str) : Command → Option Request
  | .auth u s d => some (.auth u d s)
  | .join c => some (.join c name)
  | .text => some (.msg name line)
  | _ => none

/-- **The message of a command is valid**; AUTH brings its own name. -/
theorem Command.request_valid {name line : Str} {c : Command}
    (named : c.type ≠ .auth → Field .dname name) (wellFormed : c.WellFormed line) :
    ∀ r ∈ c.request name line, r.Valid := by
  intro r member
  cases c with
  | auth u s d =>
    cases member
    exact ⟨wellFormed.1, wellFormed.2.2, wellFormed.2.1⟩
  | join c =>
    cases member
    exact ⟨wellFormed, named (by simp [Command.type])⟩
  | text =>
    cases member
    exact ⟨named (by simp [Command.type]), wellFormed⟩
  | _ => cases member

/-- A command that is ready and no message is a blank line or a refused text. -/
theorem Command.request_eq_none_iff (name line : Str) {c : Command} (ready : c.ready = true) :
    c.request name line = none ↔ c = .blank ∨ c = .badText := by
  cases c with
  | rename => cases ready
  | help => cases ready
  | refused => cases ready
  | _ => simp [Command.request]

/-- Nothing is printed for a message. -/
theorem Command.printed_of_request {name line : Str} {c : Command} {r : Request}
    (message : c.request name line = some r) : c.printed = [] := by
  cases c with
  | auth => rfl
  | join => rfl
  | text => rfl
  | _ => cases message

end Ipk24Chat
