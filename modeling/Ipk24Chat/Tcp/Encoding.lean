/-
**What the TCP encoder writes.**

`Written m s` says that the C string in the buffer of `m` is `s`. Each `addToBuffer` appends a part
without a NUL, so that the output buffer is the concatenation of the parts.

* `output_userCmd`: the line of a command is the layout of its message;
* `output_msg`, `output_customErr`: the lines that are encoded without a command.
-/

import Mathlib.Data.List.TakeWhile
import Ipk24Chat.Messages.Tcp
import Ipk24Chat.Protocol.Request

namespace Ipk24Chat

namespace TCPMessage

/-! ### The C string in the buffer -/

/-- The buffer holds the C string `s`. -/
def Written (m : TCPMessage) (s : Str) : Prop := (0 : UInt8) ∉ s ∧ ∃ rest, m.buffer = s ++ 0 :: rest

theorem nul_free {s : Str} (free : (0 : UInt8) ∉ s) : ∀ c ∈ s, decide (c ≠ 0) = true := by
  intro c member
  refine decide_eq_true ?_
  rintro rfl
  exact free member

theorem Written.strlen {m : TCPMessage} {s : Str} (written : Written m s) :
    strlen m.buffer = s.length := by
  obtain ⟨free, rest, buffer⟩ := written
  unfold Ipk24Chat.strlen
  rw [buffer, List.takeWhile_append_of_pos (nul_free free), List.takeWhile_cons_of_neg (by simp),
    List.append_nil]

/-- **The output buffer is the C string.** -/
theorem Written.output {m : TCPMessage} {s : Str} (written : Written m s) :
    m.getOutputBuffer = s := by
  have length := written.strlen
  obtain ⟨_, rest, buffer⟩ := written
  unfold getOutputBuffer
  rw [length, buffer, List.take_left' rfl]

theorem strncpy_self {part : Str} (free : (0 : UInt8) ∉ part) : strncpy part part.length = part := by
  have all : part.takeWhile (· ≠ 0) = part := List.takeWhile_eq_self_iff.mpr (nul_free free)
  simp only [strncpy, all, List.take_length, Nat.sub_self, List.replicate_zero, List.append_nil]

theorem Written.new (inputMsg : Str) (type : MsgType) (name : Str) :
    Written ((NetworkMessage.new inputMsg type).setDisplayName name) [] :=
  ⟨List.not_mem_nil, [], rfl⟩

/-- **A part is appended.** -/
theorem Written.add {m : TCPMessage} {s part : Str} (written : Written m s)
    (free : (0 : UInt8) ∉ part) : Written (m.addToBuffer part) (s ++ part) := by
  have length := written.strlen
  obtain ⟨clean, rest, buffer⟩ := written
  refine ⟨fun member => ?_, m.buffer.drop (s.length + part.length + 1), ?_⟩
  · rcases List.mem_append.mp member with member | member
    · exact clean member
    · exact free member
  · unfold addToBuffer
    simp only [length, strncpy_self free]
    rw [buffer, List.take_left' rfl]
    simp

theorem Written.ending {m : TCPMessage} {s : Str} (written : Written m s) :
    Written m.addLineEnding (s ++ [13, 10]) := by
  have length := written.strlen
  obtain ⟨clean, rest, buffer⟩ := written
  refine ⟨fun member => ?_, m.buffer.drop (s.length + 3), ?_⟩
  · rcases List.mem_append.mp member with member | member
    · exact clean member
    · simp at member
  · unfold addLineEnding
    simp only [length]
    rw [buffer, List.take_left' rfl]
    simp

/-- Changes of the other fields leave the buffer. -/
theorem Written.of_buffer {m m' : TCPMessage} {s : Str} (written : Written m s)
    (same : m'.buffer = m.buffer) : Written m' s := by
  unfold Written
  rw [same]
  exact written

/-! ### The lines -/

theorem written_join {m : TCPMessage} {channel : Str} (written : Written m [])
    (clean : (0 : UInt8) ∉ channel) (named : (0 : UInt8) ∉ m.displayName) :
    Written ((((m.addToBuffer (bytes "JOIN ")).addToBuffer channel).addToBuffer
      (bytes " AS ")).addToBuffer m.displayName).addLineEnding
      (Request.join channel m.displayName).tcp :=
  ((((written.add (by decide)).add clean).add (by decide)).add named).ending

theorem written_auth {m : TCPMessage} {u d s : Str} (written : Written m [])
    (user : (0 : UInt8) ∉ u) (named : (0 : UInt8) ∉ d) (secret : (0 : UInt8) ∉ s) :
    Written ((((((m.addToBuffer (bytes "AUTH ")).addToBuffer u).addToBuffer
      (bytes " AS ")).addToBuffer d).addToBuffer (bytes " USING ")).addToBuffer s).addLineEnding
      (Request.auth u d s).tcp :=
  ((((((written.add (by decide)).add user).add (by decide)).add named).add (by decide)).add
    secret).ending

theorem written_chat {m : TCPMessage} {label : Str} (written : Written m [])
    (labelled : (0 : UInt8) ∉ label) (named : (0 : UInt8) ∉ m.displayName)
    (clean : (0 : UInt8) ∉ m.message) :
    Written ((((m.addToBuffer (label ++ bytes " FROM ")).addToBuffer m.displayName).addToBuffer
      (bytes " IS ")).addToBuffer m.message).addLineEnding (chatLine label m.displayName m.message) := by
  have label' : (0 : UInt8) ∉ label ++ bytes " FROM " := by
    rw [List.mem_append]
    rintro (member | member)
    · exact labelled member
    · exact absurd member (by decide)
  exact ((((written.add label').add named).add (by decide)).add clean).ending

/-- **The line a command puts on the wire.** -/
theorem output_userCmd {name : Str} (named : (0 : UInt8) ∉ name) (line : Str) :
    (TCPMessage.processOutgoingMsg
      ((NetworkMessage.new line .userCmd).setDisplayName name)).1.getOutputBuffer =
      ((command line).request name line).elim [] Request.tcp := by
  have checks := checkUserMessage_checks
    (m := (NetworkMessage.new line .userCmd).setDisplayName name) rfl
  have wellFormed := command_wellFormed line
  have start := Written.new line .userCmd name
  rw [show ((NetworkMessage.new line .userCmd).setDisplayName name).message = line from rfl] at checks
  unfold processOutgoingMsg
  generalize NetworkMessage.checkUserMessage _ = checked at checks ⊢
  generalize command line = c at checks wellFormed ⊢
  cases checks with
  | blank => exact (start.of_buffer rfl).output
  | rename => exact (start.of_buffer rfl).output
  | help => exact (start.of_buffer rfl).output
  | refused => exact (start.of_buffer rfl).output
  | badText => exact (start.of_buffer rfl).output
  | auth u s d =>
    obtain ⟨user, secret, display⟩ := wellFormed
    exact (written_auth (start.of_buffer rfl) (nul_not_mem user.2) (nul_not_mem display.2)
      (nul_not_mem secret.2)).output
  | join c => exact (written_join (start.of_buffer rfl) (nul_not_mem wellFormed.2) named).output
  | text =>
    have labelled : (0 : UInt8) ∉ bytes "MSG" := by decide
    exact (written_chat (start.of_buffer rfl) labelled named (nul_not_mem wellFormed.2)).output

/-- The encoder only fills the buffer of the message that the validation leaves. -/
theorem processOutgoingMsg_frame (m : TCPMessage) : ∃ buffer,
    m.processOutgoingMsg = ({ m.checkUserMessage.msg with buffer := buffer },
      m.checkUserMessage.printed) := by
  unfold processOutgoingMsg
  obtain ⟨⟨type, ready, name, message, buffer⟩, parts, valid, lines⟩ := m.checkUserMessage
  cases valid with
  | false => exact ⟨buffer, rfl⟩
  | true => cases type <;> exact ⟨_, rfl⟩

/-! ### Messages that are not typed -/

/-- The line of a message that is built as a `MSG`. -/
theorem output_msg {name text : Str} (named : (0 : UInt8) ∉ name) (clean : (0 : UInt8) ∉ text) :
    (TCPMessage.processOutgoingMsg ((NetworkMessage.new text .msg).setDisplayName name)).1.getOutputBuffer
      = chatLine (bytes "MSG") name text := by
  have start := Written.new text .msg name
  have labelled : (0 : UInt8) ∉ bytes "MSG" := by decide
  have checked : ((NetworkMessage.new text .msg).setDisplayName name).checkUserMessage =
      ⟨{ (NetworkMessage.new text .msg).setDisplayName name with readyToSend := true }, [], true, []⟩ :=
    checkFragments_msg _ _ rfl 1 [] []
  unfold processOutgoingMsg
  rw [checked]
  exact (written_chat (start.of_buffer rfl) labelled named clean).output

/-- The line of an error of the client, which is not validated. -/
theorem output_customErr {name text : Str} (named : (0 : UInt8) ∉ name)
    (clean : (0 : UInt8) ∉ text) :
    (TCPMessage.processOutgoingMsg
      ((NetworkMessage.new text .customErr).setDisplayName name)).1.getOutputBuffer =
      chatLine (bytes "ERR") name text := by
  have start := Written.new text .customErr name
  have labelled : (0 : UInt8) ∉ bytes "ERR" := by decide
  exact (written_chat (start.of_buffer rfl) labelled named clean).output

end TCPMessage

end Ipk24Chat
