/-
**The vocabulary of the chat client: byte strings, message types and what the client prints.**

A C++ `std::string` or `char` buffer is a list of bytes (`Str`); the `char` tests of the source are
made in the C locale, where a negative `char` (a byte above 127) belongs to no class. Everything the
client prints is an `Output`: a message of the chat or one of the fixed texts of the source
(`Notice`); `Output.line` is the stream and the line written.

`NetworkMessage` carries the fields both transports share. Its `buffer` holds the bytes written so
far to the `char buffer[BUFFER_SIZE]` of the source; the constructor writes one terminating NUL.
-/

import Mathlib.Data.List.Basic

namespace Ipk24Chat

/-- A byte string. -/
abbrev Str := List UInt8

/-- The bytes of an ASCII literal of the source. -/
def bytes (text : String) : Str := text.toList.map fun c => UInt8.ofNat c.toNat

/-- The byte of an ASCII character literal. -/
def chr (c : Char) : UInt8 := UInt8.ofNat c.toNat

def BUFFER_SIZE : Nat := 1500
def UDP_CONFIRM : UInt8 := 0x00
def UDP_REPLY : UInt8 := 0x01
def UDP_AUTH : UInt8 := 0x02
def UDP_JOIN : UInt8 := 0x03
def UDP_MSG : UInt8 := 0x04
def UDP_ERR : UInt8 := 0xFE
def UDP_BYE : UInt8 := 0xFF

/-! ### Character classes -/

/-- `std::isspace` in the C locale. -/
def isspace (c : UInt8) : Bool := c == 32 || (9 ≤ c && c ≤ 13)

/-- `std::isalnum` in the C locale. -/
def isalnum (c : UInt8) : Bool :=
  (48 ≤ c && c ≤ 57) || (65 ≤ c && c ≤ 90) || (97 ≤ c && c ≤ 122)

/-- `std::toupper` in the C locale. -/
def toupper (c : UInt8) : UInt8 := if 97 ≤ c && c ≤ 122 then c - 32 else c

/-- `std::tolower` in the C locale. -/
def tolower (c : UInt8) : UInt8 := if 65 ≤ c && c ≤ 90 then c + 32 else c

/-- A printable character that is not a space: `ch >= '!' && ch <= '~'`. -/
def isgraph (c : UInt8) : Bool := 33 ≤ c && c ≤ 126

/-! ### Types and states -/

/-- `msg_types`. -/
inductive MsgType
  | auth | join | err | bye | msg | replyOk | replyNok | rename | help | userCmd | toBeDecided
  | confirm | invalidMsg | customErr
  deriving DecidableEq, Repr

/-- `fsm_states`. -/
inductive FsmState
  | startState | authState | openState
  deriving DecidableEq, Repr

/-- `EXIT_SUCCESS` and `EXIT_FAILURE`. -/
inductive ExitCode
  | success | failure
  deriving DecidableEq, Repr

/-! ### What the client prints -/

inductive Stream
  | cout | cerr
  deriving DecidableEq, Repr

/-- The fixed texts of the source. -/
inductive Notice
  | authUsage | joinUsage | renameUsage | helpText | wrongCommand | wrongFormat
  | unknownIncoming | unknownIncomingDot | emptyServerMsg | unknownAtState
  | authorizeFirst | notAuthorizedYet | alreadyAuthorized
  | timeoutApplied | noData | maxTimeouts | pollFailed
  deriving DecidableEq, Repr

def Notice.stream : Notice → Stream
  | .helpText => .cout
  | _ => .cerr

def Notice.text : Notice → String
  | .authUsage => "ERR: Wrong command syntax. Usage: /auth {Username} {Secret} {DisplayName}"
  | .joinUsage => "ERR: Wrong command syntax. Usage: /join {ChannelID}"
  | .renameUsage => "ERR: Wrong command syntax. Usage: /rename {DisplayName}"
  | .helpText => "Available commands:\n/auth {Username} {Secret} {DisplayName}\n/join {ChannelID}\n/rename {DisplayName}\n/help for showing help."
  | .wrongCommand => "ERR: Wrong command. Type /help for help"
  | .wrongFormat => "ERR: Wrong message format or length."
  | .unknownIncoming => "ERR: Unknown incoming message from server"
  | .unknownIncomingDot => "ERR: Unknown incoming message from server."
  | .emptyServerMsg => "ERR: Empty server msg."
  | .unknownAtState => "ERR: Unknown message at current state."
  | .authorizeFirst => "ERR: You must authorize first."
  | .notAuthorizedYet => "ERR: Authorization wasnt succesful yet."
  | .alreadyAuthorized => "ERR: Already authorized."
  | .timeoutApplied => "ERR: TIMEOUT APPLIED."
  | .noData => "ERR: NO DATA RECEIVED FROM SERVER."
  | .maxTimeouts => "ERR: MAX TIMEOUTS REACHED."
  | .pollFailed => "ERR: POLL."

/-- One line the client prints. -/
inductive Output
  /-- A fixed text. -/
  | notice (n : Notice)
  /-- `print_message`: the text of a message, on the stream its type selects. -/
  | message (stream : Stream) (text : Str)
  /-- A chat message: `sender: text`. -/
  | msg (sender text : Str)
  /-- An error of the server: `ERR FROM sender: text`. -/
  | err (sender text : Str)
  deriving DecidableEq, Repr

/-- The stream and the line written. -/
def Output.line : Output → Stream × Str
  | .notice n => (n.stream, bytes n.text)
  | .message stream text => (stream, text)
  | .msg sender text => (.cout, sender ++ bytes ": " ++ text)
  | .err sender text => (.cerr, bytes "ERR FROM " ++ sender ++ bytes ": " ++ text)

/-- A message of the chat, as opposed to a fixed text of the client. -/
def Output.isDisplay : Output → Bool
  | .notice _ => false
  | _ => true

/-! ### Messages -/

/-- The fields of `NetworkMessage`. -/
structure NetworkMessage where
  type : MsgType
  readyToSend : Bool
  displayName : Str
  message : Str
  buffer : Str
  deriving DecidableEq, Repr

/-- The constructor of `NetworkMessage`. -/
def NetworkMessage.new (inputMsg : Str) (msgType : MsgType) : NetworkMessage where
  type := msgType
  readyToSend := false
  displayName := []
  message := inputMsg
  buffer := [0]

def NetworkMessage.setDisplayName (m : NetworkMessage) (name : Str) : NetworkMessage :=
  { m with displayName := name }

/-- Replies are printed to the standard error output. -/
def NetworkMessage.printMessage (m : NetworkMessage) : Output :=
  if m.type = .replyOk ∨ m.type = .replyNok then .message .cerr m.message
  else .message .cout m.message

/-! ### What a call does to the outside -/

/-- A call of `send` or `sendto`, or a line printed. -/
inductive Effect (dest : Type)
  | send (datagram : Str) (target : dest)
  | print (line : Output)
  deriving DecidableEq, Repr

end Ipk24Chat
