/-
**TCP messages: the encoder, the decoder and the framing of `messages.cpp`.**

The output buffer is a C string: `addToBuffer` copies with `strncpy` behind the terminating NUL and
puts a new one, `getOutputBuffer` is what `send` is given (`strlen` bytes). The decoder splits the
line at whitespace, upper-cases one or two words, and cuts the text three places behind the first
`is` of the whole line; a position past the end makes `substr` throw `std::out_of_range`, which
nothing catches.
-/

import Ipk24Chat.Messages.UserCommand

namespace Ipk24Chat

open Scan

/-- `TCPMessage` adds no field. -/
abbrev TCPMessage := NetworkMessage

/-! ### The C string buffer -/

def strlen (buffer : Str) : Nat := (buffer.takeWhile (· ≠ 0)).length

/-- The `length` bytes `strncpy` writes: the source up to its first NUL, then padding. -/
def strncpy (source : Str) (length : Nat) : Str :=
  let copied := (source.takeWhile (· ≠ 0)).take length
  copied ++ List.replicate (length - copied.length) 0

def TCPMessage.addToBuffer (m : TCPMessage) (msgPart : Str) : TCPMessage :=
  let length := msgPart.length
  let position := strlen m.buffer
  { m with buffer := m.buffer.take position ++ strncpy msgPart length ++ [0] ++
      m.buffer.drop (position + length + 1) }

def TCPMessage.addLineEnding (m : TCPMessage) : TCPMessage :=
  let length := strlen m.buffer
  { m with buffer := m.buffer.take length ++ [13, 10, 0] ++ m.buffer.drop (length + 3) }

/-- `get_output_buffer` together with `get_output_buffer_size`. -/
def TCPMessage.getOutputBuffer (m : TCPMessage) : Str := m.buffer.take (strlen m.buffer)

def TCPMessage.removeLineEnding (message : Str) : Str :=
  let message := if message.getLast? = some 10 then message.dropLast else message
  if message.getLast? = some 13 then message.dropLast else message

/-! ### The encoder -/

/-- The message and what the validation printed. -/
def TCPMessage.processOutgoingMsg (m : TCPMessage) : TCPMessage × List Output :=
  let checked := m.checkUserMessage
  let m : TCPMessage := checked.msg
  if !checked.valid then (m, checked.printed)
  else
    let m : TCPMessage := match m.type with
      | .auth =>
        let m := (m.addToBuffer (bytes "AUTH ")).addToBuffer (checked.parts.headD [])
        let msgParts := checked.parts.tail
        let m := (m.addToBuffer (bytes " AS ")).addToBuffer (msgParts.headD [])
        let msgParts := msgParts.tail
        ((m.addToBuffer (bytes " USING ")).addToBuffer (msgParts.getLastD [])).addLineEnding
      | .join =>
        let m := (m.addToBuffer (bytes "JOIN ")).addToBuffer (checked.parts.getLastD [])
        ((m.addToBuffer (bytes " AS ")).addToBuffer m.displayName).addLineEnding
      | .err | .customErr =>
        let m := (m.addToBuffer (bytes "ERR FROM ")).addToBuffer m.displayName
        ((m.addToBuffer (bytes " IS ")).addToBuffer m.message).addLineEnding
      | .msg =>
        let m := (m.addToBuffer (bytes "MSG FROM ")).addToBuffer m.displayName
        ((m.addToBuffer (bytes " IS ")).addToBuffer m.message).addLineEnding
      | .bye => (m.addToBuffer (bytes "BYE")).addLineEnding
      | _ => m
    (m, checked.printed)

/-! ### The decoder -/

/-- The exception `substr` throws. -/
inductive OutOfRange
  | outOfRange
  deriving DecidableEq, Repr

/-- `std::string::substr(position)`. -/
def substr (text : Str) (position : Nat) : Except OutOfRange Str :=
  if position ≤ text.length then .ok (text.drop position) else .error .outOfRange

/-- Equality of characters under `std::regex_constants::icase`. -/
def sameIcase (a b : UInt8) : Bool := tolower a == tolower b

/-- `std::regex_search` for the pattern `is`, ignoring case: the position of the first match. -/
def searchIs (text : Str) : Option Nat := search sameIcase (bytes "is") text

/-- The text of a line: what stands three places behind the first `is`, without the line ending;
`none` when there is no `is`. -/
def extractMessage (helpString : Str) : Except OutOfRange (Option Str) :=
  match searchIs helpString with
  | some position => (substr helpString (position + 3)).map fun text =>
      some (TCPMessage.removeLineEnding text)
  | none => .ok none

/-- A line the decoder does not know. -/
def TCPMessage.invalid (m : TCPMessage) (n : Notice) : TCPMessage × List Output :=
  ({ m with type := .invalidMsg }, [.notice n])

/-- The two `REPLY` branches: the type and the prefix of the text. -/
def TCPMessage.replyBranch (m : TCPMessage) (helpString : Str) (type : MsgType) (label : Str) :
    Except OutOfRange (TCPMessage × List Output) :=
  (extractMessage helpString).map fun
    | some text => ({ m with type := type, message := label ++ text }, [])
    | none => m.invalid .unknownIncoming

/-- The branch of `ERR` and `MSG`, which prints what it has read. -/
def TCPMessage.chatBranch (m : TCPMessage) (helpString sender : Str) (type : MsgType) :
    Except OutOfRange (TCPMessage × List Output) :=
  (extractMessage helpString).map fun
    | some text => ({ m with type := type },
        [if type = .err then .err sender text else .msg sender text])
    | none => m.invalid .unknownIncoming

def TCPMessage.processInboundMsg (m : TCPMessage) (bytesRx : Nat) :
    Except OutOfRange (TCPMessage × List Output) :=
  let helpString := m.buffer.take bytesRx
  let msgVector := words isspace helpString
  if msgVector.length = 0 then .ok (m.invalid .emptyServerMsg)
  else if m.type = .toBeDecided then
    let first := (msgVector.getD 0 []).map toupper
    let second := (msgVector.getD 1 []).map toupper
    if msgVector.length = 1 ∧ first = bytes "BYE" then .ok ({ m with type := .bye }, [])
    else if msgVector.length ≥ 4 ∧ first = bytes "REPLY" ∧ second = bytes "OK" then
      m.replyBranch helpString .replyOk (bytes "Success: ")
    else if msgVector.length ≥ 4 ∧ first = bytes "REPLY" ∧ second = bytes "NOK" then
      m.replyBranch helpString .replyNok (bytes "Failure: ")
    else if msgVector.length ≥ 4 ∧ first = bytes "ERR" then
      m.chatBranch helpString (msgVector.getD 2 []) .err
    else if msgVector.length ≥ 4 ∧ first = bytes "MSG" then
      m.chatBranch helpString (msgVector.getD 2 []) .msg
    else .ok (m.invalid .unknownIncoming)
  else .ok (m, [])

end Ipk24Chat
