/-
**UDP messages: the encoder, the classification of datagrams and the decoder of `messages.cpp`.**

`validateUniqueId` reads the type byte and the id at a fixed offset; `processInboundMsg` reads the
fields behind them and may change the type. Both are given the buffer and the number of bytes
received, and read the buffer by index as the source does (`readU16`, `textLoop`, `dnameLoop`); a
read behind what was received is `0` here and indeterminate there.
-/

import Ipk24Chat.Messages.UserCommand

namespace Ipk24Chat

/-- The fields of `UDPMessage`; `refMessageId` is left uninitialised by the constructor. -/
structure UDPMessage extends NetworkMessage where
  udpBuffer : Str
  messageId : UInt16
  refMessageId : UInt16
  deriving DecidableEq, Repr

def UDPMessage.new (inputMsg : Str) (msgType : MsgType) (msgId : UInt16) : UDPMessage where
  toNetworkMessage := .new inputMsg msgType
  udpBuffer := []
  messageId := msgId
  refMessageId := 0

def UDPMessage.setDisplayName (m : UDPMessage) (name : Str) : UDPMessage :=
  { m with displayName := name }

/-! ### The encoder -/

/-- `message_id >> 8` and `message_id & 0xFF`. -/
def idBytes (messageId : UInt16) : Str := [(messageId >>> 8).toUInt8, (messageId &&& 0xFF).toUInt8]

/-- The bytes of the fields of a validated message. -/
def UDPMessage.encode (m : UDPMessage) (msgParts : List Str) : Str :=
  match m.type with
  | .auth =>
    [UDP_AUTH] ++ idBytes m.messageId ++ msgParts.headD [] ++ [0] ++ msgParts.tail.headD [] ++ [0] ++
      msgParts.tail.tail.headD [] ++ [0]
  | .join =>
    [UDP_JOIN] ++ idBytes m.messageId ++ msgParts.getLastD [] ++ [0] ++ m.displayName ++ [0]
  | .err =>
    [UDP_ERR] ++ idBytes m.messageId ++ m.displayName ++ [0] ++ m.message ++ [0]
  | .msg =>
    [UDP_MSG] ++ idBytes m.messageId ++ m.displayName ++ [0] ++ m.message ++ [0]
  | .bye => [UDP_BYE] ++ idBytes m.messageId ++ m.displayName
  | .confirm => [UDP_CONFIRM] ++ idBytes m.messageId
  | _ => []

/-- The message and what the validation printed. -/
def UDPMessage.processOutgoingMsg (m : UDPMessage) : UDPMessage × List Output :=
  if m.type = .customErr then
    let m := { m with type := .err }
    ({ m with udpBuffer := m.udpBuffer ++ m.encode [] }, [])
  else
    let checked := m.checkUserMessage
    let m := { m with toNetworkMessage := checked.msg }
    if !checked.valid then (m, checked.printed)
    else ({ m with udpBuffer := m.udpBuffer ++ m.encode checked.parts }, checked.printed)

/-! ### The decoder -/

/-- `memcpy` of two bytes and `ntohs`. -/
def readU16 (buffer : Str) (offset : Nat) : UInt16 :=
  UInt16.ofNat (256 * (buffer.getD offset 0).toNat + (buffer.getD (offset + 1) 0).toNat)

/-- What `validate_unique_id` leaves behind; `skipMessage` is the value returned. -/
structure Validated where
  msg : UDPMessage
  skipMessage : Bool
  printed : List Output
  deriving DecidableEq, Repr

def UDPMessage.validateUniqueId (m : UDPMessage) (bytesRx : Nat) (msgIds : List UInt16) :
    Validated :=
  if bytesRx < 3 then ⟨{ m with type := .invalidMsg }, false, [.notice .unknownIncoming]⟩
  else
    let typeToCompare := m.buffer.getD 0 0
    if typeToCompare = UDP_CONFIRM then
      ⟨{ m with type := .confirm, refMessageId := readU16 m.buffer 1 }, false, []⟩
    else if typeToCompare = UDP_REPLY ∨ typeToCompare = UDP_MSG ∨ typeToCompare = UDP_ERR ∨
        typeToCompare = UDP_BYE then
      let type := if typeToCompare = UDP_REPLY then MsgType.replyOk
        else if typeToCompare = UDP_MSG then .msg
        else if typeToCompare = UDP_ERR then .err
        else .bye
      ⟨{ m with type := type, messageId := readU16 m.buffer 1 }, readU16 m.buffer 1 ∈ msgIds, []⟩
    else
      ⟨{ m with type := .invalidMsg, refMessageId := readU16 m.buffer 1 }, false,
        [.notice .unknownIncoming]⟩

/-- The loop over the text: the bytes from `startPos` up to a NUL or the end of the datagram,
`remaining` bytes away. -/
def textLoop (buffer : Str) : (remaining startPos : Nat) → Str
  | 0, _ => []
  | remaining + 1, startPos =>
    if buffer.getD startPos 0 = 0 then []
    else buffer.getD startPos 0 :: textLoop buffer remaining (startPos + 1)

/-- The loop over the display name, with its two cursors; the second result is where the text
starts. -/
def dnameLoop (buffer : Str) : (remaining i startPos : Nat) → Str × Nat
  | 0, _, startPos => ([], startPos)
  | remaining + 1, i, startPos =>
    if buffer.getD startPos 0 = 0 then ([], startPos + 1)
    else
      let rest := dnameLoop buffer remaining (i + 1) (startPos + 1)
      (buffer.getD i 0 :: rest.1, rest.2)

def UDPMessage.processInboundMsg (m : UDPMessage) (bytesRx : Nat) : UDPMessage × List Output :=
  match m.type with
  | .invalidMsg | .confirm => (m, [])
  | .replyOk =>
    if bytesRx < 8 then ({ m with type := .invalidMsg }, [.notice .unknownIncoming])
    else
      let nok := m.buffer.getD 3 0 = 0
      ({ m with
          type := if nok then .replyNok else .replyOk
          refMessageId := readU16 m.buffer 4
          message := m.message ++ (if nok then bytes "Failure: " else bytes "Success: ") ++
            textLoop m.buffer (bytesRx - 6) 6 }, [])
  | .msg | .err =>
    if bytesRx < 7 then ({ m with type := .err }, [.notice .unknownIncoming])
    else
      let acquired := dnameLoop m.buffer (bytesRx - 3) 3 3
      let acquiredMsg := textLoop m.buffer (bytesRx - acquired.2) acquired.2
      (m, [if m.type = .msg then .msg acquired.1 acquiredMsg else .err acquired.1 acquiredMsg])
  | .bye => (m, [])
  | _ => ({ m with type := .invalidMsg }, [.notice .unknownIncomingDot])

end Ipk24Chat
