/-
**Received datagrams: what the two decoding functions make of each kind.**

A datagram is of one `Kind`, read off its length and type byte. For each kind the section
*Classification* says what `validateUniqueId` returns and the section *Decoding* what
`processInboundMsg` makes of the result; the handlers of the client are then followed kind by kind.
-/

import Ipk24Chat.Clients.Udp

namespace Ipk24Chat

namespace UDPClient

/-- The kinds of datagrams `validate_unique_id` tells apart. -/
inductive Kind
  | confirm | reply | msg | err | bye | invalid
  deriving DecidableEq, Repr

/-- The type `validate_unique_id` gives a kind. -/
def Kind.type : Kind → MsgType
  | .confirm => .confirm
  | .reply => .replyOk
  | .msg => .msg
  | .err => .err
  | .bye => .bye
  | .invalid => .invalidMsg

/-- The kinds that carry a MessageID looked up among the seen ones. -/
def Kind.numbered : Kind → Bool
  | .confirm | .invalid => false
  | _ => true

def kind (d : Str) : Kind :=
  if d.length < 3 then .invalid
  else if d.getD 0 0 = UDP_CONFIRM then .confirm
  else if d.getD 0 0 = UDP_REPLY then .reply
  else if d.getD 0 0 = UDP_MSG then .msg
  else if d.getD 0 0 = UDP_ERR then .err
  else if d.getD 0 0 = UDP_BYE then .bye
  else .invalid

/-- The MessageID of a datagram, which is the RefMessageID of a CONFIRM. -/
def msgId (d : Str) : UInt16 := readU16 d 1

/-- The RefMessageID of a REPLY. -/
def replyRef (d : Str) : UInt16 := readU16 d 4

/-- The datagram is a numbered one whose id has been seen. -/
def Seen (c : UDPClient) (d : Str) : Prop := (kind d).numbered = true ∧ msgId d ∈ c.seenIds

instance (c : UDPClient) (d : Str) : Decidable (c.Seen d) := inferInstanceAs (Decidable (_ ∧ _))

theorem three_le_of_kind {d : Str} (known : kind d ≠ .invalid) : 3 ≤ d.length := by
  by_contra short
  exact known (if_pos (by omega))

/-! ### Classification -/

/-- What `validate_unique_id` makes of a datagram that is received into a fresh object. -/
def classified (c : UDPClient) (d : Str) : Validated :=
  (inboundMsg d).validateUniqueId d.length c.seenIds

/-- The object behind `validate_unique_id`. -/
def heard (d : Str) : UDPMessage :=
  { inboundMsg d with
    type := (kind d).type
    messageId := if (kind d).numbered then msgId d else 65535
    refMessageId := if (kind d).numbered ∨ d.length < 3 then 0 else msgId d }

@[simp] theorem heard_type (d : Str) : (heard d).type = (kind d).type := rfl

theorem heard_messageId {d : Str} (numbered : (kind d).numbered = true) :
    (heard d).messageId = msgId d := if_pos numbered

theorem heard_refMessageId {d : Str} (confirm : kind d = .confirm) :
    (heard d).refMessageId = msgId d := by
  have long := three_le_of_kind (d := d) (by simp [confirm])
  exact if_neg (by simp [confirm, Kind.numbered]; omega)

/-- **`validate_unique_id`, for every datagram.** -/
theorem classified_eq (c : UDPClient) (d : Str) :
    c.classified d = ⟨heard d, decide (c.Seen d),
      if kind d = .invalid then [.notice .unknownIncoming] else []⟩ := by
  unfold classified UDPMessage.validateUniqueId
  by_cases short : d.length < 3
  · have isKind : kind d = .invalid := if_pos short
    rw [if_pos short]
    simp [heard, Seen, isKind, Kind.numbered, Kind.type, inboundMsg, UDPMessage.new, short]
  rw [if_neg short]
  simp only [show (inboundMsg d).buffer.getD 0 0 = d.getD 0 0 from rfl,
    show readU16 (inboundMsg d).buffer 1 = msgId d from rfl]
  by_cases confirm : d.getD 0 0 = UDP_CONFIRM
  · have isKind : kind d = .confirm := by rw [kind, if_neg short, if_pos confirm]
    rw [if_pos confirm]
    simp [heard, Seen, isKind, Kind.numbered, Kind.type, inboundMsg, UDPMessage.new, short]
  rw [if_neg confirm]
  by_cases reply : d.getD 0 0 = UDP_REPLY
  · have isKind : kind d = .reply := by rw [kind, if_neg short, if_neg confirm, if_pos reply]
    rw [if_pos (Or.inl reply), if_pos reply]
    simp [heard, Seen, isKind, Kind.numbered, Kind.type, inboundMsg, UDPMessage.new]
  by_cases msg : d.getD 0 0 = UDP_MSG
  · have isKind : kind d = .msg := by
      rw [kind, if_neg short, if_neg confirm, if_neg reply, if_pos msg]
    rw [if_pos (Or.inr (Or.inl msg)), if_neg reply, if_pos msg]
    simp [heard, Seen, isKind, Kind.numbered, Kind.type, inboundMsg, UDPMessage.new]
  by_cases err : d.getD 0 0 = UDP_ERR
  · have isKind : kind d = .err := by
      rw [kind, if_neg short, if_neg confirm, if_neg reply, if_neg msg, if_pos err]
    rw [if_pos (Or.inr (Or.inr (Or.inl err))), if_neg reply, if_neg msg, if_pos err]
    simp [heard, Seen, isKind, Kind.numbered, Kind.type, inboundMsg, UDPMessage.new]
  by_cases bye : d.getD 0 0 = UDP_BYE
  · have isKind : kind d = .bye := by
      rw [kind, if_neg short, if_neg confirm, if_neg reply, if_neg msg, if_neg err, if_pos bye]
    rw [if_pos (Or.inr (Or.inr (Or.inr bye))), if_neg reply, if_neg msg, if_neg err]
    simp [heard, Seen, isKind, Kind.numbered, Kind.type, inboundMsg, UDPMessage.new]
  · have isKind : kind d = .invalid := by
      rw [kind, if_neg short, if_neg confirm, if_neg reply, if_neg msg, if_neg err, if_neg bye]
    rw [if_neg (by simp only [reply, msg, err, bye, or_self, not_false_eq_true])]
    simp [heard, Seen, isKind, Kind.numbered, Kind.type, inboundMsg, UDPMessage.new, short]

/-! ### Decoding -/

/-- The type byte says OK or NOK. -/
def replyType (d : Str) : MsgType := if d.getD 3 0 = 0 then .replyNok else .replyOk

theorem replyType_nok_iff (d : Str) : replyType d = .replyNok ↔ decide (d.getD 3 0 ≠ 0) = false := by
  unfold replyType
  split <;> simp_all

/-- A decoded REPLY. -/
def replyMsg (d : Str) : UDPMessage :=
  { heard d with
    type := replyType d
    refMessageId := replyRef d
    message := (if d.getD 3 0 = 0 then bytes "Failure: " else bytes "Success: ") ++
      textLoop d (d.length - 6) 6 }

/-- The display name in a MSG or an ERR, and where the text starts. -/
def senderOf (d : Str) : Str × Nat := dnameLoop d (d.length - 3) 3 3

/-- The text of a MSG or an ERR. -/
def textOf (d : Str) : Str := textLoop d (d.length - (senderOf d).2) (senderOf d).2

theorem decode_reply {d : Str} (reply : kind d = .reply) (long : 8 ≤ d.length) :
    (heard d).processInboundMsg d.length = (replyMsg d, []) := by
  have type : (heard d).type = .replyOk := by rw [heard_type, reply]; rfl
  unfold UDPMessage.processInboundMsg
  rw [type]
  simp only [if_neg (show ¬ d.length < 8 by omega)]
  rfl

theorem decode_reply_short {d : Str} (reply : kind d = .reply) (short : d.length < 8) :
    (heard d).processInboundMsg d.length =
      ({ heard d with type := .invalidMsg }, [.notice .unknownIncoming]) := by
  have type : (heard d).type = .replyOk := by rw [heard_type, reply]; rfl
  unfold UDPMessage.processInboundMsg
  rw [type]
  exact if_pos short

theorem decode_msg {d : Str} (msg : kind d = .msg) (long : 7 ≤ d.length) :
    (heard d).processInboundMsg d.length = (heard d, [.msg (senderOf d).1 (textOf d)]) := by
  have type : (heard d).type = .msg := by rw [heard_type, msg]; rfl
  unfold UDPMessage.processInboundMsg
  rw [type]
  simp only [if_neg (show ¬ d.length < 7 by omega)]
  rfl

theorem decode_err {d : Str} (err : kind d = .err) (long : 7 ≤ d.length) :
    (heard d).processInboundMsg d.length = (heard d, [.err (senderOf d).1 (textOf d)]) := by
  have type : (heard d).type = .err := by rw [heard_type, err]; rfl
  unfold UDPMessage.processInboundMsg
  rw [type]
  simp only [if_neg (show ¬ d.length < 7 by omega)]
  rfl

/-- A MSG or an ERR that is too short becomes an ERR. -/
theorem decode_short {d : Str} (chat : kind d = .msg ∨ kind d = .err) (short : d.length < 7) :
    (heard d).processInboundMsg d.length =
      ({ heard d with type := .err }, [.notice .unknownIncoming]) := by
  unfold UDPMessage.processInboundMsg
  rcases chat with chat | chat
  · rw [show (heard d).type = .msg by rw [heard_type, chat]; rfl]
    exact if_pos short
  · rw [show (heard d).type = .err by rw [heard_type, chat]; rfl]
    exact if_pos short

/-- CONFIRM, BYE and unknown datagrams are not decoded further. -/
theorem decode_plain {d : Str} (plain : kind d = .confirm ∨ kind d = .bye ∨ kind d = .invalid) :
    (heard d).processInboundMsg d.length = (heard d, []) := by
  unfold UDPMessage.processInboundMsg
  rcases plain with plain | plain | plain
  · rw [show (heard d).type = .confirm by rw [heard_type, plain]; rfl]
  · rw [show (heard d).type = .bye by rw [heard_type, plain]; rfl]
  · rw [show (heard d).type = .invalidMsg by rw [heard_type, plain]; rfl]

/-- Only a REPLY of at least eight bytes is decoded as one. -/
theorem reply_of_decoded {d : Str}
    (reply : ((heard d).processInboundMsg d.length).1.type = .replyOk ∨
      ((heard d).processInboundMsg d.length).1.type = .replyNok) :
    kind d = .reply ∧ 8 ≤ d.length := by
  cases isKind : kind d with
  | reply =>
    refine ⟨rfl, ?_⟩
    by_contra short
    rw [decode_reply_short isKind (by omega)] at reply
    simp at reply
  | msg =>
    by_cases long : 7 ≤ d.length
    · simp [decode_msg isKind long, isKind, Kind.type] at reply
    · simp [decode_short (Or.inl isKind) (by omega)] at reply
  | err =>
    by_cases long : 7 ≤ d.length
    · simp [decode_err isKind long, isKind, Kind.type] at reply
    · simp [decode_short (Or.inr isKind) (by omega)] at reply
  | confirm => simp [decode_plain (Or.inl isKind), isKind, Kind.type] at reply
  | bye => simp [decode_plain (Or.inr (Or.inl isKind)), isKind, Kind.type] at reply
  | invalid => simp [decode_plain (Or.inr (Or.inr isKind)), isKind, Kind.type] at reply

/-- A MSG or an ERR is printed, or the complaint about it is. -/
theorem decoded_chat_length {d : Str} (chat : kind d = .msg ∨ kind d = .err) :
    ((heard d).processInboundMsg d.length).2.length = 1 := by
  by_cases long : 7 ≤ d.length
  · rcases chat with msg | err
    · rw [decode_msg msg long]
      rfl
    · rw [decode_err err long]
      rfl
  · rw [decode_short chat (by omega)]
    rfl

/-- An ERR stays as it is, however short it is. -/
theorem decoded_err {d : Str} (err : kind d = .err) :
    ((heard d).processInboundMsg d.length).1 = heard d := by
  by_cases long : 7 ≤ d.length
  · rw [decode_err err long]
  · have type : (heard d).type = .err := by rw [heard_type, err]; rfl
    rw [decode_short (Or.inr err) (by omega), ← type]

end UDPClient

end Ipk24Chat
