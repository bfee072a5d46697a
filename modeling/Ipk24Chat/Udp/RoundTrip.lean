/-
**UDP datagrams, encoded and decoded.**

The decoder finds the fields with cursors: `textLoop_field` and `dnameLoop_field` say that each loop
stops at the NUL behind the field it is put in front of.

* `chat_read_back`: a `MSG` or an `ERR` is read back with its type, its id, its sender and its text;
* `reply_read_back`: so is a `REPLY`, with the id it answers and its result;
* `udp_round_trip`: both, for every id, every seen list and every length that fits.
-/

import Ipk24Chat.Tcp.RoundTrip
import Ipk24Chat.Udp.Datagram
import Ipk24Chat.Udp.Encoding

namespace Ipk24Chat

open UDPClient

/-! ### The cursors -/

/-- The byte at the cursor. -/
theorem getD_front (before : Str) (c : UInt8) (after : Str) :
    (before ++ c :: after).getD before.length 0 = c := by
  simp [List.getD]

/-- **The loop over the text** stops at the first NUL. -/
theorem textLoop_field {field : Str} (clean : (0 : UInt8) ∉ field) (before after : Str)
    {remaining : Nat} (enough : field.length ≤ remaining) :
    textLoop (before ++ (field ++ 0 :: after)) remaining before.length = field := by
  induction field generalizing before remaining with
  | nil =>
    cases remaining with
    | zero => rfl
    | succ remaining => exact if_pos (getD_front before 0 after)
  | cons c rest ih =>
    have other : (0 : UInt8) ≠ c := List.ne_of_not_mem_cons clean
    have clear : (0 : UInt8) ∉ rest := List.not_mem_of_not_mem_cons clean
    cases remaining with
    | zero => exact absurd enough (Nat.not_succ_le_zero _)
    | succ remaining =>
      have here : (before ++ (c :: rest ++ 0 :: after)).getD before.length 0 = c :=
        getD_front before c (rest ++ 0 :: after)
      have there := ih clear (before ++ [c]) (Nat.le_of_succ_le_succ enough)
      rw [List.append_assoc, List.length_append] at there
      rw [textLoop, here, if_neg other.symm]
      exact congrArg (c :: ·) there

/-- **The loop over the display name**, which starts with both cursors at one place, leaves the
second one behind the NUL. -/
theorem dnameLoop_field {field : Str} (clean : (0 : UInt8) ∉ field) (before after : Str)
    {remaining : Nat} (enough : field.length < remaining) :
    dnameLoop (before ++ (field ++ 0 :: after)) remaining before.length before.length =
      (field, before.length + field.length + 1) := by
  induction field generalizing before remaining with
  | nil =>
    cases remaining with
    | zero => exact absurd enough (Nat.not_lt_zero _)
    | succ remaining => exact if_pos (getD_front before 0 after)
  | cons c rest ih =>
    have other : (0 : UInt8) ≠ c := List.ne_of_not_mem_cons clean
    have clear : (0 : UInt8) ∉ rest := List.not_mem_of_not_mem_cons clean
    cases remaining with
    | zero => exact absurd enough (Nat.not_lt_zero _)
    | succ remaining =>
      have here : (before ++ (c :: rest ++ 0 :: after)).getD before.length 0 = c :=
        getD_front before c (rest ++ 0 :: after)
      have there := ih clear (before ++ [c]) (Nat.lt_of_succ_lt_succ enough)
      rw [List.append_assoc, List.length_append] at there
      rw [dnameLoop, here, if_neg other.symm]
      refine (congrArg (fun r => (c :: r.1, r.2)) there).trans ?_
      simp only [List.length_cons, List.length_nil]
      congr 1
      omega

/-! ### Datagrams -/

/-- The kind of a datagram with an id. -/
theorem kind_layout (code : UInt8) (id : UInt16) (rest : Str) :
    kind ([code] ++ (idBytes id ++ rest)) = kind [code, 0, 0] := by
  have long : ¬ ([code] ++ (idBytes id ++ rest)).length < 3 := by
    simp [idBytes]
  have three : ¬ [code, 0, 0].length < 3 := Nat.lt_irrefl 3
  unfold kind
  rw [if_neg long, if_neg three]
  rfl

/-- The id of a datagram. -/
theorem msgId_layout (code : UInt8) (id : UInt16) (rest : Str) :
    msgId ([code] ++ (idBytes id ++ rest)) = id :=
  readU16_idBytes [code] id rest

/-- **The classification of a numbered datagram**, for every list of seen ids. -/
theorem classified_layout {code : UInt8} (numbered : (kind [code, 0, 0]).numbered = true)
    (id : UInt16) (rest : Str) (msgIds : List UInt16) :
    (inboundMsg ([code] ++ (idBytes id ++ rest))).validateUniqueId
        ([code] ++ (idBytes id ++ rest)).length msgIds =
      ⟨heard ([code] ++ (idBytes id ++ rest)), decide (id ∈ msgIds), []⟩ := by
  have classification := classified_eq { UDPClient.new 0 0 with seenIds := msgIds }
    ([code] ++ (idBytes id ++ rest))
  have known : kind ([code] ++ (idBytes id ++ rest)) ≠ .invalid := by
    rw [kind_layout]
    intro invalid
    rw [invalid] at numbered
    cases numbered
  rw [if_neg known] at classification
  refine classification.trans ?_
  congr 1
  simp only [Seen, kind_layout, msgId_layout, numbered, true_and]

/-- The datagram of a message that names its sender. -/
def chatDatagram (code : UInt8) (id : UInt16) (name text : Str) : Str :=
  [code] ++ (idBytes id ++ (name ++ 0 :: (text ++ [0])))

theorem length_chatDatagram (code : UInt8) (id : UInt16) (name text : Str) :
    (chatDatagram code id name text).length = name.length + text.length + 5 := by
  simp only [chatDatagram, idBytes, List.length_append, List.length_cons, List.length_nil]
  omega

theorem senderOf_chatDatagram (code : UInt8) (id : UInt16) {name : Str}
    (named : (0 : UInt8) ∉ name) (text : Str) :
    senderOf (chatDatagram code id name text) = (name, name.length + 4) := by
  have enough : name.length < (chatDatagram code id name text).length - 3 := by
    rw [length_chatDatagram]
    omega
  have found := dnameLoop_field named ([code] ++ idBytes id) (text ++ [0]) enough
  rw [List.append_assoc] at found
  refine found.trans ?_
  congr 1
  show 3 + name.length + 1 = name.length + 4
  omega

theorem textOf_chatDatagram (code : UInt8) (id : UInt16) {name text : Str}
    (named : (0 : UInt8) ∉ name) (clean : (0 : UInt8) ∉ text) :
    textOf (chatDatagram code id name text) = text := by
  have layout : chatDatagram code id name text =
      ([code] ++ idBytes id ++ name ++ [0]) ++ (text ++ 0 :: []) := by
    simp [chatDatagram]
  have width : ([code] ++ idBytes id ++ name ++ [0]).length = name.length + 4 := by
    simp only [idBytes, List.length_append, List.length_cons, List.length_nil]
    omega
  unfold textOf
  rw [senderOf_chatDatagram code id named text, length_chatDatagram]
  have found := textLoop_field clean ([code] ++ idBytes id ++ name ++ [0]) []
    (show text.length ≤ name.length + text.length + 5 - (name.length + 4) by omega)
  rw [width, ← layout] at found
  exact found

/-! ### `MSG` and `ERR` -/

/-- The type byte of a message that names its sender. -/
def chatCode (type : MsgType) : UInt8 := if type = .err then UDP_ERR else UDP_MSG

/-- What the encoder makes of a message with an id. -/
def UDPMessage.encoded (built : MsgType) (name text : Str) (id : UInt16) : Str :=
  ((UDPMessage.new text built id).setDisplayName name).processOutgoingMsg.1.udpBuffer

/-- **The encoder writes the layout.** -/
theorem Built.encoded_udp {text : Str} {built type : MsgType} (how : Built text built type)
    (name : Str) (id : UInt16) :
    UDPMessage.encoded built name text id = chatDatagram (chatCode type) id name text := by
  cases how with
  | typed isText =>
    refine (UDPMessage.udpBuffer_userCmd name text id).trans ?_
    rw [isText]
    simp [Command.request, Request.udp, chatDatagram, chatCode]
  | msg =>
    have checked : ((UDPMessage.new text .msg id).setDisplayName name).checkUserMessage =
        ⟨{ (NetworkMessage.new text .msg).setDisplayName name with readyToSend := true },
          [], true, []⟩ :=
      checkFragments_msg _ _ rfl 1 [] []
    unfold UDPMessage.encoded UDPMessage.processOutgoingMsg
    rw [checked]
    simp [chatDatagram, chatCode, UDPMessage.new, UDPMessage.setDisplayName, NetworkMessage.new,
      NetworkMessage.setDisplayName, UDPMessage.encode]
  | customErr =>
    simp [UDPMessage.encoded, UDPMessage.processOutgoingMsg, chatDatagram, chatCode, UDPMessage.new,
      UDPMessage.setDisplayName, NetworkMessage.new, UDPMessage.encode]

/-- A field that a datagram can carry: it has no NUL and is not empty. -/
def Carried (field : Str) : Prop := (0 : UInt8) ∉ field ∧ field ≠ []

/-- What `validate_unique_id` makes of a received datagram, with a list of seen ids. -/
def validated (received : Received) (msgIds : List UInt16) : Validated :=
  (inboundMsg received.buffer).validateUniqueId received.buffer.length msgIds

/-- What `process_inbound_msg` makes of the result. -/
def processed (received : Received) (msgIds : List UInt16) : UDPMessage × List Output :=
  (validated received msgIds).msg.processInboundMsg received.buffer.length

/-- The type and the id have been read, and the message is skipped when the id has been seen. -/
structure ReadAs (v : Validated) (msgIds : List UInt16) (type : MsgType) (id : UInt16) : Prop where
  type : v.msg.type = type
  messageId : v.msg.messageId = id
  skipMessage : v.skipMessage = decide (id ∈ msgIds)
  printed : v.printed = []

/-- A datagram that fits is received whole. -/
theorem buffer_of_fits {d : Str} (fits : d.length ≤ BUFFER_SIZE) (port : UInt16) (errno : Errno) :
    (Received.datagram d port errno).buffer = d := List.take_of_length_le fits

/-- A numbered datagram is read with its type and its id. -/
theorem readAs_layout {code : UInt8} (numbered : (kind [code, 0, 0]).numbered = true) (id : UInt16)
    (rest : Str) (msgIds : List UInt16) :
    ReadAs ⟨heard ([code] ++ (idBytes id ++ rest)), decide (id ∈ msgIds), []⟩ msgIds
      (kind [code, 0, 0]).type id := by
  have isKind := kind_layout code id rest
  refine ⟨?_, ?_, rfl, rfl⟩
  · rw [heard_type, isKind]
  · rw [heard_messageId (by rw [isKind]; exact numbered), msgId_layout]

theorem chatCode_numbered (type : MsgType) : (kind [chatCode type, 0, 0]).numbered = true := by
  unfold chatCode
  split
  · rfl
  · rfl

theorem chatCode_type {type : MsgType} (chat : Chat type) : (kind [chatCode type, 0, 0]).type = type := by
  rcases chat with rfl | rfl
  · rfl
  · rfl

/-- The decoder displays the sender and the text. -/
theorem decode_chatDatagram {type : MsgType} (chat : Chat type) {name text : Str} (id : UInt16)
    (named : (0 : UInt8) ∉ name) (clean : (0 : UInt8) ∉ text)
    (long : 7 ≤ (chatDatagram (chatCode type) id name text).length) :
    (heard (chatDatagram (chatCode type) id name text)).processInboundMsg
        (chatDatagram (chatCode type) id name text).length =
      (heard (chatDatagram (chatCode type) id name text), [shown type name text]) := by
  have sender := senderOf_chatDatagram (chatCode type) id named text
  have body := textOf_chatDatagram (chatCode type) id named clean
  have isKind : kind (chatDatagram (chatCode type) id name text) = kind [chatCode type, 0, 0] :=
    kind_layout _ id _
  rcases chat with rfl | rfl
  · rw [decode_msg isKind long, sender, body]
    rfl
  · rw [decode_err isKind long, sender, body]
    rfl

/-- **A `MSG` or an `ERR` is read back.** -/
theorem chat_read_back {text : Str} {built type : MsgType} (how : Built text built type) {name : Str}
    (named : Carried name) (clean : Carried text) (id : UInt16)
    (fits : (UDPMessage.encoded built name text id).length ≤ BUFFER_SIZE) (port : UInt16)
    (errno : Errno) (msgIds : List UInt16) {received : Received}
    (arrives : received = .datagram (UDPMessage.encoded built name text id) port errno) :
    ReadAs (validated received msgIds) msgIds type id ∧
      processed received msgIds = ((validated received msgIds).msg, [shown type name text]) := by
  subst arrives
  have long : 7 ≤ (chatDatagram (chatCode type) id name text).length := by
    have := List.length_pos_of_ne_nil named.2
    have := List.length_pos_of_ne_nil clean.2
    rw [length_chatDatagram]
    omega
  unfold processed validated
  rw [buffer_of_fits fits, how.encoded_udp]
  have classification := classified_layout (chatCode_numbered type) id (name ++ 0 :: (text ++ [0])) msgIds
  have readAs := readAs_layout (chatCode_numbered type) id (name ++ 0 :: (text ++ [0])) msgIds
  rw [chatCode_type how.chat] at readAs
  rw [chatDatagram, classification]
  exact ⟨readAs, decode_chatDatagram how.chat id named.1 clean.1 long⟩

/-! ### `REPLY` -/

/-- The datagram of a `REPLY`. -/
def replyLayout (id : UInt16) (result : UInt8) (ref : UInt16) (text : Str) : Str :=
  [UDP_REPLY] ++ (idBytes id ++ ([result] ++ idBytes ref ++ text ++ [0]))

theorem length_replyLayout (id : UInt16) (result : UInt8) (ref : UInt16) (text : Str) :
    (replyLayout id result ref text).length = text.length + 7 := by
  simp only [replyLayout, idBytes, List.length_append, List.length_cons, List.length_nil]
  omega

theorem result_replyLayout (id : UInt16) (result : UInt8) (ref : UInt16) (text : Str) :
    (replyLayout id result ref text).getD 3 0 = result := by
  simp [replyLayout, idBytes, List.getD]

theorem replyRef_replyLayout (id : UInt16) (result : UInt8) (ref : UInt16) (text : Str) :
    replyRef (replyLayout id result ref text) = ref := by
  have layout : replyLayout id result ref text =
      ([UDP_REPLY] ++ idBytes id ++ [result]) ++ (idBytes ref ++ (text ++ [0])) := by
    simp [replyLayout]
  rw [layout]
  exact readU16_idBytes ([UDP_REPLY] ++ idBytes id ++ [result]) ref (text ++ [0])

theorem text_replyLayout (id : UInt16) (result : UInt8) (ref : UInt16) {text : Str}
    (clean : (0 : UInt8) ∉ text) :
    textLoop (replyLayout id result ref text) ((replyLayout id result ref text).length - 6) 6 =
      text := by
  have layout : replyLayout id result ref text =
      ([UDP_REPLY] ++ idBytes id ++ [result] ++ idBytes ref) ++ (text ++ 0 :: []) := by
    simp [replyLayout]
  have found := textLoop_field clean ([UDP_REPLY] ++ idBytes id ++ [result] ++ idBytes ref) []
    (show text.length ≤ text.length + 7 - 6 by omega)
  rw [← layout] at found
  rw [length_replyLayout]
  exact found

/-- The text under which a result is displayed. -/
def resultLabel (result : UInt8) : Str :=
  if result = 0 then bytes "Failure: " else bytes "Success: "

/-- **A `REPLY` is read back.** -/
theorem reply_read_back {text : Str} (clean : Carried text) (id : UInt16)
    (result : UInt8) (ref : UInt16) (fits : (replyLayout id result ref text).length ≤ BUFFER_SIZE)
    (port : UInt16) (errno : Errno) (msgIds : List UInt16) {received : Received}
    (arrives : received = .datagram (replyLayout id result ref text) port errno) :
    ReadAs (validated received msgIds) msgIds .replyOk id ∧
      processed received msgIds =
        ({ (validated received msgIds).msg with
            type := if result = 0 then .replyNok else .replyOk
            refMessageId := ref
            message := resultLabel result ++ text }, []) := by
  subst arrives
  have long : 8 ≤ (replyLayout id result ref text).length := by
    have := List.length_pos_of_ne_nil clean.2
    rw [length_replyLayout]
    omega
  have numbered : (kind [UDP_REPLY, 0, 0]).numbered = true := rfl
  have isKind : kind (replyLayout id result ref text) = .reply := kind_layout UDP_REPLY id _
  have classification := classified_layout numbered id ([result] ++ idBytes ref ++ text ++ [0]) msgIds
  have readAs := readAs_layout numbered id ([result] ++ idBytes ref ++ text ++ [0]) msgIds
  unfold processed validated
  rw [buffer_of_fits fits, show (inboundMsg (replyLayout id result ref text)).validateUniqueId
    (replyLayout id result ref text).length msgIds = _ from classification]
  refine ⟨readAs, (decode_reply isKind long).trans ?_⟩
  unfold replyMsg replyType
  rw [result_replyLayout, replyRef_replyLayout, text_replyLayout id result ref clean.1]
  rfl

/-! ### Both -/

/-- **Round trip**: what the encoder writes for a `MSG` or an `ERR` is read back, and so is every
`REPLY` of the server. -/
theorem udp_round_trip (id : UInt16) (msgIds : List UInt16) (port : UInt16) (errno : Errno)
    {received : Received} {text : Str} (clean : Carried text) :
    (∀ {built type : MsgType} {name : Str}, Built text built type → Carried name →
      (UDPMessage.encoded built name text id).length ≤ BUFFER_SIZE →
      received = .datagram (UDPMessage.encoded built name text id) port errno →
      ReadAs (validated received msgIds) msgIds type id ∧
        processed received msgIds = ((validated received msgIds).msg, [shown type name text])) ∧
    (∀ (result : UInt8) (ref : UInt16), (replyLayout id result ref text).length ≤ BUFFER_SIZE →
      received = .datagram (replyLayout id result ref text) port errno →
      ReadAs (validated received msgIds) msgIds .replyOk id ∧
        processed received msgIds =
          ({ (validated received msgIds).msg with
              type := if result = 0 then .replyNok else .replyOk
              refMessageId := ref
              message := resultLabel result ++ text }, [])) := by
  constructor
  · intro built type name how named fits arrives
    exact chat_read_back how named clean id fits port errno msgIds arrives
  · intro result ref fits arrives
    exact reply_read_back clean id result ref fits port errno msgIds arrives

/-- The shortest `MSG`, whose bytes are above 127. -/
theorem udp_round_trip_shortest :
    (UDPMessage.encoded .msg [200] [255] 513).length = 7 ∧
      processed (.datagram (UDPMessage.encoded .msg [200] [255] 513) 4567 .EAGAIN) [512] =
        ((validated (.datagram (UDPMessage.encoded .msg [200] [255] 513) 4567 .EAGAIN) [512]).msg,
          [.msg [200] [255]]) := by
  have clean : Carried [255] := ⟨by decide, by decide⟩
  exact ⟨by decide, ((udp_round_trip 513 [512] 4567 .EAGAIN clean).1 .msg ⟨by decide, by decide⟩
    (by decide) rfl).2⟩

end Ipk24Chat
