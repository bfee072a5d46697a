/-
**What the UDP decoder reads: the datagram and nothing behind it.**

The decoder once more, as a computation that reads its buffer byte by byte (`Reads`), with the loops
and the order of the accesses as the source has them. `run_validateUniqueId` and
`run_processInboundMsg` say that it is the decoder of the model; `validateUniqueId_meets` and
`processInboundMsg_meets` follow its accesses.

* `decoding_reads_received`: every access lies inside the datagram, there are at most two for each
  byte of it, and what follows the datagram in the buffer does not change what is found.
-/

import Ipk24Chat.Lib.Access
import Ipk24Chat.Messages.Udp

namespace Ipk24Chat

open Access Access.Reads

/-- What the decoder finds in a datagram: the fields it sets, whether the message is skipped and what
is printed. -/
structure Findings where
  type : MsgType
  messageId : UInt16
  refMessageId : UInt16
  message : Str
  skipMessage : Bool
  printed : List Output
  deriving DecidableEq, Repr

/-- `validate_unique_id` followed by `process_inbound_msg`. -/
def UDPMessage.findings (m : UDPMessage) (bytesRx : Nat) (msgIds : List UInt16) : Findings :=
  let checked := m.validateUniqueId bytesRx msgIds
  let decoded := checked.msg.processInboundMsg bytesRx
  { type := decoded.1.type
    messageId := decoded.1.messageId
    refMessageId := decoded.1.refMessageId
    message := decoded.1.message
    skipMessage := checked.skipMessage
    printed := checked.printed ++ decoded.2 }

namespace Reading

/-- A computation that reads the `char buffer[BUFFER_SIZE]` of a message. -/
abbrev Decoder := Reads Nat UInt8

/-! ### The decoder, access by access -/

/-- `memcpy` of two bytes and `ntohs`. -/
def readU16 (offset : Nat) : Decoder UInt16 := do
  let high ← get offset
  let low ← get (offset + 1)
  return UInt16.ofNat (256 * high.toNat + low.toNat)

def validateUniqueId (m : UDPMessage) (bytesRx : Nat) (msgIds : List UInt16) : Decoder Validated :=
  if bytesRx < 3 then return ⟨{ m with type := .invalidMsg }, false, [.notice .unknownIncoming]⟩
  else do
    let typeToCompare ← get 0
    if typeToCompare = UDP_CONFIRM then
      let refMessageId ← readU16 1
      return ⟨{ m with type := .confirm, refMessageId := refMessageId }, false, []⟩
    else if typeToCompare = UDP_REPLY ∨ typeToCompare = UDP_MSG ∨ typeToCompare = UDP_ERR ∨
        typeToCompare = UDP_BYE then
      let type := if typeToCompare = UDP_REPLY then MsgType.replyOk
        else if typeToCompare = UDP_MSG then .msg
        else if typeToCompare = UDP_ERR then .err
        else .bye
      let messageId ← readU16 1
      return ⟨{ m with type := type, messageId := messageId }, messageId ∈ msgIds, []⟩
    else
      let refMessageId ← readU16 1
      return ⟨{ m with type := .invalidMsg, refMessageId := refMessageId }, false,
        [.notice .unknownIncoming]⟩

/-- `for (; start_pos < bytes_rx; start_pos++)`: the text is appended to what is there already. A byte
is read once for the comparison and once more for the append. -/
def textLoop (bytesRx startPos : Nat) (acquired : Str) : Decoder Str :=
  if startPos < bytesRx then do
    if (← get startPos) = 0 then return acquired
    else
      let c ← get startPos
      textLoop bytesRx (startPos + 1) (acquired ++ [c])
  else return acquired
termination_by bytesRx - startPos

/-- The loop over the display name: it compares at `start_pos` and appends from `i`. -/
def dnameLoop (bytesRx i startPos : Nat) (acquired : Str) : Decoder (Str × Nat) :=
  if i < bytesRx then do
    if (← get startPos) = 0 then return (acquired, startPos + 1)
    else
      let c ← get i
      dnameLoop bytesRx (i + 1) (startPos + 1) (acquired ++ [c])
  else return (acquired, startPos)
termination_by bytesRx - i

def processInboundMsg (m : UDPMessage) (bytesRx : Nat) : Decoder (UDPMessage × List Output) :=
  match m.type with
  | .invalidMsg | .confirm => return (m, [])
  | .replyOk =>
    if bytesRx < 8 then return ({ m with type := .invalidMsg }, [.notice .unknownIncoming])
    else do
      let result ← get 3
      let refMessageId ← readU16 4
      let message ← textLoop bytesRx 6
        (m.message ++ if result = 0 then bytes "Failure: " else bytes "Success: ")
      return ({ m with
        type := if result = 0 then .replyNok else .replyOk
        refMessageId := refMessageId
        message := message }, [])
  | .msg | .err =>
    if bytesRx < 7 then return ({ m with type := .err }, [.notice .unknownIncoming])
    else do
      let acquired ← dnameLoop bytesRx 3 3 []
      let acquiredMsg ← textLoop bytesRx acquired.2 []
      return (m, [if m.type = .msg then .msg acquired.1 acquiredMsg else .err acquired.1 acquiredMsg])
  | .bye => return (m, [])
  | _ => return ({ m with type := .invalidMsg }, [.notice .unknownIncomingDot])

/-- `validate_unique_id` followed by `process_inbound_msg`. -/
def decoding (m : UDPMessage) (bytesRx : Nat) (msgIds : List UInt16) : Decoder Findings := do
  let checked ← validateUniqueId m bytesRx msgIds
  let decoded ← processInboundMsg checked.msg bytesRx
  return {
    type := decoded.1.type
    messageId := decoded.1.messageId
    refMessageId := decoded.1.refMessageId
    message := decoded.1.message
    skipMessage := checked.skipMessage
    printed := checked.printed ++ decoded.2 }

/-! ### It is the decoder of the model -/

/-- The memory a buffer is. -/
abbrev memoryOf (buffer : Str) (i : Nat) : UInt8 := buffer.getD i 0

theorem run_readU16 (buffer : Str) (offset : Nat) :
    (readU16 offset).run (memoryOf buffer) = Ipk24Chat.readU16 buffer offset := by
  simp only [readU16, ↓run_get_bind, run_pure]
  rfl

theorem run_validateUniqueId (m : UDPMessage) (bytesRx : Nat) (msgIds : List UInt16) :
    (validateUniqueId m bytesRx msgIds).run (memoryOf m.buffer) =
      m.validateUniqueId bytesRx msgIds := by
  simp only [validateUniqueId, run_ite, ↓run_get_bind, run_bind, run_pure, run_readU16]
  rfl

theorem run_textLoop (buffer : Str) (bytesRx startPos : Nat) (acquired : Str) :
    (textLoop bytesRx startPos acquired).run (memoryOf buffer) =
      acquired ++ Ipk24Chat.textLoop buffer (bytesRx - startPos) startPos := by
  fun_induction textLoop bytesRx startPos acquired with
  | case1 startPos acquired more ih =>
    obtain ⟨rest, left⟩ : ∃ rest, bytesRx - startPos = rest + 1 := ⟨bytesRx - startPos - 1, by omega⟩
    have next : bytesRx - (startPos + 1) = rest := by omega
    simp only [run_ite, ↓run_get_bind, run_pure, ih, next, left, Ipk24Chat.textLoop, memoryOf]
    by_cases stop : buffer.getD startPos 0 = 0
    · rw [if_pos stop, if_pos stop, List.append_nil]
    · rw [if_neg stop, if_neg stop, List.append_assoc, List.singleton_append]
  | case2 startPos acquired ended =>
    have left : bytesRx - startPos = 0 := by omega
    rw [run_pure, left, Ipk24Chat.textLoop, List.append_nil]

theorem run_dnameLoop (buffer : Str) (bytesRx i startPos : Nat) (acquired : Str) :
    (dnameLoop bytesRx i startPos acquired).run (memoryOf buffer) =
      (acquired ++ (Ipk24Chat.dnameLoop buffer (bytesRx - i) i startPos).1,
        (Ipk24Chat.dnameLoop buffer (bytesRx - i) i startPos).2) := by
  fun_induction dnameLoop bytesRx i startPos acquired with
  | case1 i startPos acquired more ih =>
    obtain ⟨rest, left⟩ : ∃ rest, bytesRx - i = rest + 1 := ⟨bytesRx - i - 1, by omega⟩
    have next : bytesRx - (i + 1) = rest := by omega
    simp only [run_ite, ↓run_get_bind, run_pure, ih, next, left, Ipk24Chat.dnameLoop, memoryOf]
    by_cases stop : buffer.getD startPos 0 = 0
    · rw [if_pos stop, if_pos stop, List.append_nil]
    · rw [if_neg stop, if_neg stop, List.append_assoc, List.singleton_append]
  | case2 i startPos acquired ended =>
    have left : bytesRx - i = 0 := by omega
    rw [run_pure, left, Ipk24Chat.dnameLoop, List.append_nil]

theorem run_processInboundMsg (m : UDPMessage) (bytesRx : Nat) :
    (processInboundMsg m bytesRx).run (memoryOf m.buffer) = m.processInboundMsg bytesRx := by
  unfold processInboundMsg UDPMessage.processInboundMsg
  cases m.type <;>
    simp only [run_ite, ↓run_get_bind, run_bind, run_pure, run_readU16, run_textLoop, run_dnameLoop,
      List.nil_append, memoryOf]

/-- The decoder finds what the model finds. -/
theorem run_decoding (m : UDPMessage) (bytesRx : Nat) (msgIds : List UInt16) :
    (decoding m bytesRx msgIds).run (memoryOf m.buffer) = m.findings bytesRx msgIds := by
  have kept : (m.validateUniqueId bytesRx msgIds).msg.buffer = m.buffer := by
    unfold UDPMessage.validateUniqueId
    dsimp only
    split_ifs <;> rfl
  have decoded := run_processInboundMsg (m.validateUniqueId bytesRx msgIds).msg bytesRx
  rw [kept] at decoded
  simp only [decoding, run_bind, run_pure, run_validateUniqueId, decoded]
  rfl

/-! ### Where it reads -/

/-- Accesses inside the datagram, at most `count` of them. -/
structure Inside (bytesRx count : Nat) (places : List Nat) : Prop where
  below : ∀ i ∈ places, i < bytesRx
  length_le : places.length ≤ count

theorem Inside.nil {bytesRx count : Nat} : Inside bytesRx count [] :=
  ⟨fun _ none => absurd none List.not_mem_nil, Nat.zero_le count⟩

theorem Inside.one {bytesRx i : Nat} (below : i < bytesRx) : Inside bytesRx 1 [i] :=
  ⟨fun _ here => by rwa [List.mem_singleton.mp here], Nat.le_refl 1⟩

theorem Inside.append {bytesRx count more total : Nat} {places places' : List Nat}
    (first : Inside bytesRx count places) (second : Inside bytesRx more places')
    (enough : count + more ≤ total) : Inside bytesRx total (places ++ places') := by
  refine ⟨fun i accessed => ?_, ?_⟩
  · rcases List.mem_append.mp accessed with early | late
    · exact first.below i early
    · exact second.below i late
  · have left := first.length_le
    have right := second.length_le
    rw [List.length_append]
    omega

theorem readU16_meets {bytesRx offset : Nat} (below : offset + 1 < bytesRx) :
    Meets (readU16 offset) fun _ places => Inside bytesRx 2 places := by
  have first : Inside bytesRx 1 [offset] := .one (by omega)
  have second : Inside bytesRx 1 [offset + 1] := .one below
  intro memory
  exact first.append second (Nat.le_refl 2)

/-- The type byte and the id, or nothing. -/
theorem validateUniqueId_meets (m : UDPMessage) (bytesRx : Nat) (msgIds : List UInt16) :
    Meets (validateUniqueId m bytesRx msgIds) fun _ places => Inside bytesRx (min bytesRx 3) places := by
  unfold validateUniqueId
  by_cases short : bytesRx < 3
  · rw [if_pos short]
    exact .pure .nil
  rw [if_neg short]
  have type : Inside bytesRx 1 [0] := .one (by omega)
  have below : 1 + 1 < bytesRx := by omega
  refine .bind (.get fun _ => type) fun typeToCompare places first => ?_
  have id (a : UInt16 → Validated) : Meets (do let messageId ← readU16 1; return a messageId)
      fun _ more => Inside bytesRx (min bytesRx 3) (places ++ more) := by
    refine .bind (readU16_meets below) fun messageId more second => ?_
    refine .pure ?_
    rw [List.append_nil]
    exact first.append second (by omega)
  split
  · exact id _
  · split
    · exact id _
    · exact id _

/-- Two accesses for a byte that is appended, one for the NUL; the bound on the loop is checked before
either. -/
theorem textLoop_meets (bytesRx startPos : Nat) (acquired : Str) :
    Meets (textLoop bytesRx startPos acquired) fun _ places =>
      Inside bytesRx (2 * (bytesRx - startPos)) places := by
  fun_induction textLoop bytesRx startPos acquired with
  | case1 startPos acquired more ih =>
    have here : Inside bytesRx 1 [startPos] := .one more
    refine .bind (.get fun _ => here) fun compared places first => ?_
    split
    · refine .pure ?_
      rw [List.append_nil]
      exact ⟨first.below, by have := first.length_le; omega⟩
    · refine .bind (.get fun _ => here) fun c again second => ?_
      refine (ih c).imp fun _ rest third => ?_
      exact first.append (second.append third (Nat.le_refl _)) (by omega)
  | case2 startPos acquired ended => exact .pure .nil

/-- The two cursors go in step, so a byte that is appended is the one compared before. To the text the
loop leaves two accesses for every byte behind the display name. -/
theorem dnameLoop_meets {bytesRx i startPos : Nat} (inStep : startPos = i) (acquired : Str) :
    Meets (dnameLoop bytesRx i startPos acquired) fun name places =>
      ∃ count, Inside bytesRx count places ∧ count + 2 * (bytesRx - name.2) ≤ 2 * (bytesRx - i) := by
  fun_induction dnameLoop bytesRx i startPos acquired with
  | case1 i startPos acquired more ih =>
    have here : Inside bytesRx 1 [i] := .one more
    have compare : Inside bytesRx 1 [startPos] := by rwa [inStep]
    refine .bind (.get fun _ => compare) fun compared places first => ?_
    split
    · refine .pure ⟨1, ?_, by dsimp only; omega⟩
      rwa [List.append_nil]
    · refine .bind (.get fun _ => here) fun c again second => ?_
      refine (ih c (by omega)).imp fun name rest ⟨count, third, left⟩ => ⟨1 + (1 + count), ?_, by omega⟩
      exact first.append (second.append third (Nat.le_refl _)) (Nat.le_refl _)
  | case2 i startPos acquired ended =>
    refine .pure ⟨0, .nil, ?_⟩
    dsimp only
    omega

/-- A message that is too short for its type is not read at all. -/
theorem processInboundMsg_meets (m : UDPMessage) (bytesRx : Nat) :
    Meets (processInboundMsg m bytesRx) fun _ places =>
      Inside bytesRx (2 * (bytesRx - 3)) places := by
  unfold processInboundMsg
  cases m.type with
  | replyOk =>
    dsimp only
    split
    · exact .pure .nil
    · have result : Inside bytesRx 1 [3] := .one (by omega)
      have id : 4 + 1 < bytesRx := by omega
      refine .bind (.get fun _ => result) fun result places first => ?_
      refine .bind (readU16_meets id) fun refMessageId more second => ?_
      refine .bind (textLoop_meets bytesRx 6 _) fun message rest third => ?_
      refine .pure ?_
      rw [List.append_nil]
      exact first.append (second.append third (Nat.le_refl _)) (by omega)
  | msg | err =>
    dsimp only
    split
    · exact .pure .nil
    · refine .bind (dnameLoop_meets rfl []) fun acquired places ⟨count, first, left⟩ => ?_
      refine .bind (textLoop_meets bytesRx acquired.2 []) fun acquiredMsg more second => ?_
      refine .pure ?_
      rw [List.append_nil]
      exact first.append second left
  | _ => exact .pure .nil

theorem decoding_meets (m : UDPMessage) (bytesRx : Nat) (msgIds : List UInt16) :
    Meets (decoding m bytesRx msgIds) fun _ places => Inside bytesRx (2 * bytesRx) places := by
  refine .bind (validateUniqueId_meets m bytesRx msgIds) fun checked places first => ?_
  refine .bind (processInboundMsg_meets checked.msg bytesRx) fun decoded more second => ?_
  refine .pure ?_
  rw [List.append_nil]
  exact first.append second (by omega)

/-! ### The buffer behind the datagram -/

section Buffer

variable (m : UDPMessage) (buffer : Str) (bytesRx : Nat) (msgIds : List UInt16) (memory : Nat → UInt8)

theorem run_validateUniqueId_buffer :
    (validateUniqueId { m with buffer := buffer } bytesRx msgIds).run memory =
      let checked := (validateUniqueId m bytesRx msgIds).run memory
      { checked with msg := { checked.msg with buffer := buffer } } := by
  simp only [validateUniqueId, run_ite, ↓run_get_bind, run_bind, run_pure]
  split_ifs <;> rfl

theorem run_processInboundMsg_buffer :
    (processInboundMsg { m with buffer := buffer } bytesRx).run memory =
      let decoded := (processInboundMsg m bytesRx).run memory
      ({ decoded.1 with buffer := buffer }, decoded.2) := by
  obtain ⟨⟨type, readyToSend, displayName, message, old⟩, udpBuffer, messageId, refMessageId⟩ := m
  cases type <;> simp only [processInboundMsg, run_ite, ↓run_get_bind, run_bind, run_pure]
  all_goals split_ifs <;> rfl

/-- The decoder reads the memory, not the field that stands for it in the model. -/
theorem run_decoding_buffer :
    (decoding { m with buffer := buffer } bytesRx msgIds).run memory =
      (decoding m bytesRx msgIds).run memory := by
  simp only [decoding, run_bind, run_pure, run_validateUniqueId_buffer, run_processInboundMsg_buffer]

end Buffer

end Reading

open Reading

/-- **The decoder reads only what was received.** For every object, every datagram of `n` bytes in a
buffer of `BUFFER_SIZE` and every content of the buffer: the accesses lie below `n`, and there are at
most `2 * n` of them. What is found is the same in all memories that agree on the first `n` bytes, and
it is what the model finds in any buffer that begins with them. -/
theorem decoding_reads_received (m : UDPMessage) (msgIds : List UInt16) {n : Nat}
    (fits : n ≤ BUFFER_SIZE) (memory : Nat → UInt8) :
    (∀ i ∈ (decoding m n msgIds).accesses memory, i < n ∧ i < BUFFER_SIZE) ∧
      ((decoding m n msgIds).accesses memory).length ≤ 2 * n ∧
      (∀ memory' : Nat → UInt8, (∀ i < n, memory' i = memory i) →
        (decoding m n msgIds).run memory' = (decoding m n msgIds).run memory) ∧
      ∀ buffer : Str, (∀ i < n, buffer.getD i 0 = memory i) →
        UDPMessage.findings { m with buffer := buffer } n msgIds =
          (decoding m n msgIds).run memory := by
  have inside := decoding_meets m n msgIds memory
  have confined (memory' : Nat → UInt8) (agree : ∀ i < n, memory' i = memory i) :
      (decoding m n msgIds).run memory' = (decoding m n msgIds).run memory := by
    have within := (decoding_meets m n msgIds).imp fun _ _ inside => inside.below
    exact (within.confined agree).1
  refine ⟨fun i accessed => ?_, inside.length_le, confined, fun buffer agree => ?_⟩
  · have below := inside.below i accessed
    exact ⟨below, Nat.lt_of_lt_of_le below fits⟩
  · rw [← run_decoding, run_decoding_buffer]
    exact confined _ agree

/-- A REPLY of eight bytes over the rest of a longer datagram. -/
theorem decoding_reads_received_reply :
    UDPMessage.findings
        { UDPMessage.new [] .toBeDecided 65535 with buffer := [1, 0, 7, 1, 0, 3, 111, 107, 33, 33] }
        8 [] =
      (decoding (.new [] .toBeDecided 65535) 8 []).run (memoryOf [1, 0, 7, 1, 0, 3, 111, 107]) :=
  (decoding_reads_received _ [] (by decide) _).2.2.2 _ (by decide)

end Ipk24Chat
