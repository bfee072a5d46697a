/-
**What the UDP encoder writes for a line of the user.**

`udpBuffer_userCmd` compares the bytes with the layout of the message, for every line;
`processOutgoingMsg_frame` says that the rest of the message is what the validation leaves.
`readU16_idBytes`: the two bytes of an id, written by shift and mask, are read back by `ntohs`.
-/

import Ipk24Chat.Protocol.Request

namespace Ipk24Chat

/-! ### Ids on the wire -/

theorem idBytes_high (id : UInt16) : ((id >>> 8).toUInt8).toNat = id.toNat / 256 := by
  have bound := id.toNat_lt
  rw [UInt16.toNat_toUInt8, UInt16.toNat_shiftRight]
  show id.toNat >>> 8 % 2 ^ 8 = _
  rw [Nat.shiftRight_eq_div_pow]
  omega

theorem idBytes_low (id : UInt16) : ((id &&& 0xFF).toUInt8).toNat = id.toNat % 256 := by
  rw [UInt16.toNat_toUInt8, UInt16.toNat_and]
  show (id.toNat &&& (2 ^ 8 - 1)) % 2 ^ 8 = _
  rw [Nat.and_two_pow_sub_one_eq_mod]
  omega

/-- **An id is read back** where it was written. -/
theorem readU16_idBytes (before : Str) (id : UInt16) (after : Str) :
    readU16 (before ++ (idBytes id ++ after)) before.length = id := by
  have high : (before ++ (idBytes id ++ after)).getD before.length 0 = (id >>> 8).toUInt8 := by
    simp [idBytes, List.getD]
  have low : (before ++ (idBytes id ++ after)).getD (before.length + 1) 0 =
      (id &&& 0xFF).toUInt8 := by
    simp [idBytes, List.getD]
  unfold readU16
  rw [high, low, idBytes_high, idBytes_low]
  apply UInt16.toNat_inj.mp
  have bound := id.toNat_lt
  have inside : 256 * (id.toNat / 256) + id.toNat % 256 < UInt16.size := by
    show _ < 65536
    omega
  rw [UInt16.toNat_ofNat_of_lt' inside]
  exact Nat.div_add_mod _ _

/-! ### Lines -/

namespace UDPMessage

/-- The message built from a line, before the encoder runs. -/
def ofLine (name line : Str) (id : UInt16) : UDPMessage :=
  (UDPMessage.new line .userCmd id).setDisplayName name

theorem ofLine_checks (name line : Str) (id : UInt16) :
    Checks (ofLine name line id).toNetworkMessage (command line)
      (ofLine name line id).toNetworkMessage.checkUserMessage :=
  checkUserMessage_checks rfl

/-- The encoder only fills the buffer of the message that the validation leaves. -/
theorem processOutgoingMsg_frame {m : UDPMessage} (user : m.type = .userCmd) : ∃ buffer,
    m.processOutgoingMsg =
      ({ m with toNetworkMessage := m.checkUserMessage.msg, udpBuffer := buffer },
        m.checkUserMessage.printed) := by
  unfold processOutgoingMsg
  rw [user, if_neg (by decide)]
  simp only
  split
  · exact ⟨m.udpBuffer, rfl⟩
  · exact ⟨_, rfl⟩

/-- **The datagram of a command is the layout of its message.** -/
theorem udpBuffer_userCmd (name line : Str) (id : UInt16) :
    (ofLine name line id).processOutgoingMsg.1.udpBuffer =
      ((command line).request name line).elim [] (Request.udp id) := by
  have checks := ofLine_checks name line id
  have user : (ofLine name line id).type = .userCmd := rfl
  unfold processOutgoingMsg
  rw [user, if_neg (by decide)]
  generalize (ofLine name line id).toNetworkMessage.checkUserMessage = checked at checks ⊢
  generalize command line = c at checks ⊢
  cases checks <;> rfl

end UDPMessage

end Ipk24Chat
