/-
**The wire formats are unambiguous.**

`Outgoing` is a message the client can send, with its fields, and `SentTcp` and `SentUdp` say which
objects of the source are built for it. The layouts separate their fields with blanks or NULs, which
the validators keep out of every field but a text, and the text comes last.

* `tcp_injective`, `udp_injective`: the layouts determine the message, and a datagram its id;
* `unambiguous`: two objects with the same output buffer are built for the same message.
-/

import Ipk24Chat.Wire.CommandLanguage

namespace Ipk24Chat

open Scan

/-! ### Messages -/

/-- A message the client can send. -/
inductive Outgoing
  | request (r : Request)
  | err (displayName text : Str)
  | bye
  | confirm
  deriving DecidableEq, Repr

/-- The validators have accepted the fields that are not texts. -/
def Outgoing.Validated : Outgoing → Prop
  | .request (.auth u d s) => validateMsgParam u .id = true ∧ validateMsgParam d .dname = true ∧
      validateMsgParam s .secret = true
  | .request (.join c d) => validateMsgParam c .id = true ∧ validateMsgParam d .dname = true
  | .request (.msg d t) => validateMsgParam d .dname = true ∧ validateMsgParam t .msg = true
  | .err d _ => validateMsgParam d .dname = true
  | _ => True

/-- The line of a message; a CONFIRM has none. -/
def Outgoing.tcp : Outgoing → Str
  | .request r => r.tcp
  | .err d t => chatLine (bytes "ERR") d t
  | .bye => bytes "BYE" ++ [13, 10]
  | .confirm => []

/-- The datagram of a message. -/
def Outgoing.udp (id : UInt16) : Outgoing → Str
  | .request r => r.udp id
  | .err d t => [UDP_ERR] ++ idBytes id ++ d ++ [0] ++ t ++ [0]
  | .bye => [UDP_BYE] ++ idBytes id
  | .confirm => [UDP_CONFIRM] ++ idBytes id

theorem Speaks.validated {name line : Str} {r : Request} (speaks : Speaks name line r)
    (named : validateMsgParam name .dname = true) : (Outgoing.request r).Validated := by
  cases speaks with
  | auth _ user secret display => exact ⟨user, display, secret⟩
  | join _ channel => exact ⟨channel, named⟩
  | msg _ _ short printable => exact ⟨named, (validate_msg_iff line).mpr ⟨short, printable⟩⟩

/-- Two messages of one kind. -/
inductive SameKind : Outgoing → Outgoing → Prop
  | auth (u d s u' d' s' : Str) :
      SameKind (.request (.auth u d s)) (.request (.auth u' d' s'))
  | join (c d c' d' : Str) : SameKind (.request (.join c d)) (.request (.join c' d'))
  | msg (d t d' t' : Str) : SameKind (.request (.msg d t)) (.request (.msg d' t'))
  | err (d t d' t' : Str) : SameKind (.err d t) (.err d' t')
  | bye : SameKind .bye .bye
  | confirm : SameKind .confirm .confirm

/-- The type byte of a datagram. -/
def Outgoing.code : Outgoing → UInt8
  | .request (.auth _ _ _) => UDP_AUTH
  | .request (.join _ _) => UDP_JOIN
  | .request (.msg _ _) => UDP_MSG
  | .err _ _ => UDP_ERR
  | .bye => UDP_BYE
  | .confirm => UDP_CONFIRM

/-- **The type byte tells the kinds apart.** -/
theorem sameKind_of_code {o o' : Outgoing} (same : o.code = o'.code) : SameKind o o' := by
  have other : ∀ {c c' : UInt8}, c = c' → (c == c') = false → SameKind o o' := by
    intro c c' equal different
    rw [beq_eq_false_iff_ne] at different
    exact absurd equal different
  cases o with
  | bye => cases o' with
    | bye => exact .bye
    | request r' => cases r' <;> exact other same rfl
    | _ => exact other same rfl
  | confirm => cases o' with
    | confirm => exact .confirm
    | request r' => cases r' <;> exact other same rfl
    | _ => exact other same rfl
  | err d t => cases o' with
    | err d' t' => exact .err d t d' t'
    | request r' => cases r' <;> exact other same rfl
    | _ => exact other same rfl
  | request r => cases r with
    | auth u d s => cases o' with
      | request r' => cases r' with
        | auth u' d' s' => exact .auth u d s u' d' s'
        | _ => exact other same rfl
      | _ => exact other same rfl
    | join c d => cases o' with
      | request r' => cases r' with
        | join c' d' => exact .join c d c' d'
        | _ => exact other same rfl
      | _ => exact other same rfl
    | msg d t => cases o' with
      | request r' => cases r' with
        | msg d' t' => exact .msg d t d' t'
        | _ => exact other same rfl
      | _ => exact other same rfl

/-! ### Separators -/

/-- A valid parameter that is not a text has no blank. -/
theorem blank_not_mem {pattern : Pattern} {parameter : Str} (word : pattern ≠ .msg)
    (valid : validateMsgParam parameter pattern = true) : (32 : UInt8) ∉ parameter := by
  intro member
  cases pattern with
  | msg => exact word rfl
  | id =>
    simp only [validateMsgParam, Bool.and_eq_true, List.all_eq_true] at valid
    exact absurd (valid.2 32 member) (by decide)
  | secret =>
    simp only [validateMsgParam, Bool.and_eq_true, List.all_eq_true] at valid
    exact absurd (valid.2 32 member) (by decide)
  | dname =>
    simp only [validateMsgParam, Bool.and_eq_true, List.all_eq_true] at valid
    exact absurd (valid.2 32 member) (by decide)

/-! ### The TCP lines -/

/-- A line that names its sender, cut at its separators. -/
theorem chatLine_inj {label name text name' text' : Str} (named : (32 : UInt8) ∉ name)
    (named' : (32 : UInt8) ∉ name') (same : chatLine label name text = chatLine label name' text') :
    name = name' ∧ text = text' := by
  have cut : ∀ n t : Str, chatLine label n t =
      (label ++ bytes " FROM ") ++ (n ++ 32 :: (bytes "IS " ++ (t ++ [13, 10]))) := by
    intro n t
    simp [chatLine, bytes]
  rw [cut, cut] at same
  obtain ⟨rfl, rest⟩ := cut_inj named named' (List.append_cancel_left same)
  exact ⟨rfl, List.append_cancel_right (List.append_cancel_left rest)⟩

theorem auth_tcp_inj {u d s u' d' s' : Str} (user : (32 : UInt8) ∉ u) (user' : (32 : UInt8) ∉ u')
    (display : (32 : UInt8) ∉ d) (display' : (32 : UInt8) ∉ d')
    (same : (Request.auth u d s).tcp = (Request.auth u' d' s').tcp) :
    u = u' ∧ d = d' ∧ s = s' := by
  have cut : ∀ a b c : Str, (Request.auth a b c).tcp = bytes "AUTH " ++
      (a ++ 32 :: (bytes "AS " ++ (b ++ 32 :: (bytes "USING " ++ (c ++ [13, 10]))))) := by
    intro a b c
    simp [Request.tcp, bytes]
  rw [cut, cut] at same
  obtain ⟨rfl, behind⟩ := cut_inj user user' (List.append_cancel_left same)
  obtain ⟨rfl, last⟩ := cut_inj display display' (List.append_cancel_left behind)
  exact ⟨rfl, rfl, List.append_cancel_right (List.append_cancel_left last)⟩

theorem join_tcp_inj {c d c' d' : Str} (channel : (32 : UInt8) ∉ c) (channel' : (32 : UInt8) ∉ c')
    (same : (Request.join c d).tcp = (Request.join c' d').tcp) : c = c' ∧ d = d' := by
  have cut : ∀ a b : Str, (Request.join a b).tcp =
      bytes "JOIN " ++ (a ++ 32 :: (bytes "AS " ++ (b ++ [13, 10]))) := by
    intro a b
    simp [Request.tcp, bytes]
  rw [cut, cut] at same
  obtain ⟨rfl, rest⟩ := cut_inj channel channel' (List.append_cancel_left same)
  exact ⟨rfl, List.append_cancel_right (List.append_cancel_left rest)⟩

/-- The type byte a first letter stands for. -/
def codeOf : Option UInt8 → UInt8
  | none => UDP_CONFIRM
  | some letter =>
    if letter = chr 'A' then UDP_AUTH
    else if letter = chr 'J' then UDP_JOIN
    else if letter = chr 'M' then UDP_MSG
    else if letter = chr 'E' then UDP_ERR
    else UDP_BYE

/-- The first letter of a line tells the kinds apart as the type byte of a datagram does. -/
theorem codeOf_head (o : Outgoing) : codeOf o.tcp.head? = o.code := by
  cases o with
  | request r => cases r <;> rfl
  | err d t => rfl
  | bye => rfl
  | confirm => rfl

/-- **The lines determine the message.** -/
theorem tcp_injective {o o' : Outgoing} (valid : o.Validated) (valid' : o'.Validated)
    (same : o.tcp = o'.tcp) : o = o' := by
  have kinds : SameKind o o' := by
    apply sameKind_of_code
    rw [← codeOf_head, ← codeOf_head, same]
  cases kinds with
  | auth u d s u' d' s' =>
    obtain ⟨rfl, rfl, rfl⟩ := auth_tcp_inj (blank_not_mem (by decide) valid.1)
      (blank_not_mem (by decide) valid'.1) (blank_not_mem (by decide) valid.2.1)
      (blank_not_mem (by decide) valid'.2.1) same
    rfl
  | join c d c' d' =>
    obtain ⟨rfl, rfl⟩ := join_tcp_inj (blank_not_mem (by decide) valid.1)
      (blank_not_mem (by decide) valid'.1) same
    rfl
  | msg d t d' t' =>
    obtain ⟨rfl, rfl⟩ := chatLine_inj (blank_not_mem (by decide) valid.1)
      (blank_not_mem (by decide) valid'.1) same
    rfl
  | err d t d' t' =>
    obtain ⟨rfl, rfl⟩ := chatLine_inj (blank_not_mem (by decide) valid)
      (blank_not_mem (by decide) valid') same
    rfl
  | bye => rfl
  | confirm => rfl

/-! ### The UDP datagrams -/

/-- What stands behind the id. -/
def Outgoing.fields : Outgoing → Str
  | .request (.auth u d s) => u ++ 0 :: (d ++ 0 :: (s ++ [0]))
  | .request (.join c d) => c ++ 0 :: (d ++ [0])
  | .request (.msg d t) => d ++ 0 :: (t ++ [0])
  | .err d t => d ++ 0 :: (t ++ [0])
  | .bye => []
  | .confirm => []

theorem Outgoing.udp_eq (o : Outgoing) (id : UInt16) :
    o.udp id = [o.code] ++ (idBytes id ++ o.fields) := by
  cases o with
  | request r => cases r <;> simp [Outgoing.udp, Request.udp, Outgoing.code, Outgoing.fields]
  | err d t => simp [Outgoing.udp, Outgoing.code, Outgoing.fields]
  | bye => rfl
  | confirm => rfl

/-- The two fields of a datagram that names its sender. -/
theorem chat_fields_inj {d t d' t' : Str} (named : (0 : UInt8) ∉ d) (named' : (0 : UInt8) ∉ d')
    (same : d ++ 0 :: (t ++ [0]) = d' ++ 0 :: (t' ++ [0])) : d = d' ∧ t = t' := by
  obtain ⟨names, texts⟩ := cut_inj named named' same
  exact ⟨names, List.append_cancel_right texts⟩

/-- **The datagrams determine the message and the id.** -/
theorem udp_injective {o o' : Outgoing} {id id' : UInt16} (valid : o.Validated)
    (valid' : o'.Validated) (same : o.udp id = o'.udp id') : id = id' ∧ o = o' := by
  rw [o.udp_eq, o'.udp_eq] at same
  have ids : id = id' := by
    rw [← readU16_idBytes [o.code] id o.fields, same]
    exact readU16_idBytes [o'.code] id' o'.fields
  subst ids
  obtain ⟨codes, behind⟩ := List.cons.inj same
  have fields : o.fields = o'.fields := List.append_cancel_left behind
  refine ⟨rfl, ?_⟩
  cases sameKind_of_code codes with
  | auth u d s u' d' s' =>
    obtain ⟨rfl, more⟩ := cut_inj (nul_not_mem valid.1) (nul_not_mem valid'.1) fields
    obtain ⟨rfl, rfl⟩ := chat_fields_inj (nul_not_mem valid.2.1) (nul_not_mem valid'.2.1) more
    rfl
  | join c d c' d' =>
    obtain ⟨rfl, rfl⟩ := chat_fields_inj (nul_not_mem valid.1) (nul_not_mem valid'.1) fields
    rfl
  | msg d t d' t' =>
    obtain ⟨rfl, rfl⟩ := chat_fields_inj (nul_not_mem valid.1) (nul_not_mem valid'.1) fields
    rfl
  | err d t d' t' =>
    obtain ⟨rfl, rfl⟩ := chat_fields_inj (nul_not_mem valid) (nul_not_mem valid') fields
    rfl
  | bye => rfl
  | confirm => rfl

/-! ### The messages of the clients -/

/-- The objects a TCP client sends, and the messages they are built for. -/
inductive SentTcp : TCPMessage → Outgoing → Prop
  | user {name line : Str} {r : Request} : validateMsgParam name .dname = true →
      Speaks name line r →
      SentTcp ((NetworkMessage.new line .userCmd).setDisplayName name) (.request r)
  | err {name text : Str} : validateMsgParam name .dname = true → (0 : UInt8) ∉ text →
      SentTcp ((NetworkMessage.new text .customErr).setDisplayName name) (.err name text)
  | bye : SentTcp (NetworkMessage.new (bytes "BYE") .bye) .bye

/-- The objects a UDP client sends with an id, and the messages they are built for. -/
inductive SentUdp (id : UInt16) : UDPMessage → Outgoing → Prop
  | user {name line : Str} {r : Request} : validateMsgParam name .dname = true →
      Speaks name line r → SentUdp id (UDPMessage.ofLine name line id) (.request r)
  | err {name : Str} (text : Str) : validateMsgParam name .dname = true →
      SentUdp id ((UDPMessage.new text .customErr id).setDisplayName name) (.err name text)
  | bye : SentUdp id (UDPMessage.new (bytes "BYE") .bye id) .bye
  | confirm : SentUdp id (UDPMessage.new [] .confirm id) .confirm

theorem SentTcp.validated {m : TCPMessage} {o : Outgoing} (sent : SentTcp m o) : o.Validated := by
  cases sent with
  | user named speaks => exact speaks.validated named
  | err named _ => exact named
  | bye => trivial

theorem SentUdp.validated {id : UInt16} {m : UDPMessage} {o : Outgoing} (sent : SentUdp id m o) :
    o.Validated := by
  cases sent with
  | user named speaks => exact speaks.validated named
  | err _ named => exact named
  | bye => trivial
  | confirm => trivial

/-- The line sent is the layout. -/
theorem SentTcp.output {m : TCPMessage} {o : Outgoing} (sent : SentTcp m o) :
    (TCPMessage.processOutgoingMsg m).1.getOutputBuffer = o.tcp := by
  cases sent with
  | user named speaks =>
    rw [TCPMessage.output_userCmd (nul_not_mem named), speaks.request]
    rfl
  | err named clean => exact TCPMessage.output_customErr (nul_not_mem named) clean
  | bye => decide +kernel

/-- The datagram sent is the layout. -/
theorem SentUdp.output {id : UInt16} {m : UDPMessage} {o : Outgoing} (sent : SentUdp id m o) :
    m.processOutgoingMsg.1.udpBuffer = o.udp id := by
  cases sent with
  | user named speaks =>
    rw [UDPMessage.udpBuffer_userCmd, speaks.request]
    rfl
  | err text named => rfl
  | bye => rfl
  | confirm => rfl

/-- **No two messages share a buffer**, on either transport. -/
theorem unambiguous :
    (∀ {m m' : TCPMessage} {o o' : Outgoing}, SentTcp m o → SentTcp m' o' →
      (TCPMessage.processOutgoingMsg m).1.getOutputBuffer =
        (TCPMessage.processOutgoingMsg m').1.getOutputBuffer → o = o') ∧
    (∀ {id id' : UInt16} {m m' : UDPMessage} {o o' : Outgoing}, SentUdp id m o → SentUdp id' m' o' →
      m.processOutgoingMsg.1.udpBuffer = m'.processOutgoingMsg.1.udpBuffer → id = id' ∧ o = o') := by
  constructor
  · intro m m' o o' sent sent' same
    rw [sent.output, sent'.output] at same
    exact tcp_injective sent.validated sent'.validated same
  · intro id id' m m' o o' sent sent' same
    rw [sent.output, sent'.output] at same
    exact udp_injective sent.validated sent'.validated same

/-- Two spellings of one JOIN. -/
theorem unambiguous_join :
    ∃ o o', SentUdp 258 (UDPMessage.ofLine (bytes "user") (bytes "/join room") 258) o ∧
      SentUdp 258 (UDPMessage.ofLine (bytes "user") (bytes "/join  room ") 258) o' ∧ o = o' := by
  have named : validateMsgParam (bytes "user") .dname = true := by decide
  have sent : SentUdp 258 (UDPMessage.ofLine (bytes "user") (bytes "/join room") 258)
      (.request (.join (bytes "room") (bytes "user"))) :=
    .user named (.join (by decide +kernel) (by decide))
  have sent' : SentUdp 258 (UDPMessage.ofLine (bytes "user") (bytes "/join  room ") 258)
      (.request (.join (bytes "room") (bytes "user"))) :=
    .user named (.join (by decide +kernel) (by decide))
  exact ⟨_, _, sent, sent', (unambiguous.2 sent sent' (by decide +kernel)).2⟩

end Ipk24Chat
