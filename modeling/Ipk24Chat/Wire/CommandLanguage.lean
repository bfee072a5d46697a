/-
**The command language, and what both encoders make of it.**

`Speaks name line r` says by the tokens of a line, without the loop of `check_user_message`, that the
line asks a client with this display name to send the message `r`.

* `speaks_iff`: the validation reads the same message;
* `command_language`: what both output buffers hold, for every line, display name and id;
* `speaks_fits`: the message fits in the buffer of the TCP encoder, behind its NUL.
-/

import Ipk24Chat.Tcp.Encoding
import Ipk24Chat.Udp.Encoding

namespace Ipk24Chat

/-! ### The language -/

/-- Printable ASCII and the space. -/
def Printable (ch : UInt8) : Prop := (33 ≤ ch ∧ ch ≤ 126) ∨ ch = 32

instance (ch : UInt8) : Decidable (Printable ch) := inferInstanceAs (Decidable ((_ ∧ _) ∨ _))

/-- **What a line asks for**, by its tokens. -/
inductive Speaks (name line : Str) : Request → Prop
  | auth {u s d : Str} : fragments line = [bytes "/auth", u, s, d] →
      validateMsgParam u .id = true → validateMsgParam s .secret = true →
      validateMsgParam d .dname = true → Speaks name line (.auth u d s)
  | join {c : Str} : fragments line = [bytes "/join", c] → validateMsgParam c .id = true →
      Speaks name line (.join c name)
  | msg {word : Str} {rest : List Str} : fragments line = word :: rest →
      word.head? ≠ some (chr '/') → line.length ≤ 1400 → (∀ ch ∈ line, Printable ch) →
      Speaks name line (.msg name line)

theorem validate_msg_iff (line : Str) :
    validateMsgParam line .msg = true ↔ line.length ≤ 1400 ∧ ∀ ch ∈ line, Printable ch := by
  have each : ∀ ch : UInt8, (isgraph ch || ch == chr ' ') = true ↔ Printable ch := by
    intro ch
    simp only [isgraph, Printable, Bool.or_eq_true, Bool.and_eq_true, decide_eq_true_eq,
      beq_iff_eq]
    rfl
  simp only [validateMsgParam, Bool.and_eq_true, decide_eq_true_eq, List.all_eq_true, each]

/-- A line that asks for something is read so. -/
theorem Speaks.request {name line : Str} {r : Request} (speaks : Speaks name line r) :
    (command line).request name line = some r := by
  unfold command
  cases speaks with
  | auth shape user secret display =>
    rename_i u s d
    have auth : commandOf line (fragments line) = .auth u s d := by
      rw [shape]
      exact if_pos ⟨user, secret, display⟩
    rw [auth]
    rfl
  | join shape channel =>
    rename_i c
    have join : commandOf line (fragments line) = .join c := by
      rw [shape]
      exact if_pos channel
    rw [join]
    rfl
  | msg shape slash short printable =>
    rename_i word rest
    have other : ∀ command : Str, command.head? = some (chr '/') → word ≠ command := by
      rintro command start rfl
      exact slash start
    have text : commandOf line (fragments line) = .text := by
      rw [shape, commandOf, if_neg (other _ rfl), if_neg (other _ rfl), if_neg (other _ rfl),
        if_neg (other _ rfl), if_neg slash, if_pos ((validate_msg_iff line).mpr ⟨short, printable⟩)]
    rw [text]
    rfl

/-- What is read is what the line asks for. -/
theorem speaks_of_request {name line : Str} {r : Request}
    (read : (command line).request name line = some r) : Speaks name line r := by
  unfold command at read
  cases shape : fragments line with
  | nil =>
    rw [shape] at read
    cases read
  | cons word rest =>
    rw [shape, commandOf] at read
    split at read
    · rename_i isAuth
      rcases authCommand_cases rest with refused | ⟨u, s, d, rfl, same, user, secret, display⟩
      · rw [refused] at read
        cases read
      · rw [same] at read
        cases read
        rw [isAuth] at shape
        exact .auth shape user secret display
    split at read
    · rename_i isJoin
      rcases oneParameter_cases .join .joinUsage rest with refused | ⟨c, rfl, same, channel⟩
      · rw [joinCommand, refused] at read
        cases read
      · rw [joinCommand, same] at read
        cases read
        rw [isJoin] at shape
        exact .join shape channel
    split at read
    · rcases oneParameter_cases .rename .renameUsage rest with refused | ⟨d, _, same, _⟩
      · rw [renameCommand, refused] at read
        cases read
      · rw [renameCommand, same] at read
        cases read
    split at read
    · cases read
    split at read
    · cases read
    rename_i slash
    split at read
    · rename_i valid
      cases read
      obtain ⟨short, printable⟩ := (validate_msg_iff line).mp valid
      exact .msg shape slash short printable
    · cases read

/-- The TCP buffer behind `process_outgoing_msg`. -/
def tcpOutput (name line : Str) : Str :=
  (TCPMessage.processOutgoingMsg
    ((NetworkMessage.new line .userCmd).setDisplayName name)).1.getOutputBuffer

/-- The UDP buffer behind `process_outgoing_msg`. -/
def udpOutput (name line : Str) (id : UInt16) : Str :=
  (UDPMessage.ofLine name line id).processOutgoingMsg.1.udpBuffer

/-- **The command language**: a line that asks for a message puts that message into both buffers, and
every other line leaves both empty. -/
theorem command_language {name : Str} (named : validateMsgParam name .dname = true) (line : Str)
    (id : UInt16) :
    (∀ r, Speaks name line r → tcpOutput name line = r.tcp ∧ udpOutput name line id = r.udp id) ∧
      ((∀ r, ¬ Speaks name line r) → tcpOutput name line = [] ∧ udpOutput name line id = []) := by
  have tcp : tcpOutput name line = ((command line).request name line).elim [] Request.tcp :=
    TCPMessage.output_userCmd (nul_not_mem named) line
  have udp : udpOutput name line id = ((command line).request name line).elim [] (Request.udp id) :=
    UDPMessage.udpBuffer_userCmd name line id
  refine ⟨fun r speaks => ?_, fun silent => ?_⟩
  · rw [tcp, udp, speaks.request]
    exact ⟨rfl, rfl⟩
  · have none : (command line).request name line = none := by
      rw [Option.eq_none_iff_forall_not_mem]
      intro r read
      exact silent r (speaks_of_request read)
    rw [tcp, udp, none]
    exact ⟨rfl, rfl⟩

/-- A JOIN of `user` with id 258. -/
theorem command_language_join :
    tcpOutput (bytes "user") (bytes "/join  room") = bytes "JOIN room AS user" ++ [13, 10] ∧
      udpOutput (bytes "user") (bytes "/join  room") 258 =
        [3, 1, 2] ++ bytes "room" ++ [0] ++ bytes "user" ++ [0] := by
  have named : validateMsgParam (bytes "user") .dname = true := by decide
  exact (command_language named (bytes "/join  room") 258).1 (.join (bytes "room") (bytes "user")) (.join (by decide +kernel) (by decide))

/-! ### Sizes -/

/-- The greatest length a pattern takes. -/
def Pattern.limit : Pattern → Nat
  | .id | .dname => 20
  | .secret => 128
  | .msg => 1400

theorem length_le_limit {p : Str} {pattern : Pattern} (valid : validateMsgParam p pattern = true) :
    p.length ≤ pattern.limit := by
  unfold validateMsgParam at valid
  cases pattern with
  | _ =>
    rw [Bool.and_eq_true, decide_eq_true_eq] at valid
    exact valid.1

/-- **A message fits** in the buffer together with the NUL behind it. -/
theorem speaks_fits {name line : Str} {r : Request} (named : validateMsgParam name .dname = true)
    (speaks : Speaks name line r) : r.tcp.length + 1 ≤ BUFFER_SIZE := by
  have display : name.length ≤ 20 := length_le_limit named
  show _ ≤ 1500
  cases speaks with
  | @auth u s d _ user secret own =>
    have : u.length ≤ 20 := length_le_limit user
    have : s.length ≤ 128 := length_le_limit secret
    have : d.length ≤ 20 := length_le_limit own
    simp only [Request.tcp, bytes, List.length_append, List.length_map, List.length_cons,
      List.length_nil, String.length_toList]
    have : "AUTH ".length = 5 ∧ " AS ".length = 4 ∧ " USING ".length = 7 := by decide
    omega
  | @join c _ channel =>
    have : c.length ≤ 20 := length_le_limit channel
    simp only [Request.tcp, bytes, List.length_append, List.length_map, List.length_cons,
      List.length_nil, String.length_toList]
    have : "JOIN ".length = 5 ∧ " AS ".length = 4 := by decide
    omega
  | msg _ _ short _ =>
    simp only [Request.tcp, chatLine, bytes, List.length_append, List.length_map, List.length_cons,
      List.length_nil, String.length_toList]
    have : "MSG".length = 3 ∧ " FROM ".length = 6 ∧ " IS ".length = 4 := by decide
    omega

end Ipk24Chat
