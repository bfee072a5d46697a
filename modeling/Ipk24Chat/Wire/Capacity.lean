/-
**The output buffers never overflow.**

`add_to_buffer` and `add_line_ending` write into `char buffer[BUFFER_SIZE]` without a look at its
size. `encoderCalls m` are the calls `process_outgoing_msg` makes for an object and `BufferCall.writes`
the places one of them writes; `Inside` says that no call writes behind the buffer.

* `processOutgoingMsg_eq`: the encoder is these calls;
* `inside_of_fits`: the calls stay inside when the line fits together with its NUL;
* `outgoing_fits`: in every run the display name is valid, so the lines and the datagrams fit.
-/

import Ipk24Chat.Wire.Sent
import Ipk24Chat.Wire.Unambiguous

namespace Ipk24Chat

open Reactive

/-! ### The calls of the TCP encoder -/

/-- A call of `add_to_buffer` or of `add_line_ending`. -/
inductive BufferCall
  | addToBuffer (msgPart : Str)
  | addLineEnding
  deriving DecidableEq, Repr

namespace BufferCall

def apply (m : TCPMessage) : BufferCall → TCPMessage
  | addToBuffer msgPart => m.addToBuffer msgPart
  | addLineEnding => m.addLineEnding

/-- The places of the buffer that the call writes, in order: `strncpy` fills `length` places from the
NUL on. -/
def writes (m : TCPMessage) : BufferCall → List Nat
  | addToBuffer msgPart =>
    let length := msgPart.length
    let position := strlen m.buffer
    List.range' position length ++ [length + position]
  | addLineEnding =>
    let length := strlen m.buffer
    [length, length + 1, length + 2]

/-- What the call appends to the C string. -/
def text : BufferCall → Str
  | addToBuffer msgPart => msgPart
  | addLineEnding => [13, 10]

end BufferCall

open BufferCall

/-- The calls for a message that the validation has accepted. -/
def callsFor (m : TCPMessage) (msgParts : List Str) : List BufferCall :=
  match m.type with
  | .auth =>
    [addToBuffer (bytes "AUTH "), addToBuffer (msgParts.headD []), addToBuffer (bytes " AS "),
      addToBuffer (msgParts.tail.headD []), addToBuffer (bytes " USING "),
      addToBuffer (msgParts.tail.tail.getLastD []), addLineEnding]
  | .join =>
    [addToBuffer (bytes "JOIN "), addToBuffer (msgParts.getLastD []), addToBuffer (bytes " AS "),
      addToBuffer m.displayName, addLineEnding]
  | .err | .customErr =>
    [addToBuffer (bytes "ERR FROM "), addToBuffer m.displayName, addToBuffer (bytes " IS "),
      addToBuffer m.message, addLineEnding]
  | .msg =>
    [addToBuffer (bytes "MSG FROM "), addToBuffer m.displayName, addToBuffer (bytes " IS "),
      addToBuffer m.message, addLineEnding]
  | .bye => [addToBuffer (bytes "BYE"), addLineEnding]
  | _ => []

/-- The calls `process_outgoing_msg` makes. -/
def encoderCalls (m : TCPMessage) : List BufferCall :=
  let checked := m.checkUserMessage
  if checked.valid then callsFor checked.msg checked.parts else []

/-- **The encoder is its calls**, one after the other. -/
theorem processOutgoingMsg_eq (m : TCPMessage) :
    TCPMessage.processOutgoingMsg m =
      ((encoderCalls m).foldl BufferCall.apply m.checkUserMessage.msg, m.checkUserMessage.printed) := by
  unfold TCPMessage.processOutgoingMsg encoderCalls
  generalize m.checkUserMessage = checked
  obtain ⟨⟨type, ready, name, message, buffer⟩, parts, valid, lines⟩ := checked
  cases valid with
  | false => rfl
  | true => cases type <;> rfl

/-- Every call writes inside the buffer. -/
def WritesInside (m : TCPMessage) : List BufferCall → Prop
  | [] => True
  | call :: calls => (∀ i ∈ call.writes m, i < BUFFER_SIZE) ∧ WritesInside (call.apply m) calls

/-! ### Room -/

section Room

variable {m : TCPMessage} {s : Str}

/-- A call appends its text to the C string. -/
theorem BufferCall.written (call : BufferCall) (written : TCPMessage.Written m s)
    (clean : (0 : UInt8) ∉ call.text) : TCPMessage.Written (call.apply m) (s ++ call.text) := by
  cases call with
  | addToBuffer msgPart => exact written.add clean
  | addLineEnding => exact written.ending

/-- A call writes from the NUL on, up to the NUL behind its text. -/
theorem BufferCall.lt_of_fits (call : BufferCall) (written : TCPMessage.Written m s)
    (fits : s.length + call.text.length + 1 ≤ BUFFER_SIZE) : ∀ i ∈ call.writes m, i < BUFFER_SIZE := by
  have length := written.strlen
  intro i place
  cases call with
  | addToBuffer msgPart =>
    have fits : s.length + msgPart.length + 1 ≤ BUFFER_SIZE := fits
    simp only [writes, length, List.mem_append, List.mem_range'_1, List.mem_singleton] at place
    omega
  | addLineEnding =>
    have fits : s.length + 2 + 1 ≤ BUFFER_SIZE := fits
    simp only [writes, length, List.mem_cons, List.not_mem_nil, or_false] at place
    omega

/-- **The calls stay inside** when the whole line fits together with its NUL. -/
theorem inside_of_fits {calls : List BufferCall} (written : TCPMessage.Written m s)
    (clean : ∀ call ∈ calls, (0 : UInt8) ∉ call.text)
    (fits : s.length + (calls.flatMap text).length + 1 ≤ BUFFER_SIZE) : WritesInside m calls := by
  induction calls generalizing m s with
  | nil => trivial
  | cons call calls ih =>
    rw [List.flatMap_cons, List.length_append] at fits
    have first := clean call List.mem_cons_self
    refine ⟨call.lt_of_fits written (by omega), ?_⟩
    refine ih (call.written written first) (fun later member => clean later ?_) ?_
    · exact List.mem_cons_of_mem call member
    · rw [List.length_append]
      omega

end Room

/-! ### The objects of the clients -/

/-- `process_outgoing_msg` writes inside the buffer. -/
def EncodesInside (m : TCPMessage) : Prop := WritesInside m.checkUserMessage.msg (encoderCalls m)

theorem fits_of_request {name line : Str} {r : Request}
    (named : validateMsgParam name .dname = true)
    (read : (command line).request name line = some r) : r.tcp.length + 1 ≤ BUFFER_SIZE :=
  speaks_fits named (speaks_of_request read)

/-- No byte of no call is left to check. -/
theorem clean_nil : ∀ call ∈ ([] : List BufferCall), (0 : UInt8) ∉ call.text :=
  fun _ none => absurd none List.not_mem_nil

section Lines

variable {m : TCPMessage} (written : TCPMessage.Written m [])

include written

theorem inside_auth {u d s : Str} (user : (0 : UInt8) ∉ u) (display : (0 : UInt8) ∉ d)
    (secret : (0 : UInt8) ∉ s) (fits : (Request.auth u d s).tcp.length + 1 ≤ BUFFER_SIZE) :
    WritesInside m [addToBuffer (bytes "AUTH "), addToBuffer u, addToBuffer (bytes " AS "),
      addToBuffer d, addToBuffer (bytes " USING "), addToBuffer s, addLineEnding] := by
  refine inside_of_fits written ?_ ?_
  · simp only [List.forall_mem_cons]
    exact ⟨by decide, user, by decide, display, by decide, secret, by decide, clean_nil⟩
  · simpa [Request.tcp, text, Nat.add_assoc] using fits

theorem inside_join {c d : Str} (channel : (0 : UInt8) ∉ c) (display : (0 : UInt8) ∉ d)
    (fits : (Request.join c d).tcp.length + 1 ≤ BUFFER_SIZE) :
    WritesInside m [addToBuffer (bytes "JOIN "), addToBuffer c, addToBuffer (bytes " AS "),
      addToBuffer d, addLineEnding] := by
  refine inside_of_fits written ?_ ?_
  · simp only [List.forall_mem_cons]
    exact ⟨by decide, channel, by decide, display, by decide, clean_nil⟩
  · simpa [Request.tcp, text, Nat.add_assoc] using fits

/-- A line that names its sender. -/
theorem inside_chat {opening label d t : Str} (opens : opening = label ++ bytes " FROM ")
    (labelled : (0 : UInt8) ∉ opening) (display : (0 : UInt8) ∉ d) (clean : (0 : UInt8) ∉ t)
    (fits : (chatLine label d t).length + 1 ≤ BUFFER_SIZE) :
    WritesInside m [addToBuffer opening, addToBuffer d, addToBuffer (bytes " IS "), addToBuffer t,
      addLineEnding] := by
  subst opens
  refine inside_of_fits written ?_ ?_
  · simp only [List.forall_mem_cons]
    exact ⟨labelled, display, by decide, clean, by decide, clean_nil⟩
  · simpa [chatLine, text, Nat.add_assoc] using fits

end Lines

/-- **A line of any length.** -/
theorem inside_line {name : Str} (named : validateMsgParam name .dname = true) (line : Str) :
    EncodesInside ((NetworkMessage.new line .userCmd).setDisplayName name) := by
  have checks := checkUserMessage_checks
    (m := (NetworkMessage.new line .userCmd).setDisplayName name) rfl
  have wellFormed := command_wellFormed line
  have start := TCPMessage.Written.new line .userCmd name
  have fits : ∀ r, (command line).request name line = some r → r.tcp.length + 1 ≤ BUFFER_SIZE :=
    fun r => fits_of_request named
  rw [show ((NetworkMessage.new line .userCmd).setDisplayName name).message = line from rfl] at checks
  unfold EncodesInside encoderCalls
  generalize NetworkMessage.checkUserMessage _ = checked at checks ⊢
  generalize command line = c at checks wellFormed fits ⊢
  cases checks with
  | blank => trivial
  | rename => trivial
  | help => trivial
  | refused => trivial
  | badText => trivial
  | auth u s d =>
    obtain ⟨user, secret, display⟩ := wellFormed
    exact inside_auth (start.of_buffer rfl) (nul_not_mem user.2) (nul_not_mem display.2)
      (nul_not_mem secret.2) (fits (.auth u d s) rfl)
  | join c =>
    exact inside_join (start.of_buffer rfl) (nul_not_mem wellFormed.2) (nul_not_mem named)
      (fits (.join c name) rfl)
  | text =>
    have opens : bytes "MSG FROM " = bytes "MSG" ++ bytes " FROM " := by decide
    exact inside_chat (start.of_buffer rfl) opens (by decide) (nul_not_mem named)
      (nul_not_mem wellFormed.2) (fits (.msg name line) rfl)

theorem errTexts_clean {text : Str} (known : text ∈ errTexts) :
    (0 : UInt8) ∉ text ∧ text.length ≤ 45 := by
  simp only [errTexts, List.mem_cons, List.not_mem_nil, or_false] at known
  rcases known with rfl | rfl <;> decide

/-- An error of the client, which is not validated. -/
theorem inside_err {name text : Str} (named : validateMsgParam name .dname = true)
    (known : text ∈ errTexts) :
    EncodesInside ((NetworkMessage.new text .customErr).setDisplayName name) := by
  obtain ⟨clean, short⟩ := errTexts_clean known
  have opens : bytes "ERR FROM " = bytes "ERR" ++ bytes " FROM " := by decide
  have fits : (chatLine (bytes "ERR") name text).length + 1 ≤ BUFFER_SIZE := by
    have display : name.length ≤ 20 := length_le_limit named
    have words : (bytes "ERR").length = 3 ∧ (bytes " FROM ").length = 6 ∧ (bytes " IS ").length = 4 := by
      decide
    simp only [chatLine, List.length_append, List.length_cons, List.length_nil]
    show _ ≤ 1500
    omega
  exact inside_chat ((TCPMessage.Written.new text .customErr name).of_buffer rfl) opens (by decide)
    (nul_not_mem named) clean fits

theorem inside_bye : EncodesInside (NetworkMessage.new (bytes "BYE") .bye) := by
  have calls : encoderCalls (NetworkMessage.new (bytes "BYE") .bye) =
      [addToBuffer (bytes "BYE"), addLineEnding] := by decide +kernel
  have buffer : (NetworkMessage.new (bytes "BYE") .bye).checkUserMessage.msg.buffer = [0] := by
    decide +kernel
  have written : TCPMessage.Written (NetworkMessage.new (bytes "BYE") .bye).checkUserMessage.msg [] :=
    ⟨List.not_mem_nil, [], buffer⟩
  unfold EncodesInside
  rw [calls]
  refine inside_of_fits written ?_ (by decide)
  simp only [List.forall_mem_cons]
  exact ⟨by decide, by decide, clean_nil⟩

/-- **Everything a TCP client encodes stays inside the buffer.** -/
theorem BuildsTcp.inside {name : Str} {m : TCPMessage} (named : validateMsgParam name .dname = true)
    (builds : BuildsTcp name m) : EncodesInside m := by
  cases builds with
  | line line => exact inside_line named line
  | err known => exact inside_err named known
  | bye => exact inside_bye

/-! ### The datagrams of the UDP client -/

theorem idBytes_length (id : UInt16) : (idBytes id).length = 2 := rfl

theorem udp_fits {r : Request} (validated : (Outgoing.request r).Validated) (id : UInt16) :
    (r.udp id).length ≤ BUFFER_SIZE := by
  show _ ≤ 1500
  cases r with
  | auth u d s =>
    obtain ⟨user, display, secret⟩ := validated
    have : u.length ≤ 20 := length_le_limit user
    have : d.length ≤ 20 := length_le_limit display
    have : s.length ≤ 128 := length_le_limit secret
    simp only [Request.udp, List.length_append, List.length_cons, List.length_nil, idBytes_length]
    omega
  | join c d =>
    obtain ⟨channel, display⟩ := validated
    have : c.length ≤ 20 := length_le_limit channel
    have : d.length ≤ 20 := length_le_limit display
    simp only [Request.udp, List.length_append, List.length_cons, List.length_nil, idBytes_length]
    omega
  | msg d t =>
    obtain ⟨display, valid⟩ := validated
    have : d.length ≤ 20 := length_le_limit display
    have := ((validate_msg_iff t).mp valid).1
    simp only [Request.udp, List.length_append, List.length_cons, List.length_nil, idBytes_length]
    omega

/-- **Everything a UDP client encodes is at most as long as the buffer.** -/
theorem BuildsUdp.fits {name : Str} {m : UDPMessage} (named : validateMsgParam name .dname = true)
    (builds : BuildsUdp name m) : m.processOutgoingMsg.1.udpBuffer.length ≤ BUFFER_SIZE := by
  cases builds with
  | line line id =>
    rw [UDPMessage.udpBuffer_userCmd]
    cases read : (command line).request name line with
    | none => exact Nat.zero_le _
    | some r => exact udp_fits ((speaks_of_request read).validated named) id
  | automatic automatic =>
    cases automatic with
    | err id =>
      have display : name.length ≤ 20 := length_le_limit named
      have short := (errTexts_clean List.mem_cons_self).2
      show (Outgoing.udp id (.err name (bytes "Unknown or invalid message at current state."))).length
        ≤ 1500
      simp only [Outgoing.udp, List.length_append, List.length_cons, List.length_nil, idBytes_length]
      omega
    | bye id =>
      show (Outgoing.udp id .bye).length ≤ BUFFER_SIZE
      rw [Outgoing.udp, List.length_append, idBytes_length]
      decide
    | confirm id =>
      show (Outgoing.udp id .confirm).length ≤ BUFFER_SIZE
      rw [Outgoing.udp, List.length_append, idBytes_length]
      decide

/-! ### Runs -/

/-- At most twenty printable characters that are no spaces, and at least one behind START_STATE. -/
structure NameHolds (state : FsmState) (name : Str) : Prop where
  short : name.length ≤ 20
  printable : ∀ ch ∈ name, isgraph ch = true
  begun : state ≠ .startState → name ≠ []

theorem Named.holds {state : FsmState} {name : Str} (named : Named state name) :
    NameHolds state name := by
  have valid := named.valid
  simp only [validateMsgParam, Bool.and_eq_true, decide_eq_true_eq, List.all_eq_true] at valid
  exact ⟨valid.1, valid.2, named.begun⟩

theorem UDPClient.Sent.fits {name content : Str} (named : validateMsgParam name .dname = true)
    (sent : UDPClient.Sent name content) : content.length ≤ BUFFER_SIZE := by
  rcases sent with ⟨m, automatic, rfl⟩ | ⟨name', line, id, named', rfl⟩
  · exact (BuildsUdp.automatic automatic).fits named
  · exact (BuildsUdp.line line id).fits named'

/-- **Outgoing buffers never overflow.** In every reachable state of either client the display name
holds. Whatever the TCP client encodes under it (a line of any length, either ERR, the BYE) is written
inside the buffer, and a step sends nothing else; whatever the UDP client builds under it, with any
id, and whatever a step sends fits in `BUFFER_SIZE`. -/
theorem outgoing_fits :
    (∀ s, Reachable TCPClient.machine s →
      NameHolds s.client.clientState s.client.dname ∧
      (∀ m, BuildsTcp s.client.dname m → EncodesInside m) ∧
      ∀ e s' out, TCPClient.step s e = some (s', out) →
        AllSent (TCPClient.Built s.client.dname) out) ∧
    (∀ port s, Reachable (UDPClient.machine port) s →
      NameHolds s.client.clientState s.client.dname ∧
      (∀ m, BuildsUdp s.client.dname m → m.processOutgoingMsg.1.udpBuffer.length ≤ BUFFER_SIZE) ∧
      ∀ e s' out, UDPClient.step s e = some (s', out) →
        AllSent (fun datagram => datagram.length ≤ BUFFER_SIZE) out) := by
  constructor
  · intro s reachable
    have named := TCPClient.wellNamed_reachable reachable
    refine ⟨named.holds, fun m builds => builds.inside named.valid, ?_⟩
    exact fun e s' out made => TCPClient.step_sent made
  · intro port s reachable
    have named := UDPClient.wellNamed_reachable reachable
    refine ⟨named.holds, fun m builds => builds.fits named.valid, fun e s' out made => ?_⟩
    exact (UDPClient.step_sent reachable made).imp fun _ sent => sent.fits named.valid

/-- Both clients behind a sign-in, and a text. -/
theorem outgoing_fits_signIn :
    EncodesInside ((NetworkMessage.new (bytes "hello") .userCmd).setDisplayName
      (TCPClient.machine.reached TCPClient.booted TCPClient.signIn).client.dname) ∧
    (UDPMessage.ofLine
      ((UDPClient.machine 4567).reached UDPClient.booted UDPClient.signIn).client.dname
      (bytes "hello") 1).processOutgoingMsg.1.udpBuffer.length ≤ BUFFER_SIZE := by
  obtain ⟨_, inside, _⟩ := outgoing_fits.1 (TCPClient.machine.reached TCPClient.booted TCPClient.signIn)
    (Run.reached TCPClient.booted_init rfl).reachable
  obtain ⟨_, fits, _⟩ := outgoing_fits.2 4567
    ((UDPClient.machine 4567).reached UDPClient.booted UDPClient.signIn)
    (Run.reached UDPClient.booted_init rfl).reachable
  exact ⟨inside _ (.line _), fits _ (.line _ 1)⟩

end Ipk24Chat
