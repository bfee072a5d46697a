/-
**The display name in the errors of the client.**

An ERR is built under the name the client has and is not validated: `check_user_message` leaves it to
others, and nobody looks at the name. It is valid from the first line that introduces one.

* `dname_ne_nil_iff`: in every run there is a name exactly when a line has introduced one;
* `error_legible_iff`: an ERR can be read back exactly when this was so before it was sent;
* `nameless_error`: in START_STATE both clients answer a message of the server with an ERR that nobody
  can read.
-/

import Ipk24Chat.Stdin.Refusal
import Ipk24Chat.Wire.Capacity
import Ipk24Chat.Udp.Retransmission

namespace Ipk24Chat

open Reactive

/-! ### Reading an ERR -/

/-- The readings of a line as an ERR. -/
def LineReads (content name text : Str) : Prop := content = chatLine (bytes "ERR") name text

/-- The readings of a datagram as an ERR, with any id. -/
def DatagramReads (content name text : Str) : Prop := ∃ id, content = Outgoing.udp id (.err name text)

/-- **The ERR is legible**: its name is one that `/auth` accepts, and there is no other reading with such
a name. -/
def Legible (reads : Str → Str → Prop) (name : Str) : Prop :=
  Field .dname name ∧ ∃ text ∈ errTexts, reads name text ∧
    ∀ name' text', Field .dname name' → reads name' text' → name' = name ∧ text' = text

theorem LineReads.unique {content name text name' text' : Str} (named : Field .dname name)
    (named' : Field .dname name') (first : LineReads content name text)
    (second : LineReads content name' text') : name' = name ∧ text' = text :=
  chatLine_inj (blank_not_mem (by decide) named'.2) (blank_not_mem (by decide) named.2)
    (second.symm.trans first)

theorem DatagramReads.unique {content name text name' text' : Str} (named : Field .dname name)
    (named' : Field .dname name') (first : DatagramReads content name text)
    (second : DatagramReads content name' text') : name' = name ∧ text' = text := by
  obtain ⟨id, rfl⟩ := first
  obtain ⟨id', same⟩ := second
  have valid : (Outgoing.err name text).Validated := named.2
  have valid' : (Outgoing.err name' text').Validated := named'.2
  obtain ⟨_, same⟩ := udp_injective valid' valid same.symm
  cases same
  exact ⟨rfl, rfl⟩

/-- An ERR that is built under a valid name or none is legible exactly when there is a name. -/
theorem legible_iff_ne_nil {reads : Str → Str → Prop} {name text : Str}
    (valid : validateMsgParam name .dname = true) (known : text ∈ errTexts) (read : reads name text)
    (unique : ∀ {name' text'}, Field .dname name → Field .dname name' → reads name' text' →
      name' = name ∧ text' = text) : Legible reads name ↔ name ≠ [] := by
  refine ⟨fun legible => legible.1.1, fun nonempty => ?_⟩
  have named : Field .dname name := ⟨nonempty, valid⟩
  exact ⟨named, text, known, read, fun name' text' named' read' => unique named named' read'⟩

/-- A message of the user does not look like an ERR. -/
theorem request_code_ne (r : Request) : (Outgoing.request r).code ≠ UDP_ERR := by
  intro err
  have kinds : SameKind (.request r) (.err [] []) := sameKind_of_code err
  cases kinds

/-! ### Where the name comes from -/

/-- The line introduces a display name: it is a valid `/auth` or a valid `/rename`. -/
def Introduces (line : Str) : Prop := ∃ name, AuthAs name line ∨ command line = .rename name

theorem command_name_ne_nil_iff (name line : Str) :
    (command line).name name ≠ [] ↔ name ≠ [] ∨ Introduces line := by
  have wellFormed := command_wellFormed line
  unfold Introduces AuthAs
  generalize command line = c at wellFormed ⊢
  cases c with
  | auth u s d => exact iff_of_true wellFormed.2.2.1 (Or.inr ⟨d, Or.inl ⟨u, s, rfl⟩⟩)
  | rename d => exact iff_of_true wellFormed.1 (Or.inr ⟨d, Or.inr rfl⟩)
  | _ => simp [Command.name]

/-- **An event brings a name by the line it types**, where `typed` makes an event of a line. -/
theorem name_ne_nil_iff_of_event {Event : Type} {typed : Str → Event} {e : Event} {name name' : Str}
    (injective : Function.Injective typed)
    (line : ∀ text, e = typed text → name' = (command text).name name)
    (other : (∀ text, e ≠ typed text) → name' = name) :
    name' ≠ [] ↔ name ≠ [] ∨ ∃ text, e = typed text ∧ Introduces text := by
  by_cases types : ∃ text, e = typed text
  · obtain ⟨text, rfl⟩ := types
    have brings : (∃ text', typed text = typed text' ∧ Introduces text') ↔ Introduces text :=
      ⟨fun ⟨text', same, introduces⟩ => injective same ▸ introduces, fun i => ⟨text, rfl, i⟩⟩
    rw [line text rfl, brings]
    exact command_name_ne_nil_iff name text
  · have silent : ∀ text, e ≠ typed text := fun text same => types ⟨text, same⟩
    rw [other silent]
    exact (or_iff_left fun ⟨text, same, _⟩ => silent text same).symm

/-! ### The TCP client -/

namespace TCPClient

/-- The line begins as an ERR does. -/
def IsError (content : Str) : Prop := bytes "ERR " <+: content

/-- The input is a line that introduces a name. -/
def Event.Introduces (e : Event) : Prop := ∃ line, e = .getline (some line) ∧ Ipk24Chat.Introduces line

theorem Heard.dname {c : TCPClient} {d : Str} {o : Outcome} (heard : Heard c d o) :
    o.client.dname = c.dname := by
  cases heard with
  | leaving _ leaving => rw [leaving.client]
  | _ => rfl

/-- Only a line changes the name. -/
theorem step_dname {s s' : State} {e : Event} {out : List (Effect Unit)}
    (made : step s e = some (s', out)) (other : ∀ line, e ≠ .getline (some line)) :
    s'.client.dname = s.client.dname := by
  cases step_moves made with
  | leave back leaving =>
    rw [show (s.resume back _).1.client = s.client from leaving.client]
  | poll socket stdin _ => rw [pollStep_client]
  | byte => rfl
  | message _ _ _ _ _ _ heard => exact heard.dname
  | line text _ => exact absurd rfl (other text)

theorem step_name_iff {s s' : State} {e : Event} {out : List (Effect Unit)}
    (made : step s e = some (s', out)) :
    s'.client.dname ≠ [] ↔ s.client.dname ≠ [] ∨ e.Introduces := by
  refine name_ne_nil_iff_of_event (fun _ _ same => ?_) (fun text typed => ?_) (step_dname made)
  · cases same
    rfl
  · subst typed
    rw [(step_getline made).1]
    exact userLine_dname s.client text

/-- **There is a name exactly when a line has introduced one.** -/
theorem dname_ne_nil_iff {s : State} {history : List (Transition State Event (Effect Unit))}
    (run : Run machine history s) :
    s.client.dname ≠ [] ↔ ∃ t ∈ history, t.input.Introduces := by
  refine run.brought_iff (fun s => s.client.dname ≠ []) Event.Introduces ?_ ?_
  · rintro s ⟨revents, rfl⟩ named
    exact named rfl
  · exact fun s e s' out made => step_name_iff made

/-- Its first letter tells an ERR from the other lines. -/
theorem IsError.head {content : Str} (isError : IsError content) : content.head? = some (chr 'E') := by
  obtain ⟨rest, rfl⟩ := isError
  rfl

/-- An ERR on the wire is the one built under the name. -/
theorem Built.error {name content : Str} (named : validateMsgParam name .dname = true)
    (built : Built name content) (isError : IsError content) :
    ∃ text ∈ errTexts, LineReads content name text := by
  obtain ⟨m, builds, rfl⟩ := built
  cases builds with
  | line line =>
    have first := isError.head
    rw [TCPMessage.output_userCmd (nul_not_mem named)] at first
    generalize (command line).request name line = handed at first
    cases handed with
    | none => cases first
    | some r =>
      have code : (Outgoing.request r).code = UDP_ERR := by
        rw [← codeOf_head]
        exact congrArg codeOf first
      exact absurd code (request_code_ne r)
  | @err text known =>
    exact ⟨text, known, TCPMessage.output_customErr (nul_not_mem named) (errTexts_clean known).1⟩
  | bye =>
    have bye : (TCPMessage.processOutgoingMsg (NetworkMessage.new (bytes "BYE") .bye)).1.getOutputBuffer =
        Outgoing.bye.tcp := SentTcp.bye.output
    have first := isError.head
    rw [bye] at first
    cases first

/-- **An ERR of the TCP client.** -/
theorem error_legible_iff {s : State} {earlier later : List (Transition State Event (Effect Unit))}
    {t : Transition State Event (Effect Unit)} (run : Run machine (earlier ++ t :: later) s)
    {content : Str} (sent : .send content () ∈ t.out) (isError : IsError content) :
    Legible (LineReads content) t.before.client.dname ↔ ∃ u ∈ earlier, u.input.Introduces := by
  obtain ⟨before, made, _⟩ := run.transition
  have named := (wellNamed_reachable before.reachable).valid
  obtain ⟨text, known, read⟩ := (step_sent made content () sent).error named isError
  rw [legible_iff_ne_nil named known read fun first second other => read.unique first second other]
  exact dname_ne_nil_iff before

end TCPClient

/-! ### The UDP client -/

namespace UDPClient

/-- The type byte is that of an ERR. -/
def IsError (content : Str) : Prop := content.head? = some UDP_ERR

/-- The input is a line that introduces a name. -/
def Event.Introduces (e : Event) : Prop := ∃ line, e = .getline (some line) ∧ Ipk24Chat.Introduces line

theorem Leaving.dname {c : UDPClient} {o : Outcome} (leaving : c.Leaving o) :
    o.client.dname = c.dname :=
  leaving.preserves (P := fun c' => c'.dname = c.dname) rfl rfl

theorem Handled.dname {c : UDPClient} {d : Str} {o : Outcome} (handled : Handled c d o) :
    o.client.dname = c.dname := by
  cases handled with
  | leaving _ _ leaving => exact leaving.dname
  | _ => rfl

/-- Only a line changes the name. -/
theorem step_dname {s s' : State} {e : Event} {out : List (Effect UInt16)}
    (made : step s e = some (s', out)) (other : ∀ line, e ≠ .getline (some line)) :
    s'.client.dname = s.client.dname := by
  cases step_moves made with
  | leave _ leaving => exact leaving.dname
  | poll socket stdin _ => rw [pollStep_client]
  | accept r _ _ handled => exact handled.dname
  | receive m k r _ _ _ handled => exact handled.dname
  | line text _ => exact absurd rfl (other text)
  | _ => rfl

theorem step_name_iff {s s' : State} {e : Event} {out : List (Effect UInt16)}
    (made : step s e = some (s', out)) :
    s'.client.dname ≠ [] ↔ s.client.dname ≠ [] ∨ e.Introduces := by
  refine name_ne_nil_iff_of_event (fun _ _ same => ?_) (fun text typed => ?_) (step_dname made)
  · cases same
    rfl
  · subst typed
    rw [(step_getline made).1]
    exact userLine_dname s.client text

/-- **There is a name exactly when a line has introduced one.** -/
theorem dname_ne_nil_iff {port : UInt16} {s : State}
    {history : List (Transition State Event (Effect UInt16))} (run : Run (machine port) history s) :
    s.client.dname ≠ [] ↔ ∃ t ∈ history, t.input.Introduces := by
  refine run.brought_iff (fun s => s.client.dname ≠ []) Event.Introduces ?_ ?_
  · rintro s ⟨limit, revents, rfl⟩ named
    exact named rfl
  · exact fun s e s' out made => step_name_iff made

/-- An ERR on the wire is the one built under the name. -/
theorem Sent.error {name content : Str} (sent : Sent name content) (isError : IsError content) :
    ∃ text ∈ errTexts, DatagramReads content name text := by
  rcases sent with ⟨m, automatic, rfl⟩ | ⟨name', line, id, _, rfl⟩
  · cases automatic with
    | err id => exact ⟨_, List.mem_cons_self, id, rfl⟩
    | bye id => cases Option.some.inj isError
    | confirm id => cases Option.some.inj isError
  · unfold IsError at isError
    rw [UDPMessage.udpBuffer_userCmd] at isError
    generalize (command line).request name' line = handed at isError
    cases handed with
    | none => cases isError
    | some r => exact absurd (Or.inr (Or.inl isError)) (not_reaction_udp id r)

/-- **An ERR of the UDP client.** -/
theorem error_legible_iff {port : UInt16} {s : State}
    {earlier later : List (Transition State Event (Effect UInt16))}
    {t : Transition State Event (Effect UInt16)} (run : Run (machine port) (earlier ++ t :: later) s)
    {content : Str} {target : UInt16} (sent : .send content target ∈ t.out)
    (isError : IsError content) :
    Legible (DatagramReads content) t.before.client.dname ↔ ∃ u ∈ earlier, u.input.Introduces := by
  obtain ⟨before, made, _⟩ := run.transition
  have named := (wellNamed_reachable before.reachable).valid
  obtain ⟨text, known, read⟩ := (step_sent before.reachable made content target sent).error isError
  rw [legible_iff_ne_nil named known read fun first second other => read.unique first second other]
  exact dname_ne_nil_iff before

end UDPClient

/-! ### Both clients -/

/-- **When the errors of a run are legible.** On either transport, an ERR that a step of a run sends
carries a name that `/auth` accepts, and it is read back as that name and its text in only one way,
exactly when a line that introduces a name has come before it. -/
theorem error_name_iff (port : UInt16) :
    (∀ (s : TCPClient.State) (earlier later : List (Transition _ TCPClient.Event (Effect Unit)))
      (t : Transition _ TCPClient.Event (Effect Unit)),
      Run TCPClient.machine (earlier ++ t :: later) s →
      ∀ content, .send content () ∈ t.out → TCPClient.IsError content →
        (Legible (LineReads content) t.before.client.dname ↔
          ∃ u ∈ earlier, u.input.Introduces)) ∧
    (∀ (s : UDPClient.State) (earlier later : List (Transition _ UDPClient.Event (Effect UInt16)))
      (t : Transition _ UDPClient.Event (Effect UInt16)),
      Run (UDPClient.machine port) (earlier ++ t :: later) s →
      ∀ content target, .send content target ∈ t.out → UDPClient.IsError content →
        (Legible (DatagramReads content) t.before.client.dname ↔
          ∃ u ∈ earlier, u.input.Introduces)) :=
  ⟨fun _ _ _ _ run _ sent isError => TCPClient.error_legible_iff run sent isError,
    fun _ _ _ _ run _ _ sent isError => UDPClient.error_legible_iff run sent isError⟩

/-- A message of the server, up to its last byte. -/
def TCPClient.greeted : List TCPClient.Event := (TCPClient.served "MSG FROM server IS hi").dropLast

/-- The same message in a datagram. -/
def greetingDatagram : Str := [UDP_MSG] ++ idBytes 0 ++ bytes "server" ++ [0] ++ bytes "hi" ++ [0]

/-- The text of the ERR. -/
def unexpected : Str := bytes "Unknown or invalid message at current state."

/-- A message of the server behind a `/rename`. -/
theorem error_name_renamed :
    Legible (LineReads (chatLine (bytes "ERR") (bytes "user") unexpected)) (bytes "user") := by
  obtain ⟨renamed, same⟩ : ∃ s, s = TCPClient.machine.reached TCPClient.booted
    (TCPClient.typed "/rename user" ++ TCPClient.greeted) := ⟨_, rfl⟩
  have run : Run TCPClient.machine _ renamed := same ▸ Run.reached TCPClient.booted_init rfl
  have computed : renamed.client.dname = bytes "user" ∧
      (TCPClient.machine.step renamed (.recv (.byte 10))).isSome = true ∧
      .send (chatLine (bytes "ERR") (bytes "user") unexpected) () ∈
        (TCPClient.machine.move renamed (.recv (.byte 10))).2 := by
    rw [same]
    decide +kernel
  obtain ⟨name, moves, sent⟩ := computed
  have introduced := (TCPClient.dname_ne_nil_iff run).mp (by rw [name]; decide)
  have legible : Legible (LineReads (chatLine (bytes "ERR") (bytes "user") unexpected))
      renamed.client.dname :=
    ((error_name_iff 4567).1 _ _ [] _ (run.move (.recv (.byte 10)) moves) _ sent ⟨_, rfl⟩).mpr introduced
  rw [name] at legible
  exact legible

/-- **A server that speaks first** is sent an ERR without a name on either transport, and no reading of
it has a name that `/auth` accepts. -/
theorem nameless_error :
    (∃ s earlier t, Run TCPClient.machine (earlier ++ [t]) s ∧
      .send (chatLine (bytes "ERR") [] unexpected) () ∈ t.out ∧
      ∀ name text, Field .dname name →
        ¬ LineReads (chatLine (bytes "ERR") [] unexpected) name text) ∧
    (∃ s earlier t, Run (UDPClient.machine 4567) (earlier ++ [t]) s ∧
      .send (Outgoing.udp 0 (.err [] unexpected)) 4567 ∈ t.out ∧
      ∀ name text, Field .dname name →
        ¬ DatagramReads (Outgoing.udp 0 (.err [] unexpected)) name text) := by
  have tcp : Run TCPClient.machine _ (TCPClient.machine.reached TCPClient.booted TCPClient.greeted) :=
    Run.reached TCPClient.booted_init rfl
  have udp : Run (UDPClient.machine 4567) _
    ((UDPClient.machine 4567).reached UDPClient.booted [UDPClient.socketReady]) :=
    Run.reached UDPClient.booted_init rfl
  refine ⟨⟨_, _, _, tcp.move (.recv (.byte 10)) (by decide +kernel), by decide +kernel, ?_⟩,
    ⟨_, _, _, udp.move (UDPClient.heardFrom 4567 greetingDatagram) (by decide +kernel),
      by decide +kernel, ?_⟩⟩
  · intro name text named read
    have free : (32 : UInt8) ∉ name := blank_not_mem (by decide) named.2
    exact named.1 (chatLine_inj List.not_mem_nil free read).1.symm
  · rintro name text named ⟨id, same⟩
    have valid : (Outgoing.err name text).Validated := named.2
    have empty : (Outgoing.err [] unexpected).Validated := rfl
    obtain ⟨_, same⟩ := udp_injective empty valid same
    cases same
    exact named.1 rfl

end Ipk24Chat
