/-
**Lines of the user, from stdin to the wire.**

Both clients do with a line what its `fate` says (`userLine_fate`), and both keep a display name that
is valid (`wellNamed_reachable`). `user_input_iff` joins the two: a line that is handed to `send_msg`
becomes one complete valid message, and a line that is rejected or blank puts nothing on the wire,
exactly when the client is not in OPEN_STATE or the line is not `Unsendable`.
-/

import Ipk24Chat.Stdin.Fate
import Ipk24Chat.Tcp.Encoding
import Ipk24Chat.Tcp.Stepping
import Ipk24Chat.Udp.Encoding
import Ipk24Chat.Udp.Stepping

namespace Ipk24Chat

open Reactive

/-! ### The TCP client -/

namespace TCPClient

theorem userMsg_describes (c : TCPClient) (line : Str) :
    (command line).Describes c.dname (c.userMsg line).1 (c.userMsg line).2 := by
  have checks := checkUserMessage_checks
    (m := (NetworkMessage.new line .userCmd).setDisplayName c.dname) rfl
  obtain ⟨ready, type, name, printed⟩ := checks.describes rfl
  obtain ⟨buffer, frame⟩ := TCPMessage.processOutgoingMsg_frame
    ((NetworkMessage.new line .userCmd).setDisplayName c.dname)
  unfold userMsg
  rw [frame]
  exact ⟨ready, type, name, printed⟩

/-- **A line, by the command it is.** -/
theorem userLine_eq (c : TCPClient) {line : Str} (typed : line ≠ []) : c.userLine line =
    ((if (command line).ready then
        (c.named ((command line).name c.dname)).dispatch (c.userMsg line).1
      else toPoll (c.named ((command line).name c.dname)) []).after
      (printed (command line).printed)) := by
  obtain ⟨ready, _, name, lines⟩ := c.userMsg_describes line
  have taken : (if (c.userMsg line).1.type = .auth ∨ (c.userMsg line).1.type = .rename then
      { c with dname := (c.userMsg line).1.displayName } else c) =
      c.named ((command line).name c.dname) := by
    rw [← name]
    split
    · rfl
    · rfl
  unfold userLine
  rw [if_neg typed]
  simp only [taken, ready, lines]

/-- The state and the name of the client are as they have to be. -/
def WellNamed (c : TCPClient) : Prop := Named c.clientState c.dname

/-- **The TCP client does what the fate of the line says**, and keeps a valid name. -/
theorem userLine_fate {c : TCPClient} (valid : c.WellNamed) {line : Str} (typed : line ≠ []) :
    ∃ c' : TCPClient, c'.WellNamed ∧ c.userLine line = toPoll c'
      ((fate c.clientState c.replyMsgSent c.dname line).effects Request.tcp ()) := by
  have type := (c.userMsg_describes line).type
  have wire : (c.userMsg line).1.getOutputBuffer =
      ((command line).request c.dname line).elim [] Request.tcp :=
    TCPMessage.output_userCmd (nul_not_mem valid.valid) line
  rw [userLine_eq c typed]
  unfold fate
  cases ready : (command line).ready with
  | false => exact ⟨c.named _, valid.line line Or.inl, rfl⟩
  | true =>
    rw [if_pos rfl, if_pos rfl, dispatch_eq, type ready]
    have state : (c.named ((command line).name c.dname)).clientState = c.clientState := rfl
    rw [state]
    by_cases admits : Admits c.clientState (command line).type = true
    · rw [if_pos admits, if_pos admits]
      refine ⟨(c.named ((command line).name c.dname)).requested (isRequest (command line).type)
        c.clientState.sent, valid.line line fun _ => leaves_of_admits admits, ?_⟩
      simp only [toPoll_after, sendMsg, wire]
      rfl
    · rw [if_neg admits, if_neg admits]
      refine ⟨c.named ((command line).name c.dname), valid.line line Or.inl, ?_⟩
      rw [toPoll_after, printed, printed, ← List.map_append]
      simp only [Fate.effects, Option.elim_none, List.append_nil]
      rfl

theorem userLine_wellNamed {c : TCPClient} (named : c.WellNamed) (line : Str) :
    (c.userLine line).client.WellNamed := by
  by_cases typed : line = []
  · unfold userLine
    rw [if_pos typed]
    exact named
  · obtain ⟨c', named', same⟩ := userLine_fate named typed
    rw [same]
    exact named'

theorem Heard.wellNamed {c : TCPClient} {d : Str} {o : Outcome} (heard : Heard c d o)
    (named : c.WellNamed) : o.client.WellNamed := by
  have begun : c.clientState ≠ .startState → ∀ m, (c.replied m).WellNamed := fun begun _ =>
    .of_field (named.field begun) _
  cases heard with
  | thrown => exact named
  | leaving _ leaving => rwa [leaving.client]
  | authenticated _ _ auth => exact begun (by simp [auth]) _
  | joined _ _ isOpen => exact begun (by simp [isOpen]) _
  | stray => exact named
  | msg => exact named

theorem step_wellNamed {s s' : State} {e : Event} {out : List (Effect Unit)}
    (named : s.client.WellNamed) (made : step s e = some (s', out)) : s'.client.WellNamed := by
  cases step_moves made with
  | leave back leaving =>
    rwa [show (s.resume back _).1.client = s.client from leaving.client]
  | poll socket stdin _ => rwa [pollStep_client]
  | byte => exact named
  | message _ _ _ _ _ _ heard => exact heard.wellNamed named
  | line text control _ =>
    rw [(step_getline made).1]
    exact userLine_wellNamed named text

/-- **In every run the display name is valid**, and there is one behind START_STATE. -/
theorem wellNamed_reachable {s : State} (reachable : Reachable machine s) : s.client.WellNamed := by
  refine reachable.invariant (fun s => s.client.WellNamed) ?_ ?_
  · rintro s ⟨revents, rfl⟩
    exact ⟨rfl, fun begun => absurd rfl begun⟩
  · intro s e s' out named made
    exact step_wellNamed named made

end TCPClient

/-! ### The UDP client -/

namespace UDPClient

theorem userMsg_describes (c : UDPClient) (line : Str) :
    (command line).Describes c.dname (c.userMsg line).1.toNetworkMessage (c.userMsg line).2 := by
  obtain ⟨ready, type, name, printed⟩ := (UDPMessage.ofLine_checks c.dname line c.nextId).describes rfl
  obtain ⟨buffer, frame⟩ := UDPMessage.processOutgoingMsg_frame
    (show (UDPMessage.ofLine c.dname line c.nextId).type = .userCmd from rfl)
  have built : c.userMsg line = (UDPMessage.ofLine c.dname line c.nextId).processOutgoingMsg := rfl
  rw [built, frame]
  exact ⟨ready, type, name, printed⟩

theorem userMsg_messageId (c : UDPClient) (line : Str) :
    (c.userMsg line).1.messageId = c.nextId := by
  obtain ⟨buffer, frame⟩ := UDPMessage.processOutgoingMsg_frame
    (show (UDPMessage.ofLine c.dname line c.nextId).type = .userCmd from rfl)
  have built : c.userMsg line = (UDPMessage.ofLine c.dname line c.nextId).processOutgoingMsg := rfl
  rw [built, frame]
  rfl

theorem userLine_eq (c : UDPClient) {line : Str} (typed : line ≠ []) : c.userLine line =
    ((if (command line).ready then
        (c.named ((command line).name c.dname) c.msgCounter).dispatch (c.userMsg line).1
      else .done (c.named ((command line).name c.dname) c.msgCounter)).after
      (printed (command line).printed)) := by
  obtain ⟨ready, _, name, lines⟩ := c.userMsg_describes line
  have taken : (if (c.userMsg line).1.type = .auth ∨ (c.userMsg line).1.type = .rename then
      { c with dname := (c.userMsg line).1.displayName } else c) =
      c.named ((command line).name c.dname) c.msgCounter := by
    rw [← name]
    split
    · rfl
    · rfl
  unfold userLine
  rw [if_neg typed]
  simp only [taken, ready, lines]

/-- The state and the name of the client are as they have to be. -/
def WellNamed (c : UDPClient) : Prop := Named c.clientState c.dname

/-- The outcome of a line of this fate. -/
structure Follows (c : UDPClient) (f : Fate) (o : Outcome) : Prop where
  effects : o.effects = f.effects (Request.udp c.nextId) c.aiPort
  /-- Without a message there is no wait for a CONFIRM. -/
  idle : f.handed = none → o.blocked = none ∧ o.client.confirmMsgSent = c.confirmMsgSent
  wellNamed : o.client.WellNamed

/-- **The UDP client does what the fate of the line says**, and keeps a valid name. -/
theorem userLine_fate {c : UDPClient} (valid : c.WellNamed) {line : Str} (typed : line ≠ []) :
    c.Follows (fate c.clientState c.replyMsgSent c.dname line) (c.userLine line) := by
  have type := (c.userMsg_describes line).type
  have wire : (c.userMsg line).1.udpBuffer =
      ((command line).request c.dname line).elim [] (Request.udp c.nextId) :=
    UDPMessage.udpBuffer_userCmd c.dname line c.nextId
  rw [userLine_eq c typed]
  unfold fate
  cases ready : (command line).ready with
  | false => exact ⟨rfl, fun _ => ⟨rfl, rfl⟩, valid.line line Or.inl⟩
  | true =>
    rw [if_pos rfl, if_pos rfl, dispatch_eq, type ready]
    have state : (c.named ((command line).name c.dname) c.msgCounter).clientState = c.clientState := rfl
    rw [state]
    by_cases admits : Admits c.clientState (command line).type = true
    · rw [if_pos admits, if_pos admits]
      refine ⟨?_, fun kept => (by cases kept), valid.line line fun _ => leaves_of_admits admits⟩
      simp only [Fate.effects, Option.elim_some, ← wire]
      rfl
    · rw [if_neg admits, if_neg admits]
      refine ⟨?_, fun _ => ⟨rfl, rfl⟩, valid.line line Or.inl⟩
      simp only [Fate.effects, Option.elim_none, List.append_nil, List.map_append,
        Outcome.after_effects, Outcome.done]
      rfl

theorem userLine_wellNamed {c : UDPClient} (named : c.WellNamed) (line : Str) :
    (c.userLine line).client.WellNamed := by
  by_cases typed : line = []
  · unfold userLine
    rw [if_pos typed]
    exact named
  · exact (userLine_fate named typed).wellNamed

theorem Handled.wellNamed {c : UDPClient} {d : Str} {o : Outcome} (handled : Handled c d o)
    (named : c.WellNamed) : o.client.WellNamed := by
  cases handled with
  | skipped => exact named
  | confirmed => exact named
  | unmatched => exact named
  | reply _ _ _ begun => exact .of_field (named.field begun) _
  | msg => exact named
  | dropped => exact named
  | leaving _ _ leaving => exact leaving.preserves named named

theorem step_wellNamed {s s' : State} {e : Event} {out : List (Effect UInt16)}
    (named : s.client.WellNamed) (made : step s e = some (s', out)) : s'.client.WellNamed := by
  cases step_moves made with
  | leave _ leaving => exact leaving.preserves named named
  | poll socket stdin _ => rwa [pollStep_client]
  | idle => exact named
  | accept _ _ _ handled => exact handled.wellNamed named
  | line text control _ =>
    rw [(step_getline made).1]
    exact userLine_wellNamed named text
  | resend => exact named
  | giveUp => exact named
  | awaited => exact named
  | receive _ _ _ _ _ _ handled => exact handled.wellNamed named
  | bye => exact named

/-- **In every run the display name is valid**, and there is one behind START_STATE. -/
theorem wellNamed_reachable {port : UInt16} {s : State} (reachable : Reachable (machine port) s) :
    s.client.WellNamed := by
  refine reachable.invariant (fun s => s.client.WellNamed) ?_ ?_
  · rintro s ⟨limit, revents, rfl⟩
    exact ⟨rfl, fun begun => absurd rfl begun⟩
  · intro s e s' out named made
    exact step_wellNamed named made

end UDPClient

/-! ### Both clients -/

namespace TCPClient

/-- **A line in a run of the TCP client.** -/
theorem faithful_iff {s s' : State} {line : Str} {out : List (Effect Unit)}
    (reachable : Reachable machine s) (made : step s (.getline (some line)) = some (s', out))
    (typed : line ≠ []) :
    Faithful Request.tcp line out ↔ ¬ (s.client.clientState = .openState ∧ Unsendable line) := by
  have named := wellNamed_reachable reachable
  obtain ⟨c', _, follows⟩ := userLine_fate named typed
  rw [(step_getline made).2, follows]
  exact effects_faithful_iff Request.tcp_ne_nil named s.client.replyMsgSent line ()

end TCPClient

namespace UDPClient

/-- A line that is rejected or blank starts no wait for a CONFIRM. -/
def WaitsOnlyForMessages (line : Str) (t : Transition State Event (Effect UInt16)) : Prop :=
  Rejected t.out ∨ Blank line →
    t.after.control = .poll ∧ t.after.client.confirmMsgSent = t.before.client.confirmMsgSent

/-- **A line in a run of the UDP client.** -/
theorem faithful_iff {port : UInt16} {s s' : State} {line : Str} {out : List (Effect UInt16)}
    (reachable : Reachable (machine port) s)
    (made : step s (.getline (some line)) = some (s', out)) (typed : line ≠ []) :
    (Faithful (Request.udp s.client.nextId) line out ∧
      WaitsOnlyForMessages line ⟨s, .getline (some line), s', out⟩) ↔
      ¬ (s.client.clientState = .openState ∧ Unsendable line) := by
  have named := wellNamed_reachable reachable
  have follows := userLine_fate named typed
  obtain ⟨rfl, rfl⟩ := step_getline made
  have handles := effects_faithful_iff (Request.udp_ne_nil s.client.nextId) named
    s.client.replyMsgSent line s.client.aiPort
  rw [← follows.effects] at handles
  refine ⟨fun both => handles.mp both.1, fun clear => ⟨handles.mpr clear, fun silent => ?_⟩⟩
  have faithful := (fate_faithful_iff named s.client.replyMsgSent line).mpr clear
  have silent : Rejected (s.client.userLine line).effects ∨ Blank line := silent
  rw [follows.effects, Fate.rejected_iff] at silent
  obtain ⟨returns, flag⟩ := follows.idle (faithful.silent silent)
  exact ⟨s.resume_of_returns returns, flag⟩

end UDPClient

/-- **User input to wire**: in both clients a line that is handed to `send_msg` becomes one complete
valid message, and a line that is rejected or blank sends nothing and starts no wait, exactly when the
client is not in OPEN_STATE or the line is neither blank nor a text that is refused. -/
theorem user_input_iff {line : Str} (typed : line ≠ []) :
    (∀ (s s' : TCPClient.State) (out : List (Effect Unit)), Reachable TCPClient.machine s →
      TCPClient.step s (.getline (some line)) = some (s', out) →
      (Faithful Request.tcp line out ↔ ¬ (s.client.clientState = .openState ∧ Unsendable line))) ∧
    (∀ (port : UInt16) (s s' : UDPClient.State) (out : List (Effect UInt16)),
      Reachable (UDPClient.machine port) s →
      UDPClient.step s (.getline (some line)) = some (s', out) →
      ((Faithful (Request.udp s.client.nextId) line out ∧
        UDPClient.WaitsOnlyForMessages line ⟨s, .getline (some line), s', out⟩) ↔
        ¬ (s.client.clientState = .openState ∧ Unsendable line))) :=
  ⟨fun _ _ _ reachable made => TCPClient.faithful_iff reachable made typed,
    fun _ _ _ _ reachable made => UDPClient.faithful_iff reachable made typed⟩

/-- The first line of a session, in both clients. -/
theorem user_input_auth :
    Faithful Request.tcp (bytes "/auth u s d")
        [.send (bytes "AUTH u AS d USING s" ++ [13, 10]) ()] ∧
      Faithful (Request.udp 0) (bytes "/auth u s d")
        [.send ([UDP_AUTH, 0, 0] ++ bytes "u" ++ [0] ++ bytes "d" ++ [0] ++ bytes "s" ++ [0])
          (4567 : UInt16)] := by
  obtain ⟨tcp, udp⟩ := user_input_iff (show bytes "/auth u s d" ≠ [] by decide)
  refine ⟨(tcp (TCPClient.machine.reached TCPClient.booted [TCPClient.stdinReady])
      (TCPClient.machine.reached TCPClient.booted (TCPClient.typed "/auth u s d")) _
      (Run.reached TCPClient.booted_init rfl).reachable ?_).mpr fun bad => absurd bad.1 ?_,
    ((udp 4567 ((UDPClient.machine 4567).reached UDPClient.booted [UDPClient.stdinReady])
      ((UDPClient.machine 4567).reached UDPClient.booted (UDPClient.typed "/auth u s d")) _
      (Run.reached UDPClient.booted_init rfl).reachable ?_).mpr fun bad => absurd bad.1 ?_).1⟩
  · decide +kernel
  · decide +kernel
  · decide +kernel
  · decide +kernel

/-- A blank line in OPEN_STATE. -/
def TCPClient.blankTyped : List TCPClient.Event := TCPClient.signIn ++ TCPClient.typed " "

def UDPClient.blankTyped : List UDPClient.Event := UDPClient.signIn ++ UDPClient.typed " "

/-- **A blank line in OPEN_STATE** is sent as an empty buffer, and the UDP client waits for its
CONFIRM. -/
theorem user_input_blank :
    Reachable TCPClient.machine
      (TCPClient.machine.reached TCPClient.booted (TCPClient.signIn ++ [TCPClient.stdinReady])) ∧
    TCPClient.step
      (TCPClient.machine.reached TCPClient.booted (TCPClient.signIn ++ [TCPClient.stdinReady]))
      (.getline (some (bytes " "))) =
      some (TCPClient.machine.reached TCPClient.booted TCPClient.blankTyped, [.send [] ()]) ∧
    ¬ Faithful Request.tcp (bytes " ") [.send [] ()] ∧
    Reachable (UDPClient.machine 4567) ((UDPClient.machine 4567).reached UDPClient.booted
      (UDPClient.signIn ++ [UDPClient.stdinReady])) ∧
    UDPClient.step ((UDPClient.machine 4567).reached UDPClient.booted
      (UDPClient.signIn ++ [UDPClient.stdinReady])) (.getline (some (bytes " "))) =
      some ((UDPClient.machine 4567).reached UDPClient.booted UDPClient.blankTyped,
        [.send [] 5000]) ∧
    ¬ Faithful (Request.udp 1) (bytes " ") [.send [] (5000 : UInt16)] ∧
    ((UDPClient.machine 4567).reached UDPClient.booted UDPClient.blankTyped).control ≠ .poll := by
  refine ⟨(Run.reached TCPClient.booted_init rfl).reachable, by decide +kernel, fun faithful => ?_,
    (Run.reached UDPClient.booted_init rfl).reachable, by decide +kernel, fun faithful => ?_,
    by decide +kernel⟩
  · obtain ⟨r, _, empty⟩ := faithful.complete [] () List.mem_cons_self
    exact r.tcp_ne_nil empty.symm
  · obtain ⟨r, _, empty⟩ := faithful.complete [] 5000 List.mem_cons_self
    exact r.udp_ne_nil 1 empty.symm

end Ipk24Chat
