/-
**What the clients hand to `send` and `sendto`.**

`BuildsTcp name` and `BuildsUdp name` are the objects on which a client with this display name calls
`process_outgoing_msg`: one for a line of the user, and the ones it builds of its own accord
(`Automatic` for UDP). `AllSent P out` says that every datagram sent by a step meets `P`.

* `handled_sent`, `receiveInMain_sent`: what a datagram of the server makes the client send;
* `TCPClient.step_sent`, `UDPClient.step_sent`: every step sends what the client has built, and the
  name was valid when it was built.
-/

import Ipk24Chat.Stdin.UserInput
import Ipk24Chat.Udp.Confirmation

namespace Ipk24Chat

open Reactive

/-! ### Objects -/

/-- The texts of the errors a client sends. -/
def errTexts : List Str :=
  [bytes "Unknown or invalid message at current state.",
    bytes "Unknown or invalid message at current state"]

/-- The objects a TCP client builds. -/
inductive BuildsTcp (name : Str) : TCPMessage → Prop
  | line (line : Str) : BuildsTcp name ((NetworkMessage.new line .userCmd).setDisplayName name)
  | err {text : Str} : text ∈ errTexts →
      BuildsTcp name ((NetworkMessage.new text .customErr).setDisplayName name)
  | bye : BuildsTcp name (NetworkMessage.new (bytes "BYE") .bye)

/-- The objects a UDP client builds without the user. -/
inductive Automatic (name : Str) : UDPMessage → Prop
  | err (id : UInt16) : Automatic name
      ((UDPMessage.new (bytes "Unknown or invalid message at current state.") .customErr
        id).setDisplayName name)
  | bye (id : UInt16) : Automatic name (UDPMessage.new (bytes "BYE") .bye id)
  | confirm (id : UInt16) : Automatic name (UDPMessage.new [] .confirm id)

/-- The objects a UDP client builds. -/
inductive BuildsUdp (name : Str) : UDPMessage → Prop
  | line (line : Str) (id : UInt16) : BuildsUdp name (UDPMessage.ofLine name line id)
  | automatic {m : UDPMessage} : Automatic name m → BuildsUdp name m

/-! ### Effects -/

section AllSent

variable {dest : Type} {P Q : Str → Prop} {out out' : List (Effect dest)}

/-- Every datagram that is sent meets `P`. -/
def AllSent (P : Str → Prop) (out : List (Effect dest)) : Prop :=
  ∀ d target, .send d target ∈ out → P d

theorem AllSent.nil : AllSent P ([] : List (Effect dest)) :=
  fun _ _ member => absurd member List.not_mem_nil

theorem AllSent.printed (lines : List Output) : AllSent P (lines.map (Effect.print : Output → Effect dest)) := by
  intro d target member
  obtain ⟨line, _, same⟩ := List.mem_map.mp member
  cases same

theorem AllSent.one {d : Str} (holds : P d) (target : dest) : AllSent P [.send d target] := by
  intro d' target' member
  obtain ⟨rfl, _⟩ := Effect.send.inj (List.mem_singleton.mp member)
  exact holds

theorem AllSent.append (first : AllSent P out) (second : AllSent P out') : AllSent P (out ++ out') := by
  intro d target member
  rcases List.mem_append.mp member with member | member
  · exact first d target member
  · exact second d target member

theorem AllSent.imp (sent : AllSent P out) (weaker : ∀ d, P d → Q d) : AllSent Q out :=
  fun d target member => weaker d (sent d target member)

end AllSent

/-! ### The TCP client -/

namespace TCPClient

/-- A line that a client with this name has built. -/
def Built (name content : Str) : Prop :=
  ∃ m, BuildsTcp name m ∧ content = (TCPMessage.processOutgoingMsg m).1.getOutputBuffer

theorem exitProgram_sent (c : TCPClient) (name : Str) (sendBye : Bool) (ret : ExitCode) :
    AllSent (Built name) (c.exitProgram sendBye ret).effects := by
  cases sendBye with
  | false => exact .nil
  | true => exact .one ⟨_, .bye, rfl⟩ ()

theorem gracefulExit_sent (c : TCPClient) (name : Str) :
    AllSent (Built name) c.gracefulExit.effects := by
  unfold gracefulExit
  split
  · exact exitProgram_sent c name _ _
  · exact exitProgram_sent c name _ _

theorem sendErr_sent (c : TCPClient) {text : Str} (known : text ∈ errTexts) :
    AllSent (Built c.dname) (c.sendErr text).effects :=
  (AllSent.one ⟨_, .err known, rfl⟩ ()).append (exitProgram_sent c c.dname true .failure)

theorem handleStartState_sent (c : TCPClient) (m : TCPMessage) :
    AllSent (Built c.dname) (c.handleStartState m).effects := by
  unfold handleStartState
  split
  · exact sendErr_sent c List.mem_cons_self
  · exact .nil

theorem handleAuthState_sent (c : TCPClient) (m : TCPMessage) :
    AllSent (Built c.dname) (c.handleAuthState m).effects := by
  unfold handleAuthState
  split
  · split
    · exact .printed [m.printMessage]
    · exact .nil
  · split
    · exact .printed [m.printMessage]
    · exact .nil
  · exact exitProgram_sent c c.dname _ _
  · exact sendErr_sent c List.mem_cons_self
  · exact sendErr_sent c List.mem_cons_self
  · exact sendErr_sent c List.mem_cons_self
  · exact .nil

theorem handleOpenState_sent (c : TCPClient) (m : TCPMessage) :
    AllSent (Built c.dname) (c.handleOpenState m).effects := by
  unfold handleOpenState
  split
  · exact exitProgram_sent c c.dname _ _
  · exact exitProgram_sent c c.dname _ _
  · split
    · exact .printed [m.printMessage]
    · exact .nil
  · split
    · exact .printed [m.printMessage]
    · exact .nil
  · exact .nil
  · exact sendErr_sent c (List.mem_cons_of_mem _ List.mem_cons_self)

/-- **A message of the server** makes the client send an ERR and a BYE, or nothing but a BYE. -/
theorem receive_sent (c : TCPClient) (d : Str) : AllSent (Built c.dname) (c.receive d).effects := by
  rw [receive_eq]
  cases decoded d with
  | error e => exact .nil
  | ok r =>
    refine (AllSent.printed r.2).append ?_
    unfold handleInbound
    split
    · exact handleStartState_sent c r.1
    · exact handleAuthState_sent c r.1
    · exact handleOpenState_sent c r.1

theorem userLine_sent (c : TCPClient) (line : Str) :
    AllSent (Built c.dname) (c.userLine line).effects := by
  have lined := userLine_lined c line
  generalize c.userLine line = o at lined
  cases lined with
  | kept _ lines => exact .printed lines
  | sent _ _ _ lines _ => exact (AllSent.printed lines).append (.one ⟨_, .line line, rfl⟩ ())

theorem pollStep_sent (s : State) (result : PollResult) :
    AllSent (Built s.client.dname) (pollStep s result).2 := by
  cases result with
  | failed => exact (AllSent.printed [.notice .pollFailed]).append (exitProgram_sent s.client _ _ _)
  | ready socket stdin =>
    simp only [pollStep]
    split
    · exact .nil
    · exact .nil

theorem acceptByte_sent (s : State) (buffer : Str) :
    AllSent (Built s.client.dname) (acceptByte s buffer).2 := by
  unfold acceptByte
  split
  · exact receive_sent s.client buffer
  · exact .nil

theorem acceptStep_sent (s : State) (buffer : Str) (r : Recv) :
    AllSent (Built s.client.dname) (acceptStep s buffer r).2 := by
  cases r with
  | byte value => exact acceptByte_sent s _
  | failed held => exact acceptByte_sent s _
  | closed => exact (AllSent.printed [.notice .noData]).append (exitProgram_sent s.client _ _ _)

theorem getlineStep_sent (s : State) (line : Option Str) :
    AllSent (Built s.client.dname) (getlineStep s line).2 := by
  cases line with
  | none => exact exitProgram_sent s.client s.client.dname true .failure
  | some text => exact userLine_sent s.client text

/-- **Every step sends what the client has built** under the name it has before the step. -/
theorem step_sent {s s' : State} {e : Event} {out : List (Effect Unit)}
    (made : step s e = some (s', out)) : AllSent (Built s.client.dname) out := by
  cases step_calls made with
  | gracefulExit made =>
    cases made
    exact gracefulExit_sent s.client _
  | pollStep _ made =>
    obtain rfl := congrArg Prod.snd made
    exact pollStep_sent s _
  | acceptStep _ made =>
    obtain rfl := congrArg Prod.snd made
    exact acceptStep_sent s _ _
  | getlineStep _ made =>
    obtain rfl := congrArg Prod.snd made
    exact getlineStep_sent s _

end TCPClient

/-! ### The UDP client -/

namespace UDPClient

/-- A datagram that a client with this name has built without the user. -/
def Reacted (name content : Str) : Prop :=
  ∃ m, Automatic name m ∧ content = m.processOutgoingMsg.1.udpBuffer

/-- A datagram built from a line of the user, under a valid name. -/
def FromUser (content : Str) : Prop :=
  ∃ name line id, validateMsgParam name .dname = true ∧
    content = (UDPMessage.ofLine name line id).processOutgoingMsg.1.udpBuffer

theorem sendMsg_sent {P : Str → Prop} (c : UDPClient) {m : UDPMessage} (holds : P m.udpBuffer) :
    AllSent P (c.sendMsg m) := .one holds c.aiPort

theorem confirm_sent (c : UDPClient) (name : Str) (id : UInt16) :
    AllSent (Reacted name) (c.sendMsg (confirmMsg id)) := sendMsg_sent c ⟨_, .confirm id, rfl⟩

theorem exitProgram_sent (c : UDPClient) (name : Str) (sendBye : Bool) (ret : ExitCode) :
    AllSent (Reacted name) (c.exitProgram sendBye ret).effects := by
  cases sendBye with
  | false => exact .nil
  | true => exact sendMsg_sent c ⟨_, .bye c.nextId, rfl⟩

theorem gracefulExit_sent (c : UDPClient) (name : Str) :
    AllSent (Reacted name) c.gracefulExit.effects := by
  unfold gracefulExit
  split
  · exact exitProgram_sent c name _ _
  · exact exitProgram_sent c name _ _

theorem sendErrorExit_sent (c : UDPClient) : AllSent (Reacted c.dname) c.sendErrorExit.effects :=
  (sendMsg_sent c.erred ⟨_, .err c.nextId, rfl⟩).append (exitProgram_sent c.erred c.dname true .failure)

theorem sendConfimExit_sent (c : UDPClient) (name : Str) (m : UDPMessage) (exit : Bool) :
    AllSent (Reacted name) (c.sendConfimExit m exit).effects := by
  unfold sendConfimExit
  rw [sendConfirm_andThen]
  refine (confirm_sent c name _).append ?_
  split
  · split
    · exact exitProgram_sent c name _ _
    · exact exitProgram_sent c name _ _
  · exact .nil

theorem handleConfirm_sent (c : UDPClient) (name : Str) (m : UDPMessage) :
    AllSent (Reacted name) (c.handleConfirm m).effects := by
  unfold handleConfirm
  split
  · exact .nil
  · exact .nil

theorem handleReply_sent (c : UDPClient) (name : Str) (m : UDPMessage) (switchPort : Bool)
    (next : FsmState) : AllSent (Reacted name) (c.handleReply m switchPort next).effects := by
  unfold handleReply
  simp only
  split
  · generalize (if switchPort then _ else _ : UDPClient) = c
    split
    · exact (AllSent.printed [m.printMessage]).append (sendConfimExit_sent _ name m false)
    · exact sendConfimExit_sent c name m false
  · exact sendConfimExit_sent _ name m false

theorem handleAuthState_sent (c : UDPClient) (m : UDPMessage) :
    AllSent (Reacted c.dname) (c.handleAuthState m).effects := by
  unfold handleAuthState
  split
  · exact handleConfirm_sent c _ m
  · exact handleReply_sent c _ m _ _
  · exact handleReply_sent c _ m _ _
  · exact sendConfimExit_sent c _ m true
  · exact (confirm_sent c _ _).append (sendErrorExit_sent c)
  · exact .nil

theorem handleOpenState_sent (c : UDPClient) (m : UDPMessage) (bytesRx : Nat) :
    AllSent (Reacted c.dname) (c.handleOpenState m bytesRx).effects := by
  unfold handleOpenState
  split
  · exact (AllSent.printed _).append ((confirm_sent c _ _).append (exitProgram_sent c _ _ _))
  · exact (AllSent.printed _).append ((confirm_sent c _ _).append (exitProgram_sent c _ _ _))
  · exact handleConfirm_sent c _ m
  · exact handleReply_sent c _ m _ _
  · exact handleReply_sent c _ m _ _
  · exact sendConfimExit_sent _ _ m false
  · exact (AllSent.printed _).append ((confirm_sent c _ _).append (sendErrorExit_sent c))

/-- **A datagram in the loop of `handle_timeout`** makes the client send a CONFIRM, an ERR or a BYE. -/
theorem handled_sent (c : UDPClient) (d : Str) : AllSent (Reacted c.dname) (c.handled d).effects := by
  by_cases seen : c.Seen d
  · rw [handled_seen seen]
    exact .nil
  rw [handled_fresh seen, Outcome.after_effects]
  refine (AllSent.printed _).append ?_
  cases c.clientState with
  | startState => exact (AllSent.printed [.notice .unknownAtState]).append (exitProgram_sent c _ _ _)
  | authState => exact handleAuthState_sent c _
  | openState => exact handleOpenState_sent c _ _

theorem preHandle_sent (c : UDPClient) (m : UDPMessage) (bytesRx : Nat) :
    AllSent (Reacted c.dname) (c.preHandle m bytesRx).effects := by
  unfold preHandle
  simp only [sendConfirm_andThen]
  split
  · exact (AllSent.printed _).append ((confirm_sent c _ _).append (exitProgram_sent c _ _ _))
  split
  · exact (AllSent.printed _).append ((confirm_sent c _ _).append (sendErrorExit_sent c))
  split
  · exact (confirm_sent c _ _).append (sendErrorExit_sent c)
  split
  · exact (confirm_sent c _ _).append (sendErrorExit_sent c)
  · exact .nil

/-- **A datagram in the main loop** as well. -/
theorem receiveInMain_sent (c : UDPClient) (d : Str) :
    AllSent (Reacted c.dname) (c.receiveInMain d).effects := by
  by_cases early : c.PreHandled d
  · rw [receiveInMain_eq_preHandle early]
    exact (AllSent.printed _).append (preHandle_sent c _ _)
  · rw [receiveInMain_eq_handled early]
    exact handled_sent c d

theorem userMsg_fromUser {c : UDPClient} (named : c.WellNamed) (line : Str) :
    FromUser (c.userMsg line).1.udpBuffer := ⟨c.dname, line, c.nextId, named.valid, rfl⟩

theorem userLine_sent {c : UDPClient} (named : c.WellNamed) (line : Str) :
    AllSent FromUser (c.userLine line).effects := by
  have lined := userLine_lined c line
  generalize c.userLine line = o at lined
  cases lined with
  | kept _ _ lines => exact (AllSent.printed lines).append .nil
  | sent _ _ _ lines _ =>
    exact (AllSent.printed lines).append (sendMsg_sent _ (userMsg_fromUser named line))

/-- What a step sends: a reaction under the name the client has before the step, or a message of the
user. -/
def Sent (name content : Str) : Prop := Reacted name content ∨ FromUser content

theorem pollStep_sent (s : State) (result : PollResult) :
    AllSent (Reacted s.client.dname) (pollStep s result).2 := by
  cases result with
  | failed => exact (AllSent.printed [.notice .pollFailed]).append (exitProgram_sent s.client _ _ _)
  | ready socket stdin =>
    simp only [pollStep]
    split
    · exact .nil
    split
    · exact .nil
    · exact .nil

theorem acceptStep_sent (s : State) (r : Received) :
    AllSent (Reacted s.client.dname) (acceptStep s r).2 := by
  unfold acceptStep
  split
  · split
    · exact .printed [.notice .timeoutApplied]
    · exact (AllSent.printed [.notice .noData]).append (exitProgram_sent s.client _ _ _)
  · exact receiveInMain_sent { s.client with serverPort := r.port } r.buffer

theorem timeoutStep_sent (s : State) {m : UDPMessage} (k : Nat) (r : Received)
    (carried : FromUser m.udpBuffer) : AllSent (Sent s.client.dname) (timeoutStep s m k r).2 := by
  have reacts {out : List (Effect UInt16)} (sent : AllSent (Reacted s.client.dname) out) :
      AllSent (Sent s.client.dname) out := sent.imp fun _ => Or.inl
  unfold timeoutStep
  simp only
  split
  · split
    · split
      · exact reacts ((AllSent.printed [.notice .maxTimeouts]).append (exitProgram_sent s.client _ _ _))
      · exact sendMsg_sent s.client (Or.inr carried)
    · exact .printed [.notice .noData]
  · rw [receiveInTimeout_eq]
    split
    · exact .nil
    · exact reacts (handled_sent s.client r.buffer)

/-- **Every step of a run sends** a reaction or a message of the user. -/
theorem step_sent {port : UInt16} {s s' : State} {e : Event} {out : List (Effect UInt16)}
    (reachable : Reachable (machine port) s) (made : step s e = some (s', out)) :
    AllSent (Sent s.client.dname) out := by
  have carries : Carries (fun m => FromUser m.udpBuffer) s :=
    carries_reachable (fun s reachable line => userMsg_fromUser (wellNamed_reachable reachable) line)
      reachable
  have reacts {out : List (Effect UInt16)} (sent : AllSent (Reacted s.client.dname) out) :
      AllSent (Sent s.client.dname) out := sent.imp fun _ => Or.inl
  cases step_calls made with
  | gracefulExit _ made =>
    obtain rfl := congrArg Prod.snd made
    exact reacts (gracefulExit_sent s.client _)
  | pollStep _ made =>
    obtain rfl := congrArg Prod.snd made
    exact reacts (pollStep_sent s _)
  | acceptStep _ made =>
    obtain rfl := congrArg Prod.snd made
    exact reacts (acceptStep_sent s _)
  | @getlineStep line _ _ _ made =>
    obtain rfl := congrArg Prod.snd made
    cases line with
    | none => exact reacts (exitProgram_sent s.client s.client.dname true .failure)
    | some text => exact (userLine_sent (wellNamed_reachable reachable) text).imp fun _ => Or.inr
  | timeoutStep waiting made =>
    obtain rfl := congrArg Prod.snd made
    exact timeoutStep_sent s _ _ (carries _ _ waiting)
  | @byeStep k ret r _ _ _ made =>
    obtain rfl := congrArg Prod.snd made
    obtain ⟨_, notices, _, spec⟩ := byeStep_spec s k ret r
    rw [spec]
    exact .printed _

end UDPClient

end Ipk24Chat
