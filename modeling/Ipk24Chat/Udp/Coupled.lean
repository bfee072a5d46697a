/-
**Two UDP clients that differ in ports and contents only.**

A `Tolerance` says which destinations and which contents may stand for each other. Two clients are
`Alike` when they differ in the two ports alone, and tolerably: the port recorded by `accept_msg` matters
until the switch of the server port has taken it over. Two states may also differ in `fds[1].revents`
where the next `poll` overwrites it.

* `handled_alike`, `receiveInMain_alike`, `userLine_alike`: the handlers keep the relation;
* `coupled`: every step does, for each tolerance.
-/

import Ipk24Chat.Lib.Coupling
import Ipk24Chat.Stdin.UserInput
import Ipk24Chat.Udp.Confirmation

namespace Ipk24Chat

namespace UDPClient

open Reactive
open List (Forall₂)

/-! ### The relation -/

/-- What may stand for what: destinations, and contents of datagrams. -/
structure Tolerance where
  port : UInt16 → UInt16 → Prop
  content : Str → Str → Prop
  content_refl : ∀ d, content d d

/-- The client with other ports. -/
def redirect (c : UDPClient) (aiPort serverPort : UInt16) : UDPClient :=
  { c with aiPort := aiPort, serverPort := serverPort }

variable {τ : Tolerance}

/-- **Two clients that differ in their ports alone.** -/
inductive Alike (τ : Tolerance) (c : UDPClient) : UDPClient → Prop
  | redirected (aiPort serverPort : UInt16) : τ.port c.aiPort aiPort →
      (c.changeServerPort = true → τ.port c.serverPort serverPort) →
      Alike τ c (c.redirect aiPort serverPort)

inductive EffectAlike (τ : Tolerance) : Effect UInt16 → Effect UInt16 → Prop
  | send {d d' : Str} {port port' : UInt16} : τ.content d d' → τ.port port port' →
      EffectAlike τ (.send d port) (.send d' port')
  | print (line : Output) : EffectAlike τ (.print line) (.print line)

/-- Two messages waited for. -/
structure MsgAlike (τ : Tolerance) (m m' : UDPMessage) : Prop where
  id : m.messageId = m'.messageId
  content : τ.content m.udpBuffer m'.udpBuffer

inductive ControlAlike (τ : Tolerance) : Control → Control → Prop
  | same (k : Control) : ControlAlike τ k k
  | waiting {m m' : UDPMessage} (k : Nat) : MsgAlike τ m m' →
      ControlAlike τ (.handleTimeout m k) (.handleTimeout m' k)

structure OutcomeAlike (τ : Tolerance) (o o' : Outcome) : Prop where
  client : Alike τ o.client o'.client
  effects : Forall₂ (EffectAlike τ) o.effects o'.effects
  blocked : Option.Rel (ControlAlike τ) o.blocked o'.blocked

/-- The next `poll` writes `fds[1].revents`, or nothing looks at it any more. -/
def Repolls (s : State) : Prop :=
  (s.control = .poll ∧ s.client.pollCount = 2) ∨ s.control.leaving = true

structure StateAlike (τ : Tolerance) (s t : State) : Prop where
  client : Alike τ s.client t.client
  control : ControlAlike τ s.control t.control
  revents : s.revents = t.revents ∨ Repolls s

/-- Two lines the client handles alike. -/
structure LineAlike (τ : Tolerance) (line line' : Str) : Prop where
  typed : line = [] ↔ line' = []
  ready : (command line).ready = (command line').ready
  type : (command line).type = (command line').type
  name : ∀ name, (command line).name name = (command line').name name
  printed : (command line).printed = (command line').printed
  content : ∀ name id, τ.content (((command line).request name line).elim [] (Request.udp id))
    (((command line').request name line').elim [] (Request.udp id))

theorem LineAlike.refl (line : Str) : LineAlike τ line line :=
  ⟨Iff.rfl, rfl, rfl, fun _ => rfl, rfl, fun _ _ => τ.content_refl _⟩

inductive EventAlike (τ : Tolerance) : Event → Event → Prop
  | same {e : Event} : (∀ r, e ≠ .recvfrom r) → EventAlike τ e e
  | datagram {content : Str} {port port' : UInt16} {errno : Errno} : τ.port port port' →
      EventAlike τ (.recvfrom (.datagram content port errno)) (.recvfrom (.datagram content port' errno))
  | failed {errno : Errno} : EventAlike τ (.recvfrom (.failed errno)) (.recvfrom (.failed errno))
  | line {line line' : Str} : LineAlike τ line line' →
      EventAlike τ (.getline (some line)) (.getline (some line'))

/-! ### Clients -/

theorem Alike.port {c c' : UDPClient} (alike : Alike τ c c') : τ.port c.aiPort c'.aiPort := by
  cases alike with
  | redirected _ _ port _ => exact port

/-- **A change that has nothing to do with the ports** keeps the relation. -/
theorem Alike.map {c c' : UDPClient} (alike : Alike τ c c') (f : UDPClient → UDPClient)
    (commutes : ∀ p p', f (c.redirect p p') = (f c).redirect p p')
    (aiPort : (f c).aiPort = c.aiPort) (serverPort : (f c).serverPort = c.serverPort)
    (flag : (f c).changeServerPort = c.changeServerPort) : Alike τ (f c) (f c') := by
  cases alike with
  | redirected p p' port server =>
    rw [commutes]
    refine .redirected p p' ?_ ?_
    · rwa [aiPort]
    · rwa [flag, serverPort]

/-- Everything but the ports is the same. -/
theorem Alike.same {α : Type} {c c' : UDPClient} (alike : Alike τ c c') (f : UDPClient → α)
    (blind : ∀ p p', f (c.redirect p p') = f c) : f c' = f c := by
  cases alike with
  | redirected p p' _ _ => exact blind p p'

theorem Alike.pollCount {c c' : UDPClient} (alike : Alike τ c c') : c'.pollCount = c.pollCount :=
  alike.same UDPClient.pollCount fun _ _ => rfl

/-- The switch of the server port. -/
theorem Alike.switchServerPort {c c' : UDPClient} (alike : Alike τ c c') :
    Alike τ c.switchServerPort c'.switchServerPort := by
  cases alike with
  | redirected p p' port server =>
    unfold UDPClient.switchServerPort
    by_cases change : c.changeServerPort = true
    · have change' : (c.redirect p p').changeServerPort = true := change
      rw [if_pos change, if_pos change']
      exact .redirected p' p' (server change) fun unset => by cases unset
    · have change' : ¬ (c.redirect p p').changeServerPort = true := change
      rw [if_neg change, if_neg change']
      exact .redirected p p' port server

/-! ### Outcomes -/

theorem printed_alike (lines : List Output) :
    Forall₂ (EffectAlike τ) (printed lines) (printed lines) := by
  induction lines with
  | nil => exact .nil
  | cons line lines ih => exact .cons (.print line) ih

theorem Alike.sendMsg {c c' : UDPClient} (alike : Alike τ c c') {m m' : UDPMessage}
    (content : τ.content m.udpBuffer m'.udpBuffer) :
    Forall₂ (EffectAlike τ) (c.sendMsg m) (c'.sendMsg m') :=
  .cons (.send content alike.port) .nil

theorem OutcomeAlike.done {c c' : UDPClient} (alike : Alike τ c c') :
    OutcomeAlike τ (.done c) (.done c') := ⟨alike, .nil, .none⟩

theorem OutcomeAlike.after {o o' : Outcome} {effects effects' : List (Effect UInt16)}
    (alike : OutcomeAlike τ o o') (before : Forall₂ (EffectAlike τ) effects effects') :
    OutcomeAlike τ (o.after effects) (o'.after effects') :=
  ⟨alike.client, List.rel_append before alike.effects, alike.blocked⟩

theorem OutcomeAlike.andThen {o o' : Outcome} {next next' : UDPClient → Outcome}
    (alike : OutcomeAlike τ o o')
    (nexts : ∀ {c c'}, Alike τ c c' → OutcomeAlike τ (next c) (next' c')) :
    OutcomeAlike τ (o.andThen next) (o'.andThen next') := by
  obtain ⟨c, effects, blocked⟩ := o
  obtain ⟨c', effects', blocked'⟩ := o'
  obtain ⟨client, before, stops⟩ := alike
  cases stops with
  | none => exact (nexts client).after before
  | some control => exact ⟨client, before, .some control⟩

theorem OutcomeAlike.resume {o o' : Outcome} {s t : State} {back back' : Control}
    (alike : OutcomeAlike τ o o') (behind : ControlAlike τ back back')
    (revents : s.revents = t.revents ∨ Repolls (s.resume back o).1) :
    StateAlike τ (s.resume back o).1 (t.resume back' o').1 := by
  refine ⟨alike.client, ?_, revents⟩
  obtain ⟨c, effects, blocked⟩ := o
  obtain ⟨c', effects', blocked'⟩ := o'
  obtain ⟨_, _, stops⟩ := alike
  cases stops with
  | none => exact behind
  | some control => exact control

/-! ### Leaving -/

section Clients

variable {c c' : UDPClient} (alike : Alike τ c c')

include alike

theorem Alike.exitProgram (sendBye : Bool) (ret : ExitCode) :
    OutcomeAlike τ (c.exitProgram sendBye ret) (c'.exitProgram sendBye ret) := by
  have bye : c'.byeMsg = c.byeMsg := alike.same byeMsg fun _ _ => rfl
  cases sendBye with
  | true =>
    refine ⟨alike, ?_, .some (.same _)⟩
    show Forall₂ (EffectAlike τ) (c.sendMsg c.byeMsg) (c'.sendMsg c'.byeMsg)
    rw [bye]
    exact alike.sendMsg (τ.content_refl _)
  | false => exact ⟨alike, .nil, .some (.same _)⟩

theorem Alike.gracefulExit : OutcomeAlike τ c.gracefulExit c'.gracefulExit := by
  have state : c'.clientState = c.clientState := alike.same (·.clientState) fun _ _ => rfl
  unfold UDPClient.gracefulExit
  rw [state]
  split
  · exact alike.exitProgram false .success
  · exact alike.exitProgram true .success

theorem Alike.sendConfirm (id : UInt16) : OutcomeAlike τ (c.sendConfirm id) (c'.sendConfirm id) :=
  ⟨alike, alike.sendMsg (τ.content_refl _), .none⟩

theorem Alike.sendConfimExit (m : UDPMessage) (exit : Bool) :
    OutcomeAlike τ (c.sendConfimExit m exit) (c'.sendConfimExit m exit) := by
  refine (alike.sendConfirm _).andThen fun alike => ?_
  split
  · split
    · exact alike.exitProgram true .success
    · exact alike.exitProgram true .failure
  · exact .done alike

theorem Alike.sendErrorExit : OutcomeAlike τ c.sendErrorExit c'.sendErrorExit := by
  have err : c'.errMsg = c.errMsg := alike.same errMsg fun _ _ => rfl
  have erred : Alike τ c.erred c'.erred := alike.map erred (fun _ _ => rfl) rfl rfl rfl
  unfold UDPClient.sendErrorExit
  rw [err]
  exact (erred.exitProgram true .failure).after (erred.sendMsg (τ.content_refl _))

/-! ### Datagrams -/

theorem Alike.handleConfirm (m : UDPMessage) :
    OutcomeAlike τ (c.handleConfirm m) (c'.handleConfirm m) := by
  have front : c'.confirmIdVector = c.confirmIdVector := alike.same (·.confirmIdVector) fun _ _ => rfl
  unfold UDPClient.handleConfirm
  rw [front]
  split
  · have taken : Alike τ c.unqueued c'.unqueued := alike.map unqueued (fun _ _ => rfl) rfl rfl rfl
    simp only [unqueued, front] at taken
    exact .done taken
  · exact .done alike

theorem Alike.handleReply (m : UDPMessage) (switchPort : Bool) (next : FsmState) :
    OutcomeAlike τ (c.handleReply m switchPort next) (c'.handleReply m switchPort next) := by
  have awaited : c'.replyMsgSent = c.replyMsgSent := alike.same (·.replyMsgSent) fun _ _ => rfl
  have seen : Alike τ { c with seenIds := c.seenIds ++ [m.messageId] }
      { c' with seenIds := c'.seenIds ++ [m.messageId] } :=
    alike.map (fun c => { c with seenIds := c.seenIds ++ [m.messageId] }) (fun _ _ => rfl) rfl rfl rfl
  unfold UDPClient.handleReply
  simp only [awaited]
  generalize ({ c with seenIds := c.seenIds ++ [m.messageId] } : UDPClient) = c₁ at seen ⊢
  generalize ({ c' with seenIds := c'.seenIds ++ [m.messageId] } : UDPClient) = c₁' at seen ⊢
  split
  · have switched : Alike τ (if switchPort then c₁.switchServerPort else c₁)
        (if switchPort then c₁'.switchServerPort else c₁') := by
      split
      · exact seen.switchServerPort
      · exact seen
    generalize (if switchPort then c₁.switchServerPort else c₁ : UDPClient) = c₂ at switched ⊢
    generalize (if switchPort then c₁'.switchServerPort else c₁' : UDPClient) = c₂' at switched ⊢
    have front : c₂'.replyIdVector = c₂.replyIdVector := switched.same (·.replyIdVector) fun _ _ => rfl
    rw [front]
    split
    · refine OutcomeAlike.after ?_ (printed_alike _)
      have answered := switched.map (fun c => { c with
        replyIdVector := c.replyIdVector.tail, replyMsgSent := false, clientState := next })
        (fun _ _ => rfl) rfl rfl rfl
      simp only [front] at answered
      exact answered.sendConfimExit m false
    · exact switched.sendConfimExit m false
  · exact seen.sendConfimExit m false

theorem Alike.handleAuthState (m : UDPMessage) :
    OutcomeAlike τ (c.handleAuthState m) (c'.handleAuthState m) := by
  unfold UDPClient.handleAuthState
  split
  · exact alike.handleConfirm m
  · exact alike.handleReply m true .openState
  · exact alike.handleReply m true .authState
  · exact alike.sendConfimExit m true
  · exact (alike.sendConfirm _).andThen Alike.sendErrorExit
  · exact .done alike

theorem Alike.handleOpenState (m : UDPMessage) (bytesRx : Nat) :
    OutcomeAlike τ (c.handleOpenState m bytesRx) (c'.handleOpenState m bytesRx) := by
  have id : c'.nextId = c.nextId := alike.same nextId fun _ _ => rfl
  unfold UDPClient.handleOpenState
  split
  · exact ((alike.sendConfirm _).andThen fun alike => alike.exitProgram true .failure).after
      (printed_alike _)
  · exact ((alike.sendConfirm _).andThen fun alike => alike.exitProgram false .failure).after
      (printed_alike _)
  · exact alike.handleConfirm m
  · exact alike.handleReply m false .openState
  · exact alike.handleReply m false .openState
  · exact Alike.sendConfimExit (alike.map (fun c => { c with seenIds := c.seenIds ++ [m.messageId] })
      (fun _ _ => rfl) rfl rfl rfl) m false
  · rw [id]
    exact ((alike.sendConfirm _).andThen Alike.sendErrorExit).after (printed_alike _)

theorem Alike.fsmLogicHandler (skip : Bool) (m : UDPMessage) (bytesRx : Nat) :
    OutcomeAlike τ (c.fsmLogicHandler skip m bytesRx) (c'.fsmLogicHandler skip m bytesRx) := by
  have state : c'.clientState = c.clientState := alike.same (·.clientState) fun _ _ => rfl
  unfold UDPClient.fsmLogicHandler
  rw [state]
  split
  · exact .done alike
  · refine OutcomeAlike.after ?_ (printed_alike _)
    split
    · split
      · exact (alike.exitProgram true .failure).after (printed_alike _)
      · exact .done alike
    · exact alike.handleAuthState _
    · exact alike.handleOpenState _ _

/-- **A datagram in the loop of `handle_timeout`.** -/
theorem handled_alike (d : Str) : OutcomeAlike τ (c.handled d) (c'.handled d) := by
  have seen : c'.classified d = c.classified d := alike.same (·.classified d) fun _ _ => rfl
  unfold handled
  rw [seen]
  exact (alike.fsmLogicHandler _ _ _).after (printed_alike _)

theorem Alike.preHandle (m : UDPMessage) (bytesRx : Nat) :
    OutcomeAlike τ (c.preHandle m bytesRx) (c'.preHandle m bytesRx) := by
  have state : c'.clientState = c.clientState := alike.same (·.clientState) fun _ _ => rfl
  have id : c'.nextId = c.nextId := alike.same nextId fun _ _ => rfl
  unfold UDPClient.preHandle
  rw [state, id]
  split
  · exact ((alike.sendConfirm _).andThen fun alike => alike.exitProgram true .failure).after
      (printed_alike _)
  split
  · exact ((alike.sendConfirm _).andThen Alike.sendErrorExit).after (printed_alike _)
  split
  · exact (alike.sendConfirm _).andThen Alike.sendErrorExit
  split
  · exact (alike.sendConfirm _).andThen Alike.sendErrorExit
  · exact .done alike

/-- **A datagram in the main loop.** -/
theorem receiveInMain_alike (d : Str) : OutcomeAlike τ (c.receiveInMain d) (c'.receiveInMain d) := by
  have seen : c'.classified d = c.classified d := alike.same (·.classified d) fun _ _ => rfl
  have seen' : c'.Seen d ↔ c.Seen d := (alike.same (·.Seen d) fun _ _ => rfl).to_iff
  rw [receiveInMain_unfold, receiveInMain_unfold, seen]
  simp only [seen']
  refine (OutcomeAlike.andThen ?_ fun alike => alike.fsmLogicHandler _ _ _).after (printed_alike _)
  split
  · exact .done alike
  · exact alike.preHandle _ _

/-! ### Lines -/

theorem Alike.named (name : Str) (counter : Nat) : Alike τ (c.named name counter) (c'.named name counter) :=
  alike.map (·.named name counter) (fun _ _ => rfl) rfl rfl rfl

theorem Alike.sendUserMsg {m m' : UDPMessage} (msgs : MsgAlike τ m m') (request : Bool)
    (next : FsmState) : OutcomeAlike τ (c.sendUserMsg m request next) (c'.sendUserMsg m' request next) := by
  have queued := alike.map (fun c => { c with
    confirmIdVector := c.confirmIdVector ++ [m.messageId]
    replyIdVector := if request then c.replyIdVector ++ [m.messageId] else c.replyIdVector
    replyMsgSent := request || c.replyMsgSent
    confirmMsgSent := true
    clientState := next }) (fun _ _ => rfl) rfl rfl rfl
  unfold UDPClient.sendUserMsg
  rw [← msgs.id]
  exact OutcomeAlike.after ⟨queued, .nil, .some (.waiting 0 msgs)⟩ (queued.sendMsg msgs.content)

theorem Alike.dispatch {m m' : UDPMessage} (msgs : MsgAlike τ m m') (type : m.type = m'.type) :
    OutcomeAlike τ (c.dispatch m) (c'.dispatch m') := by
  have state : c'.clientState = c.clientState := alike.same (·.clientState) fun _ _ => rfl
  have awaited : c'.replyMsgSent = c.replyMsgSent := alike.same (·.replyMsgSent) fun _ _ => rfl
  have name : c'.dname = c.dname := alike.same (·.dname) fun _ _ => rfl
  have counter : c'.msgCounter = c.msgCounter := alike.same (·.msgCounter) fun _ _ => rfl
  rw [dispatch_eq, dispatch_eq, state, awaited, name, counter, ← type]
  split
  · exact (alike.named _ _).sendUserMsg msgs _ _
  · exact (OutcomeAlike.done (alike.named _ _)).after (printed_alike _)

theorem Alike.userMsg {line line' : Str} (lines : LineAlike τ line line') :
    MsgAlike τ (c.userMsg line).1 (c'.userMsg line').1 := by
  have name : c'.dname = c.dname := alike.same (·.dname) fun _ _ => rfl
  have id : c'.nextId = c.nextId := alike.same nextId fun _ _ => rfl
  have carries (c : UDPClient) (line : Str) : (c.userMsg line).1.messageId = c.nextId := by
    obtain ⟨buffer, frame⟩ := UDPMessage.processOutgoingMsg_frame
      (show (UDPMessage.ofLine c.dname line c.nextId).type = .userCmd from rfl)
    exact congrArg (·.1.messageId) frame
  refine ⟨by rw [carries, carries, id], ?_⟩
  have content := lines.content c.dname c.nextId
  rw [← UDPMessage.udpBuffer_userCmd, ← UDPMessage.udpBuffer_userCmd] at content
  show τ.content _ (UDPMessage.ofLine c'.dname line' c'.nextId).processOutgoingMsg.1.udpBuffer
  rw [name, id]
  exact content

/-- **A line of the user.** -/
theorem userLine_alike {line line' : Str} (lines : LineAlike τ line line') :
    OutcomeAlike τ (c.userLine line) (c'.userLine line') := by
  by_cases typed : line = []
  · have typed' := lines.typed.mp typed
    subst typed typed'
    exact .done alike
  have typed' : line' ≠ [] := mt lines.typed.mpr typed
  have name : c'.dname = c.dname := alike.same (·.dname) fun _ _ => rfl
  have counter : c'.msgCounter = c.msgCounter := alike.same (·.msgCounter) fun _ _ => rfl
  rw [userLine_eq c typed, userLine_eq c' typed', name, counter, ← lines.ready, ← lines.printed,
    ← lines.name]
  refine OutcomeAlike.after ?_ (printed_alike _)
  split
  next ready =>
    refine (alike.named _ _).dispatch (alike.userMsg lines) ?_
    rw [(c.userMsg_describes line).type ready, (c'.userMsg_describes line').type (lines.ready ▸ ready),
      lines.type]
  next => exact .done (alike.named _ _)

end Clients

/-! ### Steps -/

/-- Two answers of `recvfrom`, from ports that may stand for each other. -/
structure ReceivedAlike (τ : Tolerance) (r r' : Received) : Prop where
  bytesRx : r.bytesRx = r'.bytesRx
  buffer : r.buffer = r'.buffer
  errno : r.errno = r'.errno
  port : 0 < r.bytesRx → τ.port r.port r'.port

theorem EventAlike.recvfrom {r : Received} {e : Event} (events : EventAlike τ (.recvfrom r) e) :
    ∃ r', e = .recvfrom r' ∧ ReceivedAlike τ r r' := by
  cases events with
  | same other => exact absurd rfl (other r)
  | datagram port => exact ⟨_, rfl, rfl, rfl, rfl, fun _ => port⟩
  | failed => exact ⟨_, rfl, rfl, rfl, rfl, fun none => by cases none⟩

theorem EventAlike.getline {line : Option Str} {e : Event} (events : EventAlike τ (.getline line) e) :
    ∃ line', e = .getline line' ∧ Option.Rel (LineAlike τ) line line' := by
  cases events with
  | line lines => exact ⟨_, rfl, .some lines⟩
  | same =>
    cases line with
    | none => exact ⟨none, rfl, .none⟩
    | some line => exact ⟨some line, rfl, .some (.refl line)⟩

theorem ControlAlike.eq {k k' : Control} (alike : ControlAlike τ k k') (other : k.waits = false) :
    k' = k := by
  cases alike with
  | same => rfl
  | waiting => cases other

theorem ControlAlike.exited_inv {k : Control} {ret : ExitCode} (alike : ControlAlike τ k (.exited ret)) :
    k = .exited ret := by
  cases alike with
  | same => rfl

theorem ControlAlike.exited_iff {k k' : Control} (alike : ControlAlike τ k k') (ret : ExitCode) :
    k = .exited ret ↔ k' = .exited ret := by
  constructor
  · rintro rfl
    exact alike.eq rfl
  · rintro rfl
    exact alike.exited_inv

theorem ControlAlike.interruptible {k k' : Control} (alike : ControlAlike τ k k') :
    k.interruptible = k'.interruptible := by
  cases alike with
  | same => rfl
  | waiting => rfl

theorem ControlAlike.waiting_inv {m : UDPMessage} {k : Nat} {control : Control}
    (alike : ControlAlike τ (.handleTimeout m k) control) :
    ∃ m', control = .handleTimeout m' k ∧ MsgAlike τ m m' := by
  cases alike with
  | same => exact ⟨m, rfl, rfl, τ.content_refl _⟩
  | waiting _ msgs => exact ⟨_, rfl, msgs⟩

/-- Away from `poll` and from the way out, `fds[1].revents` is the same. -/
theorem StateAlike.steady {s t : State} (alike : StateAlike τ s t) (busy : s.control ≠ .poll)
    (stays : s.control.leaving = false) : s.revents = t.revents := by
  rcases alike.revents with same | ⟨polls, _⟩ | leaves
  · exact same
  · exact absurd polls busy
  · rw [stays] at leaves
    cases leaves

theorem Leaving.repolls {c : UDPClient} {o : Outcome} (leaving : c.Leaving o) (s : State)
    (back : Control) : Repolls (s.resume back o).1 := Or.inr (leaving.resume s back)

/-- `poll` writes the same to both, or to neither. -/
theorem pollStep_alike {s t : State} (alike : StateAlike τ s t) (polling : s.control = .poll)
    (result : PollResult) : StateAlike τ (pollStep s result).1 (pollStep t result).1 ∧
      Forall₂ (EffectAlike τ) (pollStep s result).2 (pollStep t result).2 := by
  cases result with
  | failed =>
    have exits := (alike.client.exitProgram false .failure).after
      (printed_alike [.notice .pollFailed])
    exact ⟨exits.resume (.same _) (Or.inr (Or.inr rfl)), exits.effects⟩
  | ready socket stdin =>
    have count := alike.client.pollCount
    have written : stdinRevents s.client.pollCount stdin s.revents =
        stdinRevents t.client.pollCount stdin t.revents := by
      rw [count]
      rcases alike.revents with same | ⟨_, both⟩ | leaves
      · rw [same]
      · rw [both]
        rfl
      · rw [polling] at leaves
        cases leaves
    unfold pollStep
    simp only [written, count]
    split
    · exact ⟨⟨alike.client, .same _, Or.inl rfl⟩, .nil⟩
    split
    · exact ⟨⟨alike.client, .same _, Or.inl rfl⟩, .nil⟩
    · exact ⟨⟨alike.client, .same _, Or.inl rfl⟩, .nil⟩

/-- `accept_msg` records the port. -/
theorem Alike.recorded {c c' : UDPClient} (alike : Alike τ c c') {port port' : UInt16}
    (ports : τ.port port port') :
    Alike τ { c with serverPort := port } { c' with serverPort := port' } := by
  cases alike with
  | redirected p p' aiPort _ =>
    exact .redirected (c := { c with serverPort := port }) p port' aiPort fun _ => ports

theorem acceptStep_alike {s t : State} (alike : StateAlike τ s t) (accepting : s.control = .acceptMsg)
    {r r' : Received} (answers : ReceivedAlike τ r r') :
    StateAlike τ (acceptStep s r).1 (acceptStep t r').1 ∧
      Forall₂ (EffectAlike τ) (acceptStep s r).2 (acceptStep t r').2 := by
  have steady := alike.steady (by simp [accepting]) (by simp [accepting, Control.leaving])
  unfold acceptStep
  rw [← answers.bytesRx, ← answers.errno, ← answers.buffer]
  split
  · split
    · exact ⟨⟨alike.client, .same _, Or.inl steady⟩, printed_alike _⟩
    · have exits := (alike.client.exitProgram false .failure).after (printed_alike [.notice .noData])
      exact ⟨exits.resume (.same _) (Or.inl steady), exits.effects⟩
  · rename_i nonempty
    have handles := receiveInMain_alike (alike.client.recorded (answers.port (by omega))) r.buffer
    exact ⟨handles.resume (.same _) (Or.inl steady), handles.effects⟩

theorem getlineStep_alike {s t : State} (alike : StateAlike τ s t) (reading : s.control = .getline)
    {line line' : Option Str} (lines : Option.Rel (LineAlike τ) line line') :
    StateAlike τ (getlineStep s line).1 (getlineStep t line').1 ∧
      Forall₂ (EffectAlike τ) (getlineStep s line).2 (getlineStep t line').2 := by
  have steady := alike.steady (by simp [reading]) (by simp [reading, Control.leaving])
  cases lines with
  | none =>
    have exits := alike.client.exitProgram true .failure
    exact ⟨exits.resume (.same _) (Or.inl steady), exits.effects⟩
  | some lines =>
    have handles := userLine_alike alike.client lines
    exact ⟨handles.resume (.same _) (Or.inl steady), handles.effects⟩

theorem timeoutStep_alike {s t : State} (alike : StateAlike τ s t) {m m' : UDPMessage} {k : Nat}
    (waiting : s.control = .handleTimeout m k) (msgs : MsgAlike τ m m') {r r' : Received}
    (answers : ReceivedAlike τ r r') :
    StateAlike τ (timeoutStep s m k r).1 (timeoutStep t m' k r').1 ∧
      Forall₂ (EffectAlike τ) (timeoutStep s m k r).2 (timeoutStep t m' k r').2 := by
  have steady := alike.steady (by simp [waiting]) (by simp [waiting, Control.leaving])
  have limit : t.client.maxUdpRetransmission = s.client.maxUdpRetransmission :=
    alike.client.same (·.maxUdpRetransmission) fun _ _ => rfl
  have flag : t.client.confirmMsgSent = s.client.confirmMsgSent :=
    alike.client.same (·.confirmMsgSent) fun _ _ => rfl
  have awaited : t.client.Awaited m' r.buffer ↔ s.client.Awaited m r.buffer := by
    unfold Awaited
    rw [flag, msgs.id]
  unfold timeoutStep
  simp only [← answers.bytesRx, ← answers.errno, ← answers.buffer, receiveInTimeout_eq, awaited]
  split
  · rw [limit]
    split
    · split
      · have exits := (alike.client.exitProgram true .failure).after
          (printed_alike [.notice .maxTimeouts])
        exact ⟨exits.resume (.same _) (Or.inl steady), exits.effects⟩
      · exact ⟨⟨alike.client, .waiting _ msgs, Or.inl steady⟩, alike.client.sendMsg msgs.content⟩
    · exact ⟨⟨alike.client, .same _, Or.inl steady⟩, printed_alike _⟩
  · split
    · have unset := alike.client.map (fun c => { c with confirmMsgSent := false })
        (fun _ _ => rfl) rfl rfl rfl
      have returns := OutcomeAlike.done unset
      exact ⟨returns.resume (.same _) (Or.inl steady), returns.effects⟩
    · have handles := handled_alike alike.client r.buffer
      exact ⟨handles.resume (.waiting k msgs) (Or.inl steady), handles.effects⟩

theorem byeStep_alike {s t : State} (alike : StateAlike τ s t) {k : Nat} {ret : ExitCode}
    {r r' : Received} (answers : ReceivedAlike τ r r') :
    StateAlike τ (byeStep s k ret r).1 (byeStep t k ret r').1 ∧
      Forall₂ (EffectAlike τ) (byeStep s k ret r).2 (byeStep t k ret r').2 := by
  have limit : t.client.maxUdpRetransmission = s.client.maxUdpRetransmission :=
    alike.client.same (·.maxUdpRetransmission) fun _ _ => rfl
  have counter : t.client.msgCounter = s.client.msgCounter := alike.client.same (·.msgCounter) fun _ _ => rfl
  have ends (k : Control) (leaves : k.leaving = true) :
      StateAlike τ { s with control := k } { t with control := k } :=
    ⟨alike.client, .same k, Or.inr (Or.inr leaves)⟩
  unfold byeStep
  simp only [← answers.bytesRx, ← answers.errno, ← answers.buffer, limit, counter]
  split
  · split
    · split
      · exact ⟨ends _ rfl, printed_alike _⟩
      · exact ⟨ends _ rfl, .nil⟩
    · exact ⟨ends _ rfl, printed_alike _⟩
  · split
    · exact ⟨ends _ rfl, printed_alike _⟩
    · exact ⟨ends _ rfl, printed_alike _⟩

/-- **Every step keeps the relation**, for each tolerance and whatever ports are configured. -/
theorem coupled (τ : Tolerance) (port port' : UInt16) :
    Coupling (machine port) (machine port') (StateAlike τ) (EventAlike τ) (EffectAlike τ) := by
  refine ⟨fun {s s' t e e' out} alike events made => ?_⟩
  cases step_calls made with
  | gracefulExit free made =>
    obtain ⟨rfl, rfl⟩ := Prod.ext_iff.mp made.symm
    rw [alike.control.interruptible] at free
    cases events with
    | same =>
      have exits := alike.client.gracefulExit
      refine ⟨_, _, step_interrupted free, exits.resume (.same _) ?_, exits.effects⟩
      exact Or.inr ((gracefulExit_leaving s.client).repolls s .poll)
  | pollStep polling made =>
    have control := alike.control.eq (by rw [polling]; rfl)
    obtain ⟨states, effects⟩ := pollStep_alike alike polling _
    cases events with
    | same =>
      obtain ⟨rfl, rfl⟩ := Prod.ext_iff.mp made.symm
      exact ⟨_, _, step_polling (control.trans polling) _, states, effects⟩
  | acceptStep accepting made =>
    have control := alike.control.eq (by rw [accepting]; rfl)
    obtain ⟨r', rfl, answers⟩ := events.recvfrom
    obtain ⟨states, effects⟩ := acceptStep_alike alike accepting answers
    obtain ⟨rfl, rfl⟩ := Prod.ext_iff.mp made.symm
    exact ⟨_, _, step_accepting (control.trans accepting) _, states, effects⟩
  | getlineStep reading made =>
    have control := alike.control.eq (by rw [reading]; rfl)
    obtain ⟨line', rfl, lines⟩ := events.getline
    obtain ⟨states, effects⟩ := getlineStep_alike alike reading lines
    obtain ⟨rfl, rfl⟩ := Prod.ext_iff.mp made.symm
    exact ⟨_, _, step_reading (control.trans reading) _, states, effects⟩
  | timeoutStep waiting made =>
    have control := alike.control
    rw [waiting] at control
    obtain ⟨m', control, msgs⟩ := control.waiting_inv
    obtain ⟨r', rfl, answers⟩ := events.recvfrom
    obtain ⟨states, effects⟩ := timeoutStep_alike alike waiting msgs answers
    obtain ⟨rfl, rfl⟩ := Prod.ext_iff.mp made.symm
    exact ⟨_, _, step_waiting control _, states, effects⟩
  | byeStep leaving made =>
    have control := alike.control.eq (by rw [leaving]; rfl)
    obtain ⟨r', rfl, answers⟩ := events.recvfrom
    obtain ⟨states, effects⟩ := byeStep_alike alike answers
    obtain ⟨rfl, rfl⟩ := Prod.ext_iff.mp made.symm
    exact ⟨_, _, step_exit (control.trans leaving) _, states, effects⟩

end UDPClient

end Ipk24Chat
