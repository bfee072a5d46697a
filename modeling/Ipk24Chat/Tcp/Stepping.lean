/-
**What one step of the TCP client can do.**

`Heard` lists the outcomes of a complete message of the server, `Lined` those of a line of the user
and `Moves` those of a step. `step_moves` is the inversion of the machine.
-/

import Ipk24Chat.Clients.Tcp
import Ipk24Chat.Protocol.Admission

namespace Ipk24Chat

namespace TCPClient

open Reactive

/-! ### Outcomes -/

@[simp] theorem Outcome.after_blocked (effects : List (Effect Unit)) (o : Outcome) :
    (o.after effects).blocked = o.blocked := rfl

theorem toPoll_after (c : TCPClient) (first second : List (Effect Unit)) :
    (toPoll c second).after first = toPoll c (first ++ second) := rfl

/-- The program has ended. -/
def Control.leaving : Control → Bool
  | .exited _ | .aborted => true
  | _ => false

theorem Control.ne_of_leaving {k k' : Control} (leaves : k.leaving = true)
    (stays : k'.leaving = false) : k ≠ k' := by
  rintro rfl
  cases leaves.symm.trans stays

/-- **The program leaves.** -/
structure Leaving (c : TCPClient) (o : Outcome) : Prop where
  client : o.client = c
  blocked : ∃ k : Control, o.blocked = some k ∧ k.leaving = true

theorem Leaving.after {c : TCPClient} {o : Outcome} (leaving : c.Leaving o)
    (effects : List (Effect Unit)) : c.Leaving (o.after effects) :=
  ⟨leaving.client, leaving.blocked⟩

theorem exitProgram_leaving (c : TCPClient) (sendBye : Bool) (retState : ExitCode) :
    c.Leaving (c.exitProgram sendBye retState) := ⟨rfl, _, rfl, rfl⟩

theorem gracefulExit_leaving (c : TCPClient) : c.Leaving c.gracefulExit := by
  unfold gracefulExit
  split
  · exact exitProgram_leaving c _ _
  · exact exitProgram_leaving c _ _

theorem sendErr_leaving (c : TCPClient) (text : Str) : c.Leaving (c.sendErr text) :=
  (exitProgram_leaving c _ _).after _

theorem Leaving.resume {c : TCPClient} {o : Outcome} (leaving : c.Leaving o) (s : State)
    (back : Control) : (s.resume back o).1.control.leaving = true := by
  obtain ⟨k, stopped, leaves⟩ := leaving.blocked
  simp only [State.resume, stopped, Option.getD_some, leaves]

/-! ### Messages of the server -/

/-- What the decoder makes of a message that is received into a fresh object. -/
def decoded (d : Str) : Except OutOfRange (TCPMessage × List Output) :=
  TCPMessage.processInboundMsg { NetworkMessage.new [] .toBeDecided with buffer := d } d.length

theorem receive_eq (c : TCPClient) (d : Str) :
    c.receive d = match decoded d with
      | .ok m => (c.handleInbound m.1).after (printed m.2)
      | .error _ => ⟨c, [], some .aborted⟩ := rfl

/-- The types the decoder gives. -/
def Decides (type : MsgType) : Prop :=
  type = .bye ∨ type = .replyOk ∨ type = .replyNok ∨ type = .err ∨ type = .msg ∨ type = .invalidMsg

theorem ok_of_map {α β : Type} {f : α → β} {x : Except OutOfRange α} {b : β}
    (mapped : x.map f = .ok b) : ∃ a, x = .ok a ∧ f a = b := by
  cases x with
  | error e => cases mapped
  | ok a => exact ⟨a, rfl, Except.ok.inj mapped⟩

theorem decides_of_replyBranch {m : TCPMessage} {text label : Str} {type : MsgType}
    {r : TCPMessage × List Output} (known : Decides type)
    (branch : m.replyBranch text type label = .ok r) : Decides r.1.type := by
  obtain ⟨found, _, rfl⟩ := ok_of_map branch
  cases found with
  | some text => exact known
  | none => exact Or.inr (Or.inr (Or.inr (Or.inr (Or.inr rfl))))

theorem decides_of_chatBranch {m : TCPMessage} {text sender : Str} {type : MsgType}
    {r : TCPMessage × List Output} (known : Decides type)
    (branch : m.chatBranch text sender type = .ok r) : Decides r.1.type := by
  obtain ⟨found, _, rfl⟩ := ok_of_map branch
  cases found with
  | some text => exact known
  | none => exact Or.inr (Or.inr (Or.inr (Or.inr (Or.inr rfl))))

/-- **The decoder always decides the type.** -/
theorem decoded_decides {d : Str} {r : TCPMessage × List Output} (ok : decoded d = .ok r) :
    Decides r.1.type := by
  unfold decoded TCPMessage.processInboundMsg at ok
  simp only [NetworkMessage.new] at ok
  split at ok
  · cases ok
    exact Or.inr (Or.inr (Or.inr (Or.inr (Or.inr rfl))))
  simp only [if_true] at ok
  split at ok
  · cases ok
    exact Or.inl rfl
  split at ok
  · exact decides_of_replyBranch (Or.inr (Or.inl rfl)) ok
  split at ok
  · exact decides_of_replyBranch (Or.inr (Or.inr (Or.inl rfl))) ok
  split at ok
  · exact decides_of_chatBranch (Or.inr (Or.inr (Or.inr (Or.inl rfl)))) ok
  split at ok
  · exact decides_of_chatBranch (Or.inr (Or.inr (Or.inr (Or.inr (Or.inl rfl))))) ok
  · cases ok
    exact Or.inr (Or.inr (Or.inr (Or.inr (Or.inr rfl))))

/-- The message is a REPLY. -/
def IsReply (m : TCPMessage) : Prop := m.type = .replyOk ∨ m.type = .replyNok

instance (m : TCPMessage) : Decidable (IsReply m) := inferInstanceAs (Decidable (_ ∨ _))

/-- The client behind the REPLY that answers its request. -/
def replied (c : TCPClient) (m : TCPMessage) : TCPClient :=
  { c with
    replyMsgSent := false
    clientState := if c.clientState = .authState ∧ m.type = .replyNok then .authState
      else .openState }

/-- **The outcomes of a message of the server.** -/
inductive Heard (c : TCPClient) (d : Str) : Outcome → Prop
  /-- The decoder throws. -/
  | thrown : decoded d = .error .outOfRange → Heard c d ⟨c, [], some .aborted⟩
  | leaving {m : TCPMessage} {lines : List Output} {o : Outcome} : decoded d = .ok (m, lines) →
      c.Leaving o → Heard c d o
  /-- The awaited REPLY in AUTH_STATE. -/
  | authenticated {m : TCPMessage} {lines : List Output} : decoded d = .ok (m, lines) → IsReply m →
      c.clientState = .authState → c.replyMsgSent = true →
      Heard c d (toPoll (c.replied m) (printed (lines ++ [m.printMessage])))
  /-- The awaited REPLY in OPEN_STATE: the program goes on behind the socket branch. -/
  | joined {m : TCPMessage} {lines : List Output} : decoded d = .ok (m, lines) → IsReply m →
      c.clientState = .openState → c.replyMsgSent = true →
      Heard c d ⟨c.replied m, printed (lines ++ [m.printMessage]), none⟩
  /-- A REPLY that is not awaited. -/
  | stray {m : TCPMessage} {lines : List Output} : decoded d = .ok (m, lines) → IsReply m →
      c.clientState ≠ .startState → c.replyMsgSent = false → Heard c d ⟨c, printed lines, none⟩
  | msg {m : TCPMessage} {lines : List Output} : decoded d = .ok (m, lines) → m.type = .msg →
      c.clientState = .openState → Heard c d (toPoll c (printed lines))

/-- A REPLY is taken when it is awaited, and ignored otherwise. -/
theorem Heard.of_reply {c : TCPClient} {d : Str} {m : TCPMessage} {lines : List Output}
    {handler taken : Outcome} (decode : decoded d = .ok (m, lines)) (isReply : IsReply m)
    (begun : c.clientState ≠ .startState)
    (handled : handler = if c.replyMsgSent then taken else ⟨c, [], none⟩)
    (answer : c.replyMsgSent = true → Heard c d (taken.after (printed lines))) :
    Heard c d (handler.after (printed lines)) := by
  rw [handled]
  cases awaited : c.replyMsgSent with
  | true =>
    rw [if_pos rfl]
    exact answer awaited
  | false =>
    rw [if_neg Bool.false_ne_true]
    simp only [Outcome.after, List.append_nil]
    exact .stray decode isReply begun awaited

/-- The socket branch of AUTH_STATE, type by type. -/
theorem auth_heard {c : TCPClient} {d : Str} {m : TCPMessage} {lines : List Output}
    (decode : decoded d = .ok (m, lines)) (auth : c.clientState = .authState) :
    Heard c d ((c.handleAuthState m).after (printed lines)) := by
  have begun : c.clientState ≠ .startState := by
    rw [auth]
    decide
  have reply : IsReply m → c.handleAuthState m =
      if c.replyMsgSent then toPoll (c.replied m) (printed [m.printMessage]) else ⟨c, [], none⟩ := by
    rintro (ok | nok)
    · simp [handleAuthState, ok, replied, auth]
    · simp [handleAuthState, nok, replied, auth]
  have answer : IsReply m → Heard c d ((c.handleAuthState m).after (printed lines)) := fun isReply => by
    refine .of_reply decode isReply begun (reply isReply) fun awaited => ?_
    rw [toPoll_after, printed, printed, ← List.map_append]
    exact .authenticated decode isReply auth awaited
  rcases decoded_decides decode with bye | ok | nok | err | msg | invalid
  · refine .leaving decode (Leaving.after ?_ _)
    simp only [handleAuthState, show m.type = .bye from bye]
    exact sendErr_leaving c _
  · exact answer (Or.inl ok)
  · exact answer (Or.inr nok)
  · refine .leaving decode (Leaving.after ?_ _)
    simp only [handleAuthState, show m.type = .err from err]
    exact exitProgram_leaving c _ _
  · refine .leaving decode (Leaving.after ?_ _)
    simp only [handleAuthState, show m.type = .msg from msg]
    exact sendErr_leaving c _
  · refine .leaving decode (Leaving.after ?_ _)
    simp only [handleAuthState, show m.type = .invalidMsg from invalid]
    exact sendErr_leaving c _

/-- The socket branch of OPEN_STATE, type by type. -/
theorem open_heard {c : TCPClient} {d : Str} {m : TCPMessage} {lines : List Output}
    (decode : decoded d = .ok (m, lines)) (isOpen : c.clientState = .openState) :
    Heard c d ((c.handleOpenState m).after (printed lines)) := by
  have begun : c.clientState ≠ .startState := by
    rw [isOpen]
    decide
  have reply : IsReply m → c.handleOpenState m =
      if c.replyMsgSent then ⟨c.replied m, printed [m.printMessage], none⟩ else ⟨c, [], none⟩ := by
    rintro (ok | nok)
    · simp [handleOpenState, ok, replied, isOpen]
    · simp [handleOpenState, nok, replied, isOpen]
  have answer : IsReply m → Heard c d ((c.handleOpenState m).after (printed lines)) := fun isReply => by
    refine .of_reply decode isReply begun (reply isReply) fun awaited => ?_
    simp only [Outcome.after, printed, ← List.map_append]
    exact .joined decode isReply isOpen awaited
  rcases decoded_decides decode with bye | ok | nok | err | msg | invalid
  · refine .leaving decode (Leaving.after ?_ _)
    simp only [handleOpenState, show m.type = .bye from bye]
    exact exitProgram_leaving c _ _
  · exact answer (Or.inl ok)
  · exact answer (Or.inr nok)
  · refine .leaving decode (Leaving.after ?_ _)
    simp only [handleOpenState, show m.type = .err from err]
    exact exitProgram_leaving c _ _
  · have handler : c.handleOpenState m = toPoll c [] := by
      simp only [handleOpenState, show m.type = .msg from msg]
    rw [handler, toPoll_after, List.append_nil]
    exact .msg decode msg isOpen
  · refine .leaving decode (Leaving.after ?_ _)
    simp only [handleOpenState, show m.type = .invalidMsg from invalid]
    exact sendErr_leaving c _

/-- **A message of the server**: what becomes of it. -/
theorem receive_heard (c : TCPClient) (d : Str) : Heard c d (c.receive d) := by
  rw [receive_eq]
  cases decode : decoded d with
  | error e =>
    cases e
    exact .thrown decode
  | ok r =>
    obtain ⟨m, lines⟩ := r
    simp only [handleInbound]
    cases state : c.clientState with
    | startState =>
      refine .leaving decode (Leaving.after ?_ _)
      have known : Decides m.type := decoded_decides decode
      have decided : m.type ≠ .toBeDecided := by
        rcases known with type | type | type | type | type | type <;> simp [type]
      simp only [handleStartState, ne_eq, decided, not_false_eq_true, if_true]
      exact sendErr_leaving _ _
    | authState => exact auth_heard decode state
    | openState => exact open_heard decode state

/-! ### Lines of the user -/

/-- The state in which a message may be sent, whether it is a request, and the state it leads to. -/
def Sendable (c : TCPClient) (m : TCPMessage) (request : Bool) (next : FsmState) : Prop :=
  (c.clientState ≠ .openState ∧ m.type = .auth ∧ request = true ∧ next = .authState) ∨
    (c.clientState = .openState ∧ m.type ≠ .auth ∧ request = decide (m.type = .join) ∧
      next = .openState)

def named (c : TCPClient) (dname : Str) : TCPClient := { c with dname := dname }

/-- The client behind a message that is sent. -/
def requested (c : TCPClient) (request : Bool) (next : FsmState) : TCPClient :=
  { c with replyMsgSent := request || c.replyMsgSent, clientState := next }

/-- **The outcomes of a line**: nothing is sent, or the message `m` built from it is. -/
inductive Lined (c : TCPClient) (m : TCPMessage) : Outcome → Prop
  | kept (dname : Str) (lines : List Output) : Lined c m (toPoll (c.named dname) (printed lines))
  | sent (dname : Str) (request : Bool) (next : FsmState) (lines : List Output) :
      c.Sendable m request next →
      Lined c m (toPoll ((c.named dname).requested request next) (printed lines ++ sendMsg m))

/-- A message that is ready is sent when the state admits it, and refused otherwise. -/
theorem dispatch_eq (c : TCPClient) (m : TCPMessage) : c.dispatch m =
    if Admits c.clientState m.type then
      toPoll (c.requested (isRequest m.type) c.clientState.sent) (sendMsg m)
    else toPoll c (printed (refusal c.clientState c.replyMsgSent)) := by
  obtain ⟨⟨dname, state, awaited, counter⟩⟩ := c
  obtain ⟨type, ready, name, message, buffer⟩ := m
  cases state with
  | startState => cases type <;> rfl
  | authState => cases type <;> cases awaited <;> rfl
  | openState => cases type <;> cases awaited <;> rfl

/-- What becomes of a message that is ready. -/
theorem dispatch_lined (c : TCPClient) (m : TCPMessage) : Lined c m (c.dispatch m) := by
  rw [dispatch_eq]
  split
  · rename_i admits
    exact .sent c.dname (isRequest m.type) c.clientState.sent [] (sendable_of_admits admits)
  · exact .kept c.dname (refusal c.clientState c.replyMsgSent)

theorem Lined.after {c : TCPClient} {m : TCPMessage} {o : Outcome} (lined : Lined c m o)
    (lines : List Output) : Lined c m (o.after (printed lines)) := by
  cases lined with
  | kept dname more =>
    rw [toPoll_after, printed, printed, ← List.map_append]
    exact .kept dname (lines ++ more)
  | sent dname request next more sendable =>
    rw [toPoll_after, ← List.append_assoc, printed, printed, ← List.map_append]
    exact .sent dname request next (lines ++ more) sendable

/-- A name set before the line is handled is a name in the outcome. -/
theorem Lined.of_named {c : TCPClient} {m : TCPMessage} {o : Outcome} {dname : Str}
    (lined : Lined (c.named dname) m o) : Lined c m o := by
  cases lined with
  | kept later lines => exact .kept later lines
  | sent later request next lines sendable => exact .sent later request next lines sendable

/-- **A line of the user.** -/
theorem userLine_lined (c : TCPClient) (line : Str) :
    Lined c (c.userMsg line).1 (c.userLine line) := by
  unfold userLine
  by_cases empty : line = []
  · rw [if_pos empty]
    exact .kept c.dname []
  rw [if_neg empty]
  refine Lined.after ?_ _
  have chosen : ∃ dname, (if (c.userMsg line).1.type = .auth ∨ (c.userMsg line).1.type = .rename then
      { c with dname := (c.userMsg line).1.displayName } else c) = c.named dname := by
    split
    · exact ⟨_, rfl⟩
    · exact ⟨c.dname, rfl⟩
  obtain ⟨dname, chosen⟩ := chosen
  rw [chosen]
  split
  · exact (dispatch_lined _ _).of_named
  · exact .kept dname []

/-! ### The function that answers an event -/

theorem step_accepting {s : State} {buffer : Str} (accepting : s.control = .acceptMsg buffer) (r : Recv) :
    step s (.recv r) = some (acceptStep s buffer r) := by
  unfold step
  rw [accepting]

/-- **The function that answers an event**, by the place where the program waits for it. -/
inductive Calls (s : State) : Event → State → List (Effect Unit) → Prop
  | gracefulExit {s' : State} {out : List (Effect Unit)} :
      s.resume .poll s.client.gracefulExit = (s', out) → Calls s .sigint s' out
  | pollStep {result : PollResult} {s' : State} {out : List (Effect Unit)} : s.control = .poll →
      pollStep s result = (s', out) → Calls s (.poll result) s' out
  | acceptStep {buffer : Str} {r : Recv} {s' : State} {out : List (Effect Unit)} :
      s.control = .acceptMsg buffer → acceptStep s buffer r = (s', out) → Calls s (.recv r) s' out
  | getlineStep {line : Option Str} {s' : State} {out : List (Effect Unit)} : s.control = .getline →
      getlineStep s line = (s', out) → Calls s (.getline line) s' out

theorem step_calls {s s' : State} {e : Event} {out : List (Effect Unit)}
    (made : step s e = some (s', out)) : Calls s e s' out := by
  unfold step at made
  cases e with
  | sigint =>
    cases control : s.control with
    | exited ret => simp [control] at made
    | aborted => simp [control] at made
    | _ => exact .gracefulExit (by simpa [control] using made)
  | poll result =>
    cases control : s.control with
    | poll => exact .pollStep control (by simpa [control] using made)
    | _ => simp [control] at made
  | recv r =>
    cases control : s.control with
    | acceptMsg buffer => exact .acceptStep control (by simpa [control] using made)
    | _ => simp [control] at made
  | getline line =>
    cases control : s.control with
    | getline => exact .getlineStep control (by simpa [control] using made)
    | _ => simp [control] at made

/-! ### Moves -/

/-- A step is made by a program that has not ended. -/
theorem staying_of_step {s s' : State} {e : Event} {out : List (Effect Unit)}
    (made : step s e = some (s', out)) : s.control.leaving = false := by
  cases control : s.control with
  | exited ret => simp [step, control] at made
  | aborted => simp [step, control] at made
  | _ => rfl

theorem stdinBranch_stays (s : State) : s.stdinBranch.leaving = false := by
  unfold State.stdinBranch
  split
  · rfl
  · rfl

/-- The byte an answer of `recv` adds to what has been received. -/
def Recv.received (buffer : Str) : Recv → Option UInt8
  | .byte value => some value
  | .failed held => some (if buffer = [] then 0 else held)
  | .closed => none

theorem acceptStep_received {s : State} {buffer : Str} {r : Recv} {value : UInt8}
    (received : r.received buffer = some value) :
    acceptStep s buffer r = acceptByte s (buffer ++ [value]) := by
  cases r with
  | closed => cases received
  | byte value' =>
    cases received
    rfl
  | failed held =>
    cases received
    rfl

/-- **The moves of the machine.** -/
inductive Moves (s : State) : Event → State → List (Effect Unit) → Prop
  | leave {e : Event} {o : Outcome} (back : Control) : s.client.Leaving o →
      Moves s e (s.resume back o).1 o.effects
  | poll (socket stdin : Revents) : s.control = .poll →
      Moves s (.poll (.ready socket stdin)) (pollStep s (.ready socket stdin)).1 []
  /-- A byte of a message that is not complete yet. -/
  | byte (buffer : Str) (r : Recv) (value : UInt8) : s.control = .acceptMsg buffer →
      r.received buffer = some value → accepted (buffer ++ [value]) = false →
      Moves s (.recv r) { s with control := .acceptMsg (buffer ++ [value]) } []
  /-- The last byte of a message. -/
  | message (buffer : Str) (r : Recv) (value : UInt8) {o : Outcome} :
      s.control = .acceptMsg buffer → r.received buffer = some value →
      accepted (buffer ++ [value]) = true → Heard s.client (buffer ++ [value]) o →
      Moves s (.recv r) (s.resume s.stdinBranch o).1 o.effects
  | line (text : Str) {o : Outcome} : s.control = .getline →
      Lined s.client (s.client.userMsg text).1 o →
      Moves s (.getline (some text)) (s.resume .poll o).1 o.effects

theorem acceptByte_moves {s : State} {buffer : Str} {r : Recv} {value : UInt8}
    (accepting : s.control = .acceptMsg buffer) (received : r.received buffer = some value) :
    Moves s (.recv r) (acceptByte s (buffer ++ [value])).1 (acceptByte s (buffer ++ [value])).2 := by
  unfold acceptByte
  cases complete : accepted (buffer ++ [value]) with
  | true => exact .message buffer r value accepting received complete (receive_heard _ _)
  | false => exact .byte buffer r value accepting received complete

theorem acceptStep_moves {s : State} {buffer : Str} (accepting : s.control = .acceptMsg buffer)
    (r : Recv) : Moves s (.recv r) (acceptStep s buffer r).1 (acceptStep s buffer r).2 := by
  cases r with
  | byte value => exact acceptByte_moves accepting rfl
  | failed held => exact acceptByte_moves accepting rfl
  | closed => exact .leave .poll ((exitProgram_leaving _ _ _).after _)

theorem pollStep_client (s : State) (socket stdin : Revents) :
    (pollStep s (.ready socket stdin)).1.client = s.client := by
  unfold pollStep
  simp only
  split <;> rfl

theorem pollStep_moves {s : State} (polling : s.control = .poll) (result : PollResult) :
    Moves s (.poll result) (pollStep s result).1 (pollStep s result).2 := by
  cases result with
  | failed => exact .leave .poll ((exitProgram_leaving _ _ _).after _)
  | ready socket stdin =>
    have silent : (pollStep s (.ready socket stdin)).2 = [] := by
      simp only [pollStep]
      split <;> rfl
    rw [silent]
    exact .poll socket stdin polling

theorem getlineStep_moves {s : State} (reading : s.control = .getline) (line : Option Str) :
    Moves s (.getline line) (getlineStep s line).1 (getlineStep s line).2 := by
  cases line with
  | none => exact .leave .poll (exitProgram_leaving _ _ _)
  | some text => exact .line text reading (userLine_lined _ _)

theorem Moves.of_eq {s s' : State} {e : Event} {out : List (Effect Unit)}
    {r : State × List (Effect Unit)} (moves : Moves s e r.1 r.2) (made : r = (s', out)) :
    Moves s e s' out := by
  cases made
  exact moves

theorem sigint_moves (s : State) : Moves s .sigint (s.resume .poll s.client.gracefulExit).1
    (s.resume .poll s.client.gracefulExit).2 := .leave .poll (gracefulExit_leaving s.client)

/-- **The inversion of the machine.** -/
theorem step_moves {s s' : State} {e : Event} {out : List (Effect Unit)}
    (made : step s e = some (s', out)) : Moves s e s' out := by
  cases step_calls made with
  | gracefulExit made => exact (sigint_moves s).of_eq made
  | pollStep polling made => exact (pollStep_moves polling _).of_eq made
  | acceptStep accepting made => exact (acceptStep_moves accepting _).of_eq made
  | getlineStep reading made => exact (getlineStep_moves reading _).of_eq made

/-- A line is answered by `userLine`. -/
theorem step_getline {s s' : State} {line : Str} {out : List (Effect Unit)}
    (made : step s (.getline (some line)) = some (s', out)) :
    s' = (s.resume .poll (s.client.userLine line)).1 ∧ out = (s.client.userLine line).effects := by
  cases step_calls made with
  | getlineStep _ made =>
    cases made
    exact ⟨rfl, rfl⟩

/-! ### A session

The events of a sign-in, for the runs shown below. -/

/-- `poll` reports the socket, and the server sends a line. -/
def served (text : String) : List Event :=
  .poll (.ready ⟨true, false⟩ ⟨false, false⟩) ::
    (bytes text ++ [13, 10]).map fun value => .recv (.byte value)

/-- `poll` reports stdin. -/
def stdinReady : Event := .poll (.ready ⟨false, false⟩ ⟨true, false⟩)

/-- A line is typed. -/
def typed (text : String) : List Event := [stdinReady, .getline (some (bytes text))]

def booted : State := start ⟨false, false⟩

theorem booted_init : machine.init booted := ⟨⟨false, false⟩, rfl⟩

/-- AUTH is sent and answered. -/
def signIn : List Event := typed "/auth u s d" ++ served "REPLY OK IS hi"

end TCPClient

end Ipk24Chat
