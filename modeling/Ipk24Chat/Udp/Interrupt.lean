/-
**The UDP client, statement by statement.**

The machine runs from one blocking call to the next; a `SIGINT` may come between any two statements. A
`Script` follows the statements of a function of the source in their order and keeps, beside its
outcome, the point behind each of them: the client, and what has been sent and printed since the last
blocking call. The statements of `exit_program` have no points.

* `passage_step`: a script has the outcome of the function it follows, so that the passage of an event
  ends where the machine does;
* `interruptible`: the machine in which `graceful_exit` may also run at any of these points.
-/

import Ipk24Chat.Udp.Stepping

namespace Ipk24Chat

namespace UDPClient

/-! ### Scripts -/

/-- The client behind a statement, and the effects so far. -/
abbrev Point := UDPClient × List (Effect UInt16)

/-- A stretch of the program: what it leaves behind, and the points on the way. -/
structure Passage where
  outcome : Outcome
  points : List Point

/-- The passages of a function, from every client. -/
abbrev Script := UDPClient → Passage

namespace Script

/-- An assignment. -/
def assign (f : UDPClient → UDPClient) : Script := fun c => ⟨.done (f c), [(f c, [])]⟩

/-- A line printed, or several. -/
def print (lines : List Output) : Script := fun c => ⟨⟨c, printed lines, none⟩, [(c, printed lines)]⟩

/-- `send_msg`. -/
def send (m : UDPMessage) : Script := fun c => ⟨⟨c, c.sendMsg m, none⟩, [(c, c.sendMsg m)]⟩

/-- A call that does not return: it blocks, or it is `exit_program`. -/
def block (call : UDPClient → Outcome) : Script := fun c => ⟨call c, []⟩

/-- Nothing. -/
def done : Script := fun c => ⟨.done c, []⟩

/-- One script and, when it returns, the next. -/
def andThen (first next : Script) : Script := fun c =>
  ⟨(first c).outcome.andThen fun c => (next c).outcome,
    (first c).points ++
      match (first c).outcome.blocked with
      | some _ => []
      | none => (next (first c).outcome.client).points.map fun point =>
          (point.1, (first c).outcome.effects ++ point.2)⟩

/-! ### Sending and leaving -/

def sendConfirm (messageId : UInt16) : Script := send (confirmMsg messageId)

def sendConfimExit (inboundMsg : UDPMessage) (exit : Bool) : Script :=
  (sendConfirm inboundMsg.messageId).andThen <|
    if exit then
      block fun c =>
        if inboundMsg.type = .bye then c.exitProgram true .success else c.exitProgram true .failure
    else done

/-- The message is built, the counter incremented, and then the message is sent. -/
def sendErrorExit : Script := fun c =>
  ((assign fun c => { c with msgCounter := c.msgCounter + 1 }).andThen <|
    (send c.errMsg).andThen <|
    (assign fun c => { c with confirmMsgSent := true }).andThen <|
    block fun c' => c'.handleTimeout c.errMsg true) c

/-! ### `fsm_logic_handler` -/

def handleConfirm (inboundMsg : UDPMessage) : Script := fun c =>
  (if frontId c.confirmIdVector = inboundMsg.refMessageId.toNat then
    (assign fun c => { c with confirmIdVector := c.confirmIdVector.tail }).andThen <|
      assign fun c => { c with confirmMsgSent := false }
  else done) c

def switchServerPort : Script := fun c =>
  (if c.changeServerPort then
    (assign fun c => { c with aiPort := c.serverPort }).andThen <|
      assign fun c => { c with changeServerPort := false }
  else done) c

/-- The awaited REPLY. -/
def answered (inboundMsg : UDPMessage) (next : FsmState) : Script :=
  (assign fun c => { c with replyIdVector := c.replyIdVector.tail }).andThen <|
    (print [inboundMsg.printMessage]).andThen <|
    (assign fun c => { c with replyMsgSent := false }).andThen <|
    assign fun c => { c with clientState := next }

def handleReply (inboundMsg : UDPMessage) (switchPort : Bool) (next : FsmState) : Script :=
  (assign fun c => { c with seenIds := c.seenIds ++ [inboundMsg.messageId] }).andThen <|
    Script.andThen
      (fun c =>
        (if c.replyMsgSent then
          (if switchPort then switchServerPort else done).andThen fun c =>
            (if frontId c.replyIdVector = inboundMsg.refMessageId.toNat then
              answered inboundMsg next
            else done) c
        else done) c)
      (sendConfimExit inboundMsg false)

def handleAuthState (inboundMsg : UDPMessage) : Script :=
  match inboundMsg.type with
  | .confirm => handleConfirm inboundMsg
  | .replyOk => handleReply inboundMsg true .openState
  | .replyNok => handleReply inboundMsg true .authState
  | .err => sendConfimExit inboundMsg true
  | .msg => (sendConfirm inboundMsg.messageId).andThen sendErrorExit
  | _ => done

def handleOpenState (inboundMsg : UDPMessage) (bytesRx : Nat) : Script :=
  let decoded := inboundMsg.processInboundMsg bytesRx
  match inboundMsg.type with
  | .err =>
    (print decoded.2).andThen <| (sendConfirm decoded.1.messageId).andThen <|
      block fun c => c.exitProgram true .failure
  | .bye =>
    (print decoded.2).andThen <| (sendConfirm decoded.1.messageId).andThen <|
      block fun c => c.exitProgram false .failure
  | .confirm => handleConfirm inboundMsg
  | .replyNok => handleReply inboundMsg false .openState
  | .replyOk => handleReply inboundMsg false .openState
  | .msg =>
    (assign fun c => { c with seenIds := c.seenIds ++ [inboundMsg.messageId] }).andThen <|
      sendConfimExit inboundMsg false
  | _ => (print decoded.2).andThen fun c => ((sendConfirm c.nextId).andThen sendErrorExit) c

def fsmLogicHandler (skipMessage : Bool) (inboundMsg : UDPMessage) (bytesRx : Nat) : Script :=
  if skipMessage then done
  else
    let decoded := inboundMsg.processInboundMsg bytesRx
    (print decoded.2).andThen fun c =>
      (match c.clientState with
        | .startState =>
          if decoded.1.type ≠ .toBeDecided then
            (print [.notice .unknownAtState]).andThen <| block fun c => c.exitProgram true .failure
          else done
        | .authState => handleAuthState decoded.1
        | .openState => handleOpenState decoded.1 bytesRx : Script) c

/-! ### The receive paths -/

def receiveInTimeout (outgoingMsg : UDPMessage) (buffer : Str) : Script := fun c =>
  let v := (inboundMsg buffer).validateUniqueId buffer.length c.seenIds
  ((print v.printed).andThen <|
    if c.confirmMsgSent ∧ v.msg.type = .confirm ∧ v.msg.refMessageId = outgoingMsg.messageId then
      assign fun c => { c with confirmMsgSent := false }
    else fsmLogicHandler v.skipMessage v.msg buffer.length) c

def preHandle (m : UDPMessage) (bytesRx : Nat) : Script := fun c =>
  let decoded := m.processInboundMsg bytesRx
  (if m.type = .err then
    (print decoded.2).andThen <| (sendConfirm decoded.1.messageId).andThen <|
      block fun c => c.exitProgram true .failure
  else if m.type = .invalidMsg then
    (print decoded.2).andThen <| (sendConfirm c.nextId).andThen sendErrorExit
  else if c.clientState = .startState ∧ m.type ≠ .toBeDecided then
    (sendConfirm m.messageId).andThen sendErrorExit
  else if c.clientState = .authState ∧ (m.type = .bye ∨ m.type = .msg) then
    (sendConfirm m.messageId).andThen sendErrorExit
  else done) c

def receiveInMain (buffer : Str) : Script := fun c =>
  let v := (inboundMsg buffer).validateUniqueId buffer.length c.seenIds
  ((print v.printed).andThen <|
    (if v.skipMessage then done else preHandle v.msg buffer.length).andThen <|
    fsmLogicHandler v.skipMessage v.msg buffer.length) c

/-! ### The user -/

/-- The branches of START_STATE and AUTH_STATE that send AUTH. -/
def sendAuth (outgoingMsg : UDPMessage) : Script :=
  (assign fun c => { c with confirmIdVector := c.confirmIdVector ++ [outgoingMsg.messageId] }).andThen <|
    (assign fun c => { c with replyIdVector := c.replyIdVector ++ [outgoingMsg.messageId] }).andThen <|
    (assign fun c => { c with replyMsgSent := true }).andThen <|
    (assign fun c => { c with confirmMsgSent := true }).andThen <|
    (assign fun c => { c with clientState := .authState }).andThen <|
    (send outgoingMsg).andThen <|
    block fun c => c.handleTimeout outgoingMsg false

/-- The flags of a JOIN. -/
def requestJoin (outgoingMsg : UDPMessage) : Script :=
  (assign fun c => { c with replyMsgSent := true }).andThen <|
    (assign fun c => { c with confirmMsgSent := true }).andThen <|
    assign fun c => { c with replyIdVector := c.replyIdVector ++ [outgoingMsg.messageId] }

/-- The branch of OPEN_STATE. -/
def sendOpen (outgoingMsg : UDPMessage) : Script :=
  (if outgoingMsg.type = .join then requestJoin outgoingMsg else done).andThen <|
    (assign fun c =>
      { c with confirmIdVector := c.confirmIdVector ++ [outgoingMsg.messageId] }).andThen <|
    (send outgoingMsg).andThen <|
    (assign fun c => { c with confirmMsgSent := true }).andThen <|
    block fun c => c.handleTimeout outgoingMsg false

/-- The branches behind the increment of the counter. -/
def dispatchCounted (outgoingMsg : UDPMessage) : Script := fun c =>
  (match c.clientState with
    | .startState =>
      if outgoingMsg.type ≠ .auth then print [.notice .authorizeFirst] else sendAuth outgoingMsg
    | .authState =>
      if outgoingMsg.type ≠ .auth ∧ c.replyMsgSent = false then print [.notice .notAuthorizedYet]
      else if outgoingMsg.type = .auth then sendAuth outgoingMsg
      else done
    | .openState =>
      if outgoingMsg.type = .auth then print [.notice .alreadyAuthorized]
      else sendOpen outgoingMsg : Script) c

def dispatch (outgoingMsg : UDPMessage) : Script :=
  (assign fun c => { c with msgCounter := c.msgCounter + 1 }).andThen (dispatchCounted outgoingMsg)

def userLine (line : Str) : Script := fun c =>
  if line = [] then done c
  else
    let built := c.userMsg line
    let outgoingMsg := built.1
    ((print built.2).andThen <|
      (if outgoingMsg.type = .auth ∨ outgoingMsg.type = .rename then
        assign fun c => { c with dname := outgoingMsg.displayName }
      else done).andThen <|
      if outgoingMsg.readyToSend then dispatch outgoingMsg else done) c

/-! ### The answers to the blocking calls -/

def pollStep : PollResult → Script
  | .failed => (print [.notice .pollFailed]).andThen <| block fun c => c.exitProgram false .failure
  | .ready _ _ => done

def acceptStep (received : Received) : Script :=
  if received.bytesRx ≤ 0 then
    if received.errno.again then print [.notice .timeoutApplied]
    else (print [.notice .noData]).andThen <| block fun c => c.exitProgram false .failure
  else
    (assign fun c => { c with serverPort := received.port }).andThen <|
      receiveInMain received.buffer

def getlineStep : Option Str → Script
  | none => block fun c => c.exitProgram true .failure
  | some line => userLine line

def timeoutStep (outgoingMsg : UDPMessage) (retryNumber : Nat) (received : Received) : Script :=
  fun c =>
    (if received.bytesRx ≤ 0 then
      if received.errno.again then
        if retryNumber = c.maxUdpRetransmission.toNat then
          (print [.notice .maxTimeouts]).andThen <| block fun c => c.exitProgram true .failure
        else send outgoingMsg
      else print [.notice .noData]
    else receiveInTimeout outgoingMsg received.buffer) c

/-! ### The scripts follow the functions -/

theorem andThen_outcome (first next : Script) (c : UDPClient) :
    (first.andThen next c).outcome = (first c).outcome.andThen fun c => (next c).outcome := rfl

theorem assign_andThen (f : UDPClient → UDPClient) (next : Script) (c : UDPClient) :
    ((assign f).andThen next c).outcome = (next (f c)).outcome := rfl

theorem print_andThen (lines : List Output) (next : Script) (c : UDPClient) :
    ((print lines).andThen next c).outcome = (next c).outcome.after (printed lines) := rfl

theorem send_andThen (m : UDPMessage) (next : Script) (c : UDPClient) :
    ((send m).andThen next c).outcome = (next c).outcome.after (c.sendMsg m) := rfl

theorem sendConfimExit_outcome (m : UDPMessage) (exit : Bool) (c : UDPClient) :
    (sendConfimExit m exit c).outcome = c.sendConfimExit m exit := by
  cases exit <;> rfl

theorem sendErrorExit_outcome (c : UDPClient) : (sendErrorExit c).outcome = c.sendErrorExit := rfl

theorem handleConfirm_outcome (m : UDPMessage) (c : UDPClient) :
    (handleConfirm m c).outcome = c.handleConfirm m := by
  unfold handleConfirm UDPClient.handleConfirm
  split
  · rfl
  · rfl

theorem switchServerPort_outcome (c : UDPClient) :
    (switchServerPort c).outcome = .done c.switchServerPort := by
  unfold switchServerPort UDPClient.switchServerPort
  split
  · rfl
  · rfl

/-- The switch of the port, when it is asked for. -/
theorem switch_outcome (switchPort : Bool) (c : UDPClient) :
    ((if switchPort then switchServerPort else done : Script) c).outcome =
      .done (if switchPort then c.switchServerPort else c) := by
  cases switchPort with
  | false => rfl
  | true => exact switchServerPort_outcome c

theorem handleReply_outcome (m : UDPMessage) (switchPort : Bool) (next : FsmState) (c : UDPClient) :
    (handleReply m switchPort next c).outcome = c.handleReply m switchPort next := by
  unfold handleReply UDPClient.handleReply
  rw [assign_andThen, andThen_outcome]
  generalize ({ c with seenIds := c.seenIds ++ [m.messageId] } : UDPClient) = c
  by_cases awaited : c.replyMsgSent = true
  · simp only [if_pos awaited]
    rw [andThen_outcome, switch_outcome, Outcome.done_andThen]
    generalize (if switchPort then c.switchServerPort else c) = c
    split
    · rfl
    · rfl
  · simp only [if_neg awaited]
    rfl

theorem handleAuthState_outcome (m : UDPMessage) (c : UDPClient) :
    (handleAuthState m c).outcome = c.handleAuthState m := by
  unfold handleAuthState UDPClient.handleAuthState
  cases m.type with
  | confirm => exact handleConfirm_outcome m c
  | replyOk => exact handleReply_outcome m true .openState c
  | replyNok => exact handleReply_outcome m true .authState c
  | err => exact sendConfimExit_outcome m true c
  | _ => rfl

theorem handleOpenState_outcome (m : UDPMessage) (bytesRx : Nat) (c : UDPClient) :
    (handleOpenState m bytesRx c).outcome = c.handleOpenState m bytesRx := by
  unfold handleOpenState UDPClient.handleOpenState
  cases m.type with
  | confirm => exact handleConfirm_outcome m c
  | replyOk => exact handleReply_outcome m false .openState c
  | replyNok => exact handleReply_outcome m false .openState c
  | _ => rfl

theorem fsmLogicHandler_outcome (skipMessage : Bool) (m : UDPMessage) (bytesRx : Nat)
    (c : UDPClient) :
    (fsmLogicHandler skipMessage m bytesRx c).outcome = c.fsmLogicHandler skipMessage m bytesRx := by
  unfold fsmLogicHandler UDPClient.fsmLogicHandler
  cases skipMessage with
  | true => rfl
  | false =>
    simp only [Bool.false_eq_true, if_false]
    rw [print_andThen]
    refine congrArg (Outcome.after _) ?_
    cases c.clientState with
    | startState =>
      simp only
      split
      · rfl
      · rfl
    | authState => exact handleAuthState_outcome _ c
    | openState => exact handleOpenState_outcome _ bytesRx c

theorem receiveInTimeout_outcome (outgoingMsg : UDPMessage) (buffer : Str) (c : UDPClient) :
    (receiveInTimeout outgoingMsg buffer c).outcome = (c.receiveInTimeout outgoingMsg buffer).2 := by
  unfold receiveInTimeout UDPClient.receiveInTimeout
  simp only
  rw [print_andThen]
  split
  · simp only [assign, Outcome.done, Outcome.after, List.append_nil]
  · rw [fsmLogicHandler_outcome]

theorem preHandle_outcome (m : UDPMessage) (bytesRx : Nat) (c : UDPClient) :
    (preHandle m bytesRx c).outcome = c.preHandle m bytesRx := by
  unfold preHandle UDPClient.preHandle
  simp only
  split
  · rfl
  split
  · rfl
  split
  · rfl
  split
  · rfl
  · rfl

theorem receiveInMain_outcome (buffer : Str) (c : UDPClient) :
    (receiveInMain buffer c).outcome = c.receiveInMain buffer := by
  unfold receiveInMain UDPClient.receiveInMain
  simp only
  rw [print_andThen, andThen_outcome]
  refine congrArg (Outcome.after _) ?_
  simp only [fsmLogicHandler_outcome]
  split
  · rfl
  · rw [preHandle_outcome]

theorem sendOpen_outcome {m : UDPMessage} {c : UDPClient} (isOpen : c.clientState = .openState) :
    (sendOpen m c).outcome = c.sendUserMsg m (decide (m.type = .join)) .openState := by
  obtain ⟨⟨dname, state, awaited, counter⟩, port, limit, serverPort, flag, change, confirms, replies,
    seen⟩ := c
  obtain rfl : state = .openState := isOpen
  unfold sendOpen
  by_cases join : m.type = .join
  · rw [if_pos join, decide_eq_true join]
    rfl
  · rw [if_neg join, decide_eq_false join]
    rfl

theorem dispatch_outcome (outgoingMsg : UDPMessage) (c : UDPClient) :
    (dispatch outgoingMsg c).outcome = c.dispatch outgoingMsg := by
  unfold dispatch UDPClient.dispatch dispatchCounted
  rw [assign_andThen]
  simp only
  cases state : c.clientState with
  | startState =>
    simp only
    split
    · rfl
    · rfl
  | authState =>
    simp only
    split
    · rfl
    split
    · simp only [sendAuth, assign_andThen, send_andThen]
      rw [UDPClient.sendUserMsg]
      rfl
    · rfl
  | openState =>
    have sends := fun request => sendOpen_outcome (m := outgoingMsg)
      (c := { c with msgCounter := c.msgCounter + 1 }) request
    simp only [state, true_implies] at sends ⊢
    by_cases join : outgoingMsg.type = .join
    · have other : outgoingMsg.type ≠ .auth := by rw [join]; exact MsgType.noConfusion
      rw [if_pos join, if_neg other, sends, decide_eq_true join]
    · rw [if_neg join]
      split
      · rfl
      · rw [sends, decide_eq_false join]

theorem userLine_outcome (line : Str) (c : UDPClient) :
    (userLine line c).outcome = c.userLine line := by
  unfold userLine UDPClient.userLine
  by_cases empty : line = []
  · rw [if_pos empty, if_pos empty]
    rfl
  · rw [if_neg empty, if_neg empty]
    simp only
    rw [print_andThen, andThen_outcome]
    refine congrArg (Outcome.after _) ?_
    by_cases named : (c.userMsg line).1.type = .auth ∨ (c.userMsg line).1.type = .rename
    · simp only [if_pos named]
      show Outcome.andThen (.done _) _ = _
      rw [Outcome.done_andThen]
      split
      · exact dispatch_outcome _ _
      · rfl
    · simp only [if_neg named]
      show Outcome.andThen (.done _) _ = _
      rw [Outcome.done_andThen]
      split
      · exact dispatch_outcome _ _
      · rfl

end Script

/-! ### The passage of an event -/

/-- The passage from the blocking call, once it is answered, to the next one or to `exit_program`. -/
def passage (s : State) (e : Event) : Option Passage :=
  match s.control, e with
  | .poll, .poll result => some (Script.pollStep result s.client)
  | .acceptMsg, .recvfrom received => some (Script.acceptStep received s.client)
  | .getline, .getline line => some (Script.getlineStep line s.client)
  | .handleTimeout outgoingMsg retryNumber, .recvfrom received =>
    some (Script.timeoutStep outgoingMsg retryNumber received s.client)
  | _, _ => none

/-- The call a step comes back to is the wait it has come from, or no wait. -/
def Resumes (control back : Control) : Prop :=
  ∀ m k, back = .handleTimeout m k → ∃ k', control = .handleTimeout m k'

/-- The step that ends where a passage does. -/
def EndsAt (s : State) (e : Event) (p : Passage) : Prop :=
  ∃ s' back, step s e = some (s', p.outcome.effects) ∧ s'.client = p.outcome.client ∧
    s'.control = p.outcome.blocked.getD back ∧ Resumes s.control back

theorem resumes_poll (control : Control) : Resumes control .poll :=
  fun _ _ other => by cases other

/-- A step that resumes the main loop ends where its outcome does. -/
theorem ends_resume {s : State} {e : Event} {p : Passage}
    (made : step s e = some (s.resume .poll p.outcome)) : EndsAt s e p :=
  ⟨(s.resume .poll p.outcome).1, .poll, made, rfl, rfl, resumes_poll s.control⟩

theorem pollStep_ends {s : State} (polling : s.control = .poll) (result : PollResult) :
    EndsAt s (.poll result) (Script.pollStep result s.client) := by
  have made := step_polling polling result
  cases result with
  | failed => exact ends_resume made
  | ready socket stdin =>
    unfold EndsAt
    rw [made]
    unfold UDPClient.pollStep
    simp only
    split
    · exact ⟨_, .acceptMsg, rfl, rfl, rfl, fun _ _ other => by cases other⟩
    split
    · exact ⟨_, .getline, rfl, rfl, rfl, fun _ _ other => by cases other⟩
    · exact ⟨_, .poll, rfl, rfl, rfl, resumes_poll s.control⟩

theorem acceptStep_ends {s : State} (accepting : s.control = .acceptMsg) (r : Received) :
    EndsAt s (.recvfrom r) (Script.acceptStep r s.client) := by
  have made := step_accepting accepting r
  unfold UDPClient.acceptStep at made
  unfold Script.acceptStep
  split
  · rename_i empty
    rw [if_pos empty] at made
    split
    · rename_i again
      rw [if_pos again] at made
      exact ⟨_, .poll, made, rfl, rfl, resumes_poll s.control⟩
    · rename_i gone
      rw [if_neg gone] at made
      exact ends_resume made
  · rename_i nonempty
    rw [if_neg nonempty] at made
    refine ends_resume ?_
    rw [Script.assign_andThen, Script.receiveInMain_outcome]
    exact made

theorem getlineStep_ends {s : State} (reading : s.control = .getline) (line : Option Str) :
    EndsAt s (.getline line) (Script.getlineStep line s.client) := by
  have made := step_reading reading line
  cases line with
  | none => exact ends_resume made
  | some line =>
    refine ends_resume ?_
    rw [made]
    show some (s.resume .poll _) = some (s.resume .poll (Script.userLine line s.client).outcome)
    rw [Script.userLine_outcome]

theorem timeoutStep_ends {s : State} {m : UDPMessage} {k : Nat}
    (waiting : s.control = .handleTimeout m k) (r : Received) :
    EndsAt s (.recvfrom r) (Script.timeoutStep m k r s.client) := by
  have made := step_waiting waiting r
  have stays : ∀ k', Resumes s.control (.handleTimeout m k') := by
    intro k' m' k'' same
    cases same
    exact ⟨k, waiting⟩
  unfold EndsAt
  rw [made]
  unfold UDPClient.timeoutStep Script.timeoutStep
  simp only
  split
  · split
    · split
      · exact ⟨_, .poll, rfl, rfl, rfl, resumes_poll s.control⟩
      · exact ⟨_, .handleTimeout m (k + 1), rfl, rfl, rfl, stays _⟩
    · exact ⟨_, .poll, rfl, rfl, rfl, resumes_poll s.control⟩
  · rw [Script.receiveInTimeout_outcome]
    refine ⟨_, _, rfl, rfl, rfl, ?_⟩
    split
    · exact resumes_poll s.control
    · exact stays k

/-- **A passage ends where the machine does.** -/
theorem passage_step {s : State} {e : Event} {p : Passage} (passes : passage s e = some p) :
    EndsAt s e p := by
  unfold passage at passes
  cases control : s.control with
  | poll => cases e with
    | poll result =>
      simp only [control, Option.some.injEq] at passes
      exact passes ▸ pollStep_ends control result
    | _ => simp [control] at passes
  | acceptMsg => cases e with
    | recvfrom r =>
      simp only [control, Option.some.injEq] at passes
      exact passes ▸ acceptStep_ends control r
    | _ => simp [control] at passes
  | getline => cases e with
    | getline line =>
      simp only [control, Option.some.injEq] at passes
      exact passes ▸ getlineStep_ends control line
    | _ => simp [control] at passes
  | handleTimeout m k => cases e with
    | recvfrom r =>
      simp only [control, Option.some.injEq] at passes
      exact passes ▸ timeoutStep_ends control r
    | _ => simp [control] at passes
  | exitProgram => simp [control] at passes
  | exited => simp [control] at passes

/-! ### Interrupts at any point -/

/-- An event and the passage it starts, or a `SIGINT` behind some statements of that passage. -/
inductive Moment
  | whole (e : Event)
  | within (e : Event) (statements : Nat)
  deriving DecidableEq, Repr

/-- An effect; `again` marks the retransmissions of `handle_timeout`. -/
structure Mark where
  again : Bool
  effect : Effect UInt16
  deriving DecidableEq, Repr

def marked (again : Bool) (effects : List (Effect UInt16)) : List Mark := effects.map (⟨again, ·⟩)

/-- `handle_timeout` sends the message again: a timeout below the limit. -/
def retransmits (s : State) (e : Event) : Bool :=
  match s.control, e with
  | .handleTimeout _ retryNumber, .recvfrom received =>
    decide (received.bytesRx ≤ 0) && received.errno.again &&
      !decide (retryNumber = s.client.maxUdpRetransmission.toNat)
  | _, _ => false

/-- A step of the machine, or the passage up to a point and then `graceful_exit`. A `SIGINT` does not
come in `exit_program`. -/
def momentStep (s : State) : Moment → Option (State × List Mark)
  | .whole e =>
    match s.control, e with
    | .exitProgram _ _, .sigint => none
    | _, _ => (step s e).map fun r => (r.1, marked (retransmits s e) r.2)
  | .within e statements =>
    match passage s e with
    | none => none
    | some p => ((s.client, []) :: p.points)[statements]?.map fun point =>
      ((s.resume .poll point.1.gracefulExit).1,
        marked (retransmits s e) point.2 ++ marked false point.1.gracefulExit.effects)

/-- **The client with a `SIGINT` at any point** outside `exit_program`. -/
def interruptible (port : UInt16) : Reactive.Machine State Moment Mark where
  init := (machine port).init
  step := momentStep

end UDPClient

end Ipk24Chat
