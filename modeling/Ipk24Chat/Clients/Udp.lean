/-
**The UDP client: `UDPClient` of `clients.cpp` and `exit_program` of `main.cpp`.**

The program is cut at its blocking calls. `Control` says in which of them it is blocked, with the
locals that live there: `poll` and `recvfrom` of the main loop, `std::getline`, the `recvfrom` of
`handle_timeout` (with the message waited for and the retries made), the `recvfrom` of
`exit_program` (which waits for the CONFIRM of the BYE). A function of the source becomes a function
to an `Outcome`: the client it leaves, what was sent and printed, and the blocking call the program
has come to, `none` when it has returned. `UDPClient.step` is the answer of the environment to the
blocking call followed by everything the program does up to the next one.

`confirm_id` and `reply_id` are only read by `fsm_logic_handler`, which writes them first; they are
locals there. `retry_count` and `timeout_happened` are never read. A failure of `sendto` only prints
a line; it is not an event.
-/

import Ipk24Chat.Clients.Basic
import Ipk24Chat.Messages.Udp
import Ipk24Chat.Lib.Reactive

namespace Ipk24Chat

/-- The fields of `UDPClient`; `aiPort` is `sin_port` of `dns_results->ai_addr`, where every
datagram is sent to, and `maxUdpRetransmission` the command line argument. -/
structure UDPClient extends ClientInfo where
  aiPort : UInt16
  maxUdpRetransmission : UInt16
  serverPort : UInt16
  confirmMsgSent : Bool
  changeServerPort : Bool
  confirmIdVector : List UInt16
  replyIdVector : List UInt16
  seenIds : List UInt16
  deriving DecidableEq, Repr

/-- The constructor; `server_port` is set to `-1`. -/
def UDPClient.new (port maxUdpRetransmission : UInt16) : UDPClient where
  toClientInfo := .new
  aiPort := port
  maxUdpRetransmission := maxUdpRetransmission
  serverPort := 65535
  confirmMsgSent := false
  changeServerPort := true
  confirmIdVector := []
  replyIdVector := []
  seenIds := []

namespace UDPClient

/-- The blocking call the program is in, or its exit. -/
inductive Control
  | poll
  | acceptMsg
  | getline
  | handleTimeout (outgoingMsg : UDPMessage) (retryNumber : Nat)
  | exitProgram (retryNumber : Nat) (retState : ExitCode)
  | exited (retState : ExitCode)
  deriving DecidableEq, Repr

/-- What a call leaves behind. -/
structure Outcome where
  client : UDPClient
  effects : List (Effect UInt16)
  blocked : Option Control

/-- The call has returned and done nothing else. -/
def Outcome.done (c : UDPClient) : Outcome := ⟨c, [], none⟩

/-- Effects before a call. -/
def Outcome.after (effects : List (Effect UInt16)) (o : Outcome) : Outcome :=
  { o with effects := effects ++ o.effects }

/-- One call and, when it returns, the next. -/
def Outcome.andThen (o : Outcome) (next : UDPClient → Outcome) : Outcome :=
  match o.blocked with
  | some _ => o
  | none => (next o.client).after o.effects

def printed (lines : List Output) : List (Effect UInt16) := lines.map .print

def sendMsg (c : UDPClient) (m : UDPMessage) : List (Effect UInt16) := [.send m.udpBuffer c.aiPort]

/-- The id of the next message, `msg_counter` passed to a `uint16_t`. -/
def nextId (c : UDPClient) : UInt16 := UInt16.ofNat c.msgCounter

/-! ### Leaving the program -/

def byeMsg (c : UDPClient) : UDPMessage :=
  (UDPMessage.new (bytes "BYE") .bye c.nextId).processOutgoingMsg.1

/-- `exit_program`, up to its first `recvfrom`. -/
def exitProgram (c : UDPClient) (sendBye : Bool) (retState : ExitCode) : Outcome :=
  if sendBye then ⟨c, c.sendMsg c.byeMsg, some (.exitProgram 0 retState)⟩
  else ⟨c, [], some (.exited retState)⟩

/-- `Signal_handler::graceful_exit`. -/
def gracefulExit (c : UDPClient) : Outcome :=
  if c.clientState = .startState then c.exitProgram false .success
  else c.exitProgram true .success

/-- `handle_timeout`, up to its first `recvfrom`. -/
def handleTimeout (c : UDPClient) (outgoingMsg : UDPMessage) (exit : Bool) : Outcome :=
  if exit then c.exitProgram true .failure
  else ⟨c, [], some (.handleTimeout outgoingMsg 0)⟩

/-! ### Sending -/

def confirmMsg (messageId : UInt16) : UDPMessage :=
  (UDPMessage.new [] .confirm messageId).processOutgoingMsg.1

def sendConfirm (c : UDPClient) (messageId : UInt16) : Outcome :=
  ⟨c, c.sendMsg (confirmMsg messageId), none⟩

def sendConfimExit (c : UDPClient) (inboundMsg : UDPMessage) (exit : Bool) : Outcome :=
  (c.sendConfirm inboundMsg.messageId).andThen fun c =>
    if exit then
      if inboundMsg.type = .bye then c.exitProgram true .success else c.exitProgram true .failure
    else .done c

def errMsg (c : UDPClient) : UDPMessage :=
  ((UDPMessage.new (bytes "Unknown or invalid message at current state.") .customErr
    c.nextId).setDisplayName c.dname).processOutgoingMsg.1

def sendErrorExit (c : UDPClient) : Outcome :=
  let c' : UDPClient := { c with msgCounter := c.msgCounter + 1, confirmMsgSent := true }
  (c'.handleTimeout c.errMsg true).after (c'.sendMsg c.errMsg)

/-! ### `fsm_logic_handler` -/

/-- The front of a vector of ids as an `int`, `-1` when it is empty. -/
def frontId : List UInt16 → Int
  | [] => -1
  | id :: _ => id.toNat

/-- The branches of CONFIRM. -/
def handleConfirm (c : UDPClient) (inboundMsg : UDPMessage) : Outcome :=
  if frontId c.confirmIdVector = inboundMsg.refMessageId.toNat then
    .done { c with confirmIdVector := c.confirmIdVector.tail, confirmMsgSent := false }
  else .done c

/-- The switch of the server port. -/
def switchServerPort (c : UDPClient) : UDPClient :=
  if c.changeServerPort then { c with aiPort := c.serverPort, changeServerPort := false } else c

/-- The branches of REPLY: whether the port is switched, and the state the awaited reply leads
to. -/
def handleReply (c : UDPClient) (inboundMsg : UDPMessage) (switchPort : Bool) (next : FsmState) :
    Outcome :=
  let c : UDPClient := { c with seenIds := c.seenIds ++ [inboundMsg.messageId] }
  if c.replyMsgSent then
    let c := if switchPort then c.switchServerPort else c
    if frontId c.replyIdVector = inboundMsg.refMessageId.toNat then
      let c : UDPClient := { c with
        replyIdVector := c.replyIdVector.tail, replyMsgSent := false, clientState := next }
      (c.sendConfimExit inboundMsg false).after (printed [inboundMsg.printMessage])
    else c.sendConfimExit inboundMsg false
  else c.sendConfimExit inboundMsg false

/-- The handler of AUTH_STATE. -/
def handleAuthState (c : UDPClient) (inboundMsg : UDPMessage) : Outcome :=
  match inboundMsg.type with
  | .confirm => c.handleConfirm inboundMsg
  | .replyOk => c.handleReply inboundMsg true .openState
  | .replyNok => c.handleReply inboundMsg true .authState
  | .err => c.sendConfimExit inboundMsg true
  | .msg => (c.sendConfirm inboundMsg.messageId).andThen sendErrorExit
  | _ => .done c

/-- The handler of OPEN_STATE; ERR, BYE and what is not known are decoded once more. -/
def handleOpenState (c : UDPClient) (inboundMsg : UDPMessage) (bytesRx : Nat) : Outcome :=
  match inboundMsg.type with
  | .err =>
    let decoded := inboundMsg.processInboundMsg bytesRx
    ((c.sendConfirm decoded.1.messageId).andThen fun c => c.exitProgram true .failure).after
      (printed decoded.2)
  | .bye =>
    let decoded := inboundMsg.processInboundMsg bytesRx
    ((c.sendConfirm decoded.1.messageId).andThen fun c => c.exitProgram false .failure).after
      (printed decoded.2)
  | .confirm => c.handleConfirm inboundMsg
  | .replyNok => c.handleReply inboundMsg false .openState
  | .replyOk => c.handleReply inboundMsg false .openState
  | .msg =>
    UDPClient.sendConfimExit { c with seenIds := c.seenIds ++ [inboundMsg.messageId] }
      inboundMsg false
  | _ =>
    let decoded := inboundMsg.processInboundMsg bytesRx
    ((c.sendConfirm c.nextId).andThen sendErrorExit).after (printed decoded.2)

def fsmLogicHandler (c : UDPClient) (skipMessage : Bool) (inboundMsg : UDPMessage)
    (bytesRx : Nat) : Outcome :=
  if skipMessage then .done c
  else
    let decoded := inboundMsg.processInboundMsg bytesRx
    Outcome.after (printed decoded.2) <| match c.clientState with
      | .startState =>
        if decoded.1.type ≠ .toBeDecided then
          (c.exitProgram true .failure).after (printed [.notice .unknownAtState])
        else .done c
      | .authState => c.handleAuthState decoded.1
      | .openState => c.handleOpenState decoded.1 bytesRx

/-! ### The receive paths -/

/-- The object a datagram is received into; its id is set to `-1`. -/
def inboundMsg (buffer : Str) : UDPMessage :=
  { UDPMessage.new [] .toBeDecided 65535 with buffer := buffer }

/-- A datagram in the loop of `handle_timeout`: it is the CONFIRM waited for (`true`), or
`fsm_logic_handler` has handled it. -/
def receiveInTimeout (c : UDPClient) (outgoingMsg : UDPMessage) (buffer : Str) : Bool × Outcome :=
  let v := (inboundMsg buffer).validateUniqueId buffer.length c.seenIds
  if c.confirmMsgSent ∧ v.msg.type = .confirm ∧ v.msg.refMessageId = outgoingMsg.messageId then
    (true, ⟨{ c with confirmMsgSent := false }, printed v.printed, none⟩)
  else (false, (c.fsmLogicHandler v.skipMessage v.msg buffer.length).after (printed v.printed))

/-- What the main loop does with a message before `fsm_logic_handler`. -/
def preHandle (c : UDPClient) (m : UDPMessage) (bytesRx : Nat) : Outcome :=
  if m.type = .err then
    let decoded := m.processInboundMsg bytesRx
    ((c.sendConfirm decoded.1.messageId).andThen fun c => c.exitProgram true .failure).after
      (printed decoded.2)
  else if m.type = .invalidMsg then
    let decoded := m.processInboundMsg bytesRx
    ((c.sendConfirm c.nextId).andThen sendErrorExit).after (printed decoded.2)
  else if c.clientState = .startState ∧ m.type ≠ .toBeDecided then
    (c.sendConfirm m.messageId).andThen sendErrorExit
  else if c.clientState = .authState ∧ (m.type = .bye ∨ m.type = .msg) then
    (c.sendConfirm m.messageId).andThen sendErrorExit
  else .done c

/-- A datagram in the main loop, behind `accept_msg`. -/
def receiveInMain (c : UDPClient) (buffer : Str) : Outcome :=
  let v := (inboundMsg buffer).validateUniqueId buffer.length c.seenIds
  ((if v.skipMessage then Outcome.done c else c.preHandle v.msg buffer.length).andThen fun c =>
    c.fsmLogicHandler v.skipMessage v.msg buffer.length).after (printed v.printed)

/-! ### The user -/

/-- The bookkeeping of a user message and the wait for its CONFIRM; a request (AUTH, JOIN) is also
to be replied to. -/
def sendUserMsg (c : UDPClient) (outgoingMsg : UDPMessage) (request : Bool) (next : FsmState) :
    Outcome :=
  let c : UDPClient := { c with
    confirmIdVector := c.confirmIdVector ++ [outgoingMsg.messageId]
    replyIdVector := if request then c.replyIdVector ++ [outgoingMsg.messageId]
      else c.replyIdVector
    replyMsgSent := request || c.replyMsgSent
    confirmMsgSent := true
    clientState := next }
  (c.handleTimeout outgoingMsg false).after (c.sendMsg outgoingMsg)

/-- The message built from a line. -/
def userMsg (c : UDPClient) (line : Str) : UDPMessage × List Output :=
  ((UDPMessage.new line .userCmd c.nextId).setDisplayName c.dname).processOutgoingMsg

/-- What is done with a message that is ready to be sent. -/
def dispatch (c : UDPClient) (outgoingMsg : UDPMessage) : Outcome :=
  let c : UDPClient := { c with msgCounter := c.msgCounter + 1 }
  match c.clientState with
  | .startState =>
    if outgoingMsg.type ≠ .auth then ⟨c, printed [.notice .authorizeFirst], none⟩
    else c.sendUserMsg outgoingMsg true .authState
  | .authState =>
    if outgoingMsg.type ≠ .auth ∧ c.replyMsgSent = false then
      ⟨c, printed [.notice .notAuthorizedYet], none⟩
    else if outgoingMsg.type = .auth then c.sendUserMsg outgoingMsg true .authState
    else .done c
  | .openState =>
    if outgoingMsg.type = .join then c.sendUserMsg outgoingMsg true .openState
    else if outgoingMsg.type = .auth then ⟨c, printed [.notice .alreadyAuthorized], none⟩
    else c.sendUserMsg outgoingMsg false .openState

/-- A line read from stdin. -/
def userLine (c : UDPClient) (line : Str) : Outcome :=
  if line = [] then .done c
  else
    let built := c.userMsg line
    let outgoingMsg := built.1
    let c : UDPClient :=
      if outgoingMsg.type = .auth ∨ outgoingMsg.type = .rename then
        { c with dname := outgoingMsg.displayName }
      else c
    (if outgoingMsg.readyToSend then c.dispatch outgoingMsg else .done c).after (printed built.2)

/-! ### The machine -/

/-- The client together with the locals of `start_udp_chat` that outlive an iteration. -/
structure State where
  client : UDPClient
  nfds : Nat
  /-- `fds[1].revents`. -/
  revents : Revents
  control : Control
  deriving DecidableEq, Repr

/-- The answer to the blocking call, or a `SIGINT` during it. -/
inductive Event
  | poll (result : PollResult)
  | recvfrom (received : Received)
  | getline (line : Option Str)
  | sigint
  deriving DecidableEq, Repr

/-- The state and the effects of an outcome; `back` is the call reached when it has returned. -/
def State.resume (s : State) (back : Control) (o : Outcome) : State × List (Effect UInt16) :=
  ({ s with client := o.client, control := o.blocked.getD back }, o.effects)

/-- The number of descriptors polled: stdin is left out while a reply or a CONFIRM is awaited. -/
def pollCount (c : UDPClient) : Nat := if c.replyMsgSent || c.confirmMsgSent then 1 else 2

/-- The top of an iteration of the main loop. -/
def pollStep (s : State) : PollResult → State × List (Effect UInt16)
  | .failed =>
    s.resume .poll ((s.client.exitProgram false .failure).after (printed [.notice .pollFailed]))
  | .ready socket stdin =>
    let nfds := s.client.pollCount
    let s := { s with nfds := nfds, revents := stdinRevents nfds stdin s.revents }
    if socket.pollin then ({ s with control := .acceptMsg }, [])
    else if s.revents.readable then ({ s with control := .getline }, [])
    else ({ s with control := .poll }, [])

/-- `accept_msg` and the rest of the socket branch. -/
def acceptStep (s : State) (received : Received) : State × List (Effect UInt16) :=
  if received.bytesRx ≤ 0 then
    if received.errno.again then
      ({ s with control := .poll }, printed [.notice .timeoutApplied])
    else
      s.resume .poll ((s.client.exitProgram false .failure).after (printed [.notice .noData]))
  else
    let c : UDPClient := { s.client with serverPort := received.port }
    s.resume .poll (c.receiveInMain received.buffer)

def getlineStep (s : State) : Option Str → State × List (Effect UInt16)
  | none => s.resume .poll (s.client.exitProgram true .failure)
  | some line => s.resume .poll (s.client.userLine line)

/-- One iteration of the loop of `handle_timeout`. -/
def timeoutStep (s : State) (outgoingMsg : UDPMessage) (retryNumber : Nat) (received : Received) :
    State × List (Effect UInt16) :=
  let c := s.client
  if received.bytesRx ≤ 0 then
    if received.errno.again then
      if retryNumber = c.maxUdpRetransmission.toNat then
        s.resume .poll ((c.exitProgram true .failure).after (printed [.notice .maxTimeouts]))
      else
        ({ s with control := .handleTimeout outgoingMsg (retryNumber + 1) }, c.sendMsg outgoingMsg)
    else ({ s with control := .poll }, printed [.notice .noData])
  else
    let handled := c.receiveInTimeout outgoingMsg received.buffer
    s.resume (if handled.1 then .poll else .handleTimeout outgoingMsg retryNumber) handled.2

/-- One iteration of the loop of `exit_program`; the CONFIRM is compared with the counter itself. -/
def byeStep (s : State) (retryNumber : Nat) (retState : ExitCode) (received : Received) :
    State × List (Effect UInt16) :=
  let c := s.client
  if received.bytesRx ≤ 0 then
    if received.errno.again then
      if retryNumber = c.maxUdpRetransmission.toNat then
        ({ s with control := .exited retState }, printed [.notice .maxTimeouts])
      else ({ s with control := .exitProgram (retryNumber + 1) retState }, [])
    else ({ s with control := .exited retState }, printed [.notice .noData])
  else
    let v := (inboundMsg received.buffer).validateUniqueId received.buffer.length []
    if v.msg.type = .confirm ∧ v.msg.refMessageId.toNat = c.msgCounter then
      ({ s with control := .exited retState }, printed v.printed)
    else ({ s with control := .exitProgram retryNumber retState }, printed v.printed)

/-- `SIGINT` is taken, unless the program has ended or the handler of an earlier one is running, when it is
blocked. Only the handler leaves with success: `send_confim_exit` is never reached with a BYE. -/
def Control.interruptible : Control → Bool
  | .exitProgram _ .success | .exited _ => false
  | _ => true

/-- The blocking call is answered, and the program runs up to the next one. -/
def step (s : State) (e : Event) : Option (State × List (Effect UInt16)) :=
  match s.control, e with
  | k, .sigint => if k.interruptible then some (s.resume .poll s.client.gracefulExit) else none
  | .poll, .poll result => some (pollStep s result)
  | .acceptMsg, .recvfrom received => some (acceptStep s received)
  | .getline, .getline line => some (getlineStep s line)
  | .handleTimeout outgoingMsg retryNumber, .recvfrom received =>
    some (timeoutStep s outgoingMsg retryNumber received)
  | .exitProgram retryNumber retState, .recvfrom received =>
    some (byeStep s retryNumber retState received)
  | _, _ => none

/-- The first state of `start_udp_chat` behind `dns_lookup`; `fds` is not initialised. -/
def start (port maxUdpRetransmission : UInt16) (revents : Revents) : State where
  client := .new port maxUdpRetransmission
  nfds := 2
  revents := revents
  control := .poll

/-- `start_udp_chat`, for one configured port. -/
def machine (port : UInt16) : Reactive.Machine State Event (Effect UInt16) where
  init s := ∃ maxUdpRetransmission revents, s = start port maxUdpRetransmission revents
  step := step

end UDPClient

end Ipk24Chat
