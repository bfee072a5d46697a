/-
**The TCP client: `TCPClient` of `clients.cpp` and `exit_program` of `main.cpp`.**

Cut at its blocking calls like the UDP client: `poll`, the `recv` of one byte in `accept_msg` (with
the bytes received so far), `std::getline`. The socket branch of the main loop may `continue`, or
fall through to the stdin branch of the same iteration, which looks at `fds[1].revents` again;
an `Outcome` that is not `blocked` falls through.

`recv` returns into a `size_t`, so that `-1` counts as a byte received: the buffer keeps what it
held there. An exception of the decoder is caught nowhere and aborts the program. `machine` is the program as
long as the server takes what is sent; `process` may be ended by the `SIGPIPE` of a `send`.
-/

import Ipk24Chat.Clients.Basic
import Ipk24Chat.Messages.Tcp
import Ipk24Chat.Lib.Mortal

namespace Ipk24Chat

/-- `TCPClient` adds no field; `msg_counter` is not used. -/
structure TCPClient extends ClientInfo where
  deriving DecidableEq, Repr

def TCPClient.new : TCPClient := { toClientInfo := .new }

namespace TCPClient

/-- The blocking call the program is in, or its end. -/
inductive Control
  | poll
  | acceptMsg (buffer : Str)
  | getline
  | exited (retState : ExitCode)
  | aborted
  deriving DecidableEq, Repr

/-- What a call leaves behind; when it is not blocked the program goes on behind the call. -/
structure Outcome where
  client : TCPClient
  effects : List (Effect Unit)
  blocked : Option Control

def Outcome.after (effects : List (Effect Unit)) (o : Outcome) : Outcome :=
  { o with effects := effects ++ o.effects }

def printed (lines : List Output) : List (Effect Unit) := lines.map .print

def sendMsg (m : TCPMessage) : List (Effect Unit) := [.send m.getOutputBuffer ()]

/-! ### Leaving the program -/

def byeMsg : TCPMessage :=
  (TCPMessage.processOutgoingMsg (NetworkMessage.new (bytes "BYE") .bye)).1

def exitProgram (c : TCPClient) (sendBye : Bool) (retState : ExitCode) : Outcome :=
  ⟨c, if sendBye then sendMsg byeMsg else [], some (.exited retState)⟩

/-- `Signal_handler::graceful_exit`. -/
def gracefulExit (c : TCPClient) : Outcome :=
  if c.clientState = .startState then c.exitProgram false .success
  else c.exitProgram true .success

/-- The ERR sent for an unexpected message, and the exit. -/
def sendErr (c : TCPClient) (text : Str) : Outcome :=
  let errMsg := (TCPMessage.processOutgoingMsg
    ((NetworkMessage.new text .customErr).setDisplayName c.dname)).1
  (c.exitProgram true .failure).after (sendMsg errMsg)

/-! ### The messages of the server -/

/-- `continue`. -/
def toPoll (c : TCPClient) (effects : List (Effect Unit)) : Outcome := ⟨c, effects, some .poll⟩

/-- The socket branch of START_STATE. -/
def handleStartState (c : TCPClient) (inboundMsg : TCPMessage) : Outcome :=
  if inboundMsg.type ≠ .toBeDecided then
    c.sendErr (bytes "Unknown or invalid message at current state.")
  else ⟨c, [], none⟩

/-- The socket branch of AUTH_STATE. -/
def handleAuthState (c : TCPClient) (inboundMsg : TCPMessage) : Outcome :=
  match inboundMsg.type with
  | .replyOk =>
    if c.replyMsgSent then
      toPoll { c with replyMsgSent := false, clientState := .openState }
        (printed [inboundMsg.printMessage])
    else ⟨c, [], none⟩
  | .replyNok =>
    if c.replyMsgSent then
      toPoll { c with replyMsgSent := false } (printed [inboundMsg.printMessage])
    else ⟨c, [], none⟩
  | .err => c.exitProgram true .failure
  | .bye | .msg | .invalidMsg => c.sendErr (bytes "Unknown or invalid message at current state.")
  | _ => ⟨c, [], none⟩

/-- The socket branch of OPEN_STATE: the replies do not `continue`. -/
def handleOpenState (c : TCPClient) (inboundMsg : TCPMessage) : Outcome :=
  match inboundMsg.type with
  | .err => c.exitProgram true .failure
  | .bye => c.exitProgram false .success
  | .replyNok | .replyOk =>
    if c.replyMsgSent then
      ⟨{ c with replyMsgSent := false }, printed [inboundMsg.printMessage], none⟩
    else ⟨c, [], none⟩
  | .msg => toPoll c []
  | _ => c.sendErr (bytes "Unknown or invalid message at current state")

def handleInbound (c : TCPClient) (inboundMsg : TCPMessage) : Outcome :=
  match c.clientState with
  | .startState => c.handleStartState inboundMsg
  | .authState => c.handleAuthState inboundMsg
  | .openState => c.handleOpenState inboundMsg

/-- The decoding of what `accept_msg` has received, and the socket branch. -/
def receive (c : TCPClient) (buffer : Str) : Outcome :=
  let inboundMsg : TCPMessage := { NetworkMessage.new [] .toBeDecided with buffer := buffer }
  match inboundMsg.processInboundMsg buffer.length with
  | .ok decoded => (c.handleInbound decoded.1).after (printed decoded.2)
  | .error _ => ⟨c, [], some .aborted⟩

/-! ### The user -/

/-- What is done with a message that is ready to be sent. -/
def dispatch (c : TCPClient) (outgoingMsg : TCPMessage) : Outcome :=
  match c.clientState with
  | .startState =>
    if outgoingMsg.type ≠ .auth then toPoll c (printed [.notice .authorizeFirst])
    else toPoll { c with replyMsgSent := true, clientState := .authState } (sendMsg outgoingMsg)
  | .authState =>
    if outgoingMsg.type ≠ .auth ∧ c.replyMsgSent = false then
      toPoll c (printed [.notice .notAuthorizedYet])
    else if outgoingMsg.type = .auth then
      toPoll { c with replyMsgSent := true } (sendMsg outgoingMsg)
    else toPoll c []
  | .openState =>
    if outgoingMsg.type = .join then
      toPoll { c with replyMsgSent := true } (sendMsg outgoingMsg)
    else if outgoingMsg.type ≠ .auth then toPoll c (sendMsg outgoingMsg)
    else toPoll c (printed [.notice .alreadyAuthorized])

/-- The message built from a line. -/
def userMsg (c : TCPClient) (line : Str) : TCPMessage × List Output :=
  TCPMessage.processOutgoingMsg ((NetworkMessage.new line .userCmd).setDisplayName c.dname)

/-- A line read from stdin. -/
def userLine (c : TCPClient) (line : Str) : Outcome :=
  if line = [] then toPoll c []
  else
    let built := c.userMsg line
    let outgoingMsg := built.1
    let c : TCPClient :=
      if outgoingMsg.type = .auth ∨ outgoingMsg.type = .rename then
        { c with dname := outgoingMsg.displayName }
      else c
    (if outgoingMsg.readyToSend then c.dispatch outgoingMsg else toPoll c []).after
      (printed built.2)

/-! ### The machine -/

/-- The client together with the locals of `start_tcp_chat` that outlive an iteration. -/
structure State where
  client : TCPClient
  nfds : Nat
  /-- `fds[1].revents`. -/
  revents : Revents
  control : Control
  deriving DecidableEq, Repr

/-- The answer of a `recv` of one byte; after `-1` the buffer still holds `held` at its place. -/
inductive Recv
  | byte (value : UInt8)
  | closed
  | failed (held : UInt8)
  deriving DecidableEq, Repr

/-- The answer to the blocking call, or a `SIGINT` during it. -/
inductive Event
  | poll (result : PollResult)
  | recv (received : Recv)
  | getline (line : Option Str)
  | sigint
  deriving DecidableEq, Repr

/-- The stdin branch at the end of an iteration. -/
def State.stdinBranch (s : State) : Control := if s.revents.readable then .getline else .poll

/-- The state and the effects of an outcome, `back` being the control behind the call. -/
def State.resume (s : State) (back : Control) (o : Outcome) : State × List (Effect Unit) :=
  ({ s with client := o.client, control := o.blocked.getD back }, o.effects)

/-- The number of descriptors polled: stdin is left out while a reply is awaited. -/
def pollCount (c : TCPClient) : Nat := if c.replyMsgSent then 1 else 2

/-- The top of an iteration of the main loop. -/
def pollStep (s : State) : PollResult → State × List (Effect Unit)
  | .failed =>
    s.resume .poll ((s.client.exitProgram false .failure).after (printed [.notice .pollFailed]))
  | .ready socket stdin =>
    let nfds := s.client.pollCount
    let s := { s with nfds := nfds, revents := stdinRevents nfds stdin s.revents }
    if socket.pollin then ({ s with control := .acceptMsg [] }, [])
    else ({ s with control := s.stdinBranch }, [])

/-- The inner loop of `accept_msg`: a CRLF at one of the `remaining` places from `i` on. -/
def crlfLoop (buffer : Str) : (remaining i : Nat) → Bool
  | 0, _ => false
  | remaining + 1, i =>
    if buffer.getD i 0 = 13 ∧ buffer.getD (i + 1) 0 = 10 then true
    else crlfLoop buffer remaining (i + 1)

/-- The loop of `accept_msg` ends with this buffer. -/
def accepted (buffer : Str) : Bool :=
  crlfLoop buffer (buffer.length - 1) 0 || !decide (buffer.length ≤ BUFFER_SIZE - 1)

/-- One byte has been counted as received; the message may be complete. -/
def acceptByte (s : State) (buffer : Str) : State × List (Effect Unit) :=
  if accepted buffer then s.resume s.stdinBranch (s.client.receive buffer)
  else ({ s with control := .acceptMsg buffer }, [])

/-- One iteration of the loop of `accept_msg`. The constructor has put a NUL in the first place. -/
def acceptStep (s : State) (buffer : Str) : Recv → State × List (Effect Unit)
  | .byte value => acceptByte s (buffer ++ [value])
  | .failed held => acceptByte s (buffer ++ [if buffer = [] then 0 else held])
  | .closed =>
    s.resume .poll ((s.client.exitProgram false .failure).after (printed [.notice .noData]))

def getlineStep (s : State) : Option Str → State × List (Effect Unit)
  | none => s.resume .poll (s.client.exitProgram true .failure)
  | some line => s.resume .poll (s.client.userLine line)

/-- The blocking call is answered, and the program runs up to the next one. -/
def step (s : State) (e : Event) : Option (State × List (Effect Unit)) :=
  match s.control, e with
  | .exited _, _ => none
  | .aborted, _ => none
  | _, .sigint => some (s.resume .poll s.client.gracefulExit)
  | .poll, .poll result => some (pollStep s result)
  | .acceptMsg buffer, .recv received => some (acceptStep s buffer received)
  | .getline, .getline line => some (getlineStep s line)
  | _, _ => none

/-- The first state of `start_tcp_chat` behind `establish_connection`; `fds` is not initialised. -/
def start (revents : Revents) : State where
  client := .new
  nfds := 2
  revents := revents
  control := .poll

/-- `start_tcp_chat`. -/
def machine : Reactive.Machine State Event (Effect Unit) where
  init s := ∃ revents, s = start revents
  step := step

/-- A `send` may raise `SIGPIPE`, when the server has closed the connection. -/
def raisesSigpipe : Effect Unit → Bool
  | .send _ _ => true
  | .print _ => false

/-- `start_tcp_chat` as a process: the flags of `send` are 0 and nothing handles `SIGPIPE`, which ends the
program at once. -/
def process : Reactive.Machine (Option State) (Reactive.Mortal Event) (Effect Unit) :=
  machine.mortal raisesSigpipe

end TCPClient

end Ipk24Chat
