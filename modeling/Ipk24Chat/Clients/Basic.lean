/-
**What both clients share: the session record and the answers of the operating system.**

A client blocks in `poll`, in a receive call or in `std::getline`; the answer to such a call is an
event. `errno` is global state that many calls may write, so the value a receive call leaves or
finds there is part of its answer.
-/

import Ipk24Chat.Messages.Basic

namespace Ipk24Chat

/-- `client_info`. `msg_counter` is an `int`; the ids of messages are its low 16 bits. -/
structure ClientInfo where
  dname : Str
  clientState : FsmState
  replyMsgSent : Bool
  msgCounter : Nat
  deriving DecidableEq, Repr

def ClientInfo.new : ClientInfo where
  dname := []
  clientState := .startState
  replyMsgSent := false
  msgCounter := 0

/-! ### `poll` -/

/-- The bits of `revents` that the client looks at. -/
structure Revents where
  pollin : Bool
  pollhup : Bool
  deriving DecidableEq, Repr

/-- `revents & (POLLIN | POLLHUP)`. -/
def Revents.readable (r : Revents) : Bool := r.pollin || r.pollhup

/-- The answer of `poll`: `-1`, or what it reports for the socket and, when asked, for stdin. -/
inductive PollResult
  | failed
  | ready (socket stdin : Revents)
  deriving DecidableEq, Repr

/-- `fds[1].revents` after the call: `poll` leaves it alone when `nfds` is 1. -/
def stdinRevents (nfds : Nat) (reported previous : Revents) : Revents :=
  if nfds = 2 then reported else previous

/-! ### `recvfrom` -/

inductive Errno
  | EAGAIN
  | EWOULDBLOCK
  | other (code : Nat)
  deriving DecidableEq, Repr

/-- `errno == EWOULDBLOCK || errno == EAGAIN`. -/
def Errno.again : Errno → Bool
  | .other _ => false
  | _ => true

/-- The answer of `recvfrom`: a datagram (possibly empty) and its source port, or `-1`; with the
value of `errno` after the call. -/
inductive Received
  | datagram (content : Str) (port : UInt16) (errno : Errno)
  | failed (errno : Errno)
  deriving DecidableEq, Repr

/-- The bytes copied to the buffer; a longer datagram is cut. -/
def Received.buffer : Received → Str
  | .datagram content _ _ => content.take BUFFER_SIZE
  | .failed _ => []

/-- The value returned. -/
def Received.bytesRx : Received → Int
  | .datagram content _ _ => (content.take BUFFER_SIZE).length
  | .failed _ => -1

def Received.errno : Received → Errno
  | .datagram _ _ errno => errno
  | .failed errno => errno

/-- `sin_port` of the source address. -/
def Received.port : Received → UInt16
  | .datagram _ port _ => port
  | .failed _ => 0

end Ipk24Chat
