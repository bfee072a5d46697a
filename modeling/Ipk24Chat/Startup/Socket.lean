/-
**The socket: `ClientSocket::create_socket`.**

The system calls are a parameter, `Kernel`. The receive timeout is set for a datagram socket only, and in
microseconds alone, so that a second or more is no `timeval` the kernel takes.

* `socket_datagram`: what is passed to `setsockopt`, and when the program goes on;
* `socket_stream`: nothing is passed for TCP.
-/

import Ipk24Chat.Startup.Options

namespace Ipk24Chat

/-- `struct timeval`. -/
structure Timeval where
  tvSec : Int
  tvUsec : Int
  deriving DecidableEq, Repr

/-- The microseconds are less than a second. -/
def Timeval.Normalised (tv : Timeval) : Prop := 0 ≤ tv.tvUsec ∧ tv.tvUsec < 1000000

instance (tv : Timeval) : Decidable tv.Normalised := inferInstanceAs (Decidable (_ ∧ _))

/-- The whole time. -/
def Timeval.microseconds (tv : Timeval) : Int := tv.tvSec * 1000000 + tv.tvUsec

/-- The system calls, which return `-1` when they fail. -/
structure Kernel where
  /-- `socket(AF_INET, type, 0)`. -/
  socket : (type : UInt16) → Int
  /-- `setsockopt` with `SO_RCVTIMEO`. -/
  setsockopt : (socketFd : Int) → Timeval → Int

/-- **The kernel refuses a timeout exactly when it is not normalised**, for the socket it has created. -/
def Kernel.ChecksTimeouts (kernel : Kernel) : Prop :=
  kernel.socket SOCK_DGRAM ≠ -1 →
    ∀ tv, kernel.setsockopt (kernel.socket SOCK_DGRAM) tv = -1 ↔ ¬ tv.Normalised

/-- The fields of `ClientSocket`. -/
structure ClientSocket where
  socketFd : Int
  type : UInt16
  tv : Timeval
  deriving DecidableEq, Repr

/-- The constructor. -/
def ClientSocket.new (protocolType : UInt16) : ClientSocket where
  socketFd := -1
  type := protocolType
  tv := ⟨0, 0⟩

/-- What `create_socket` leaves behind, and the timeouts it has passed to `setsockopt`. -/
structure Creation where
  result : Except Halt ClientSocket
  passed : List Timeval

/-- `create_socket`; the product with 1000 is far inside of an `int`. -/
def ClientSocket.createSocket (kernel : Kernel) (s : ClientSocket) (info : ConnectionInfo) : Creation :=
  let s := { s with socketFd := kernel.socket s.type }
  if s.socketFd = -1 then ⟨.error (.exited .creatingSocket .failure), []⟩
  else if s.type = SOCK_DGRAM then
    let s := { s with tv.tvUsec := info.udpTimeout.toNat * 1000 }
    if kernel.setsockopt s.socketFd s.tv = -1 then
      ⟨.error (.exited .settingTimeout .failure), [s.tv]⟩
    else ⟨.ok s, [s.tv]⟩
  else ⟨.ok s, []⟩

/-- The socket of a client that is started with these arguments. -/
def ConnectionInfo.socket (kernel : Kernel) (info : ConnectionInfo) : Creation :=
  (ClientSocket.new info.sockType).createSocket kernel info

/-- The program exits with an error. -/
def Creation.Rejected (c : Creation) : Prop := ∃ n, c.result = .error (.exited n .failure)

/-- The timeout of a client. -/
def ConnectionInfo.timeval (info : ConnectionInfo) : Timeval := ⟨0, info.udpTimeout.toNat * 1000⟩

theorem normalised_timeval_iff (info : ConnectionInfo) :
    info.timeval.Normalised ↔ info.udpTimeout.toNat < 1000 := by
  show 0 ≤ (info.udpTimeout.toNat : Int) * 1000 ∧ (info.udpTimeout.toNat : Int) * 1000 < 1000000 ↔ _
  omega

/-- **The socket of the UDP client**: without an error the timeout has been passed. -/
theorem socket_datagram {kernel : Kernel} (law : kernel.ChecksTimeouts) {info : ConnectionInfo}
    (datagram : info.sockType = SOCK_DGRAM) :
    ((info.socket kernel).Rejected ↔ kernel.socket SOCK_DGRAM = -1 ∨ 1000 ≤ info.udpTimeout.toNat) ∧
      (kernel.socket SOCK_DGRAM ≠ -1 → (info.socket kernel).passed = [info.timeval]) := by
  unfold ConnectionInfo.socket ClientSocket.createSocket ClientSocket.new
  simp only [datagram, if_true]
  by_cases failed : kernel.socket SOCK_DGRAM = -1
  · rw [if_pos failed]
    exact ⟨iff_of_true ⟨_, rfl⟩ (Or.inl failed), fun created => absurd failed created⟩
  · rw [if_neg failed]
    have refused := law failed info.timeval
    rw [normalised_timeval_iff] at refused
    by_cases wrong : kernel.setsockopt (kernel.socket SOCK_DGRAM) info.timeval = -1
    · have long := refused.mp wrong
      rw [ConnectionInfo.timeval] at wrong
      rw [if_pos wrong]
      exact ⟨iff_of_true ⟨_, rfl⟩ (Or.inr (by omega)), fun _ => rfl⟩
    · have short : ¬ ¬ info.udpTimeout.toNat < 1000 := fun long => wrong (refused.mpr long)
      rw [ConnectionInfo.timeval] at wrong
      rw [if_neg wrong]
      refine ⟨iff_of_false ?_ ?_, fun _ => rfl⟩
      · rintro ⟨n, error⟩
        cases error
      · rintro (created | long)
        · exact failed created
        · omega

/-- **The socket of the TCP client** has no timeout. -/
theorem socket_stream (kernel : Kernel) {info : ConnectionInfo} (stream : info.sockType = SOCK_STREAM) :
    (info.socket kernel).passed = [] := by
  unfold ConnectionInfo.socket ClientSocket.createSocket ClientSocket.new
  simp only [stream]
  split
  · rfl
  · rw [if_neg (by decide)]

end Ipk24Chat
