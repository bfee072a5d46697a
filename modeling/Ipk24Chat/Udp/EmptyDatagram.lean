/-
**Empty datagrams.**

`recvfrom` returns 0 for an empty datagram and leaves `errno` alone. All three receive loops look at
`errno` whenever the count is not positive, so what an empty datagram does depends on the receive calls
before it: it is taken for a timeout or for a failure of the socket.

`inert_iff`: it is neither exactly in `accept_msg`, when the earlier calls have timed out.
-/

import Ipk24Chat.Udp.Farewell

namespace Ipk24Chat

namespace UDPClient

open Reactive

/-- An empty datagram, received with this value in `errno`. -/
def emptyDatagram (port : UInt16) (errno : Errno) : Received := .datagram [] port errno

/-- The program is in one of the three receive loops. -/
def Control.receives : Control → Bool
  | .acceptMsg | .handleTimeout _ _ | .exitProgram _ _ => true
  | _ => false

/-- **Neither a timeout nor a failure**: the client does not leave, `handle_timeout` goes on without a
retry or a copy, and `exit_program` goes on without a retry. -/
structure Neutral (s s' : State) (out : List (Effect UInt16)) : Prop where
  accepts : s.control = .acceptMsg → s'.control.leaving = false
  waits : ∀ m k, s.control = .handleTimeout m k →
    s'.control = .handleTimeout m k ∧ copies m.udpBuffer out = 0
  exits : ∀ k ret, s.control = .exitProgram k ret → s'.control = .exitProgram k ret

/-- **An empty datagram does the same for both values of `errno`**, and is neither a timeout nor a
failure. -/
structure Inert (s : State) (port : UInt16) (errno errno' : Errno) : Prop where
  same : step s (.recvfrom (emptyDatagram port errno)) = step s (.recvfrom (emptyDatagram port errno'))
  neutral : ∀ e, e = errno ∨ e = errno' → ∀ s' out,
    step s (.recvfrom (emptyDatagram port e)) = some (s', out) → Neutral s s' out

theorem emptyDatagram_empty (port : UInt16) (errno : Errno) :
    (emptyDatagram port errno).bytesRx ≤ 0 := Int.le_refl 0

/-- With `EAGAIN` it is a timeout. -/
theorem emptyDatagram_timeout {errno : Errno} (again : errno.again = true) (port : UInt16) :
    Timeout (emptyDatagram port errno) := ⟨emptyDatagram_empty port errno, again⟩

theorem emptyDatagram_failed {errno : Errno} (other : errno.again = false) (port : UInt16) :
    ¬ (emptyDatagram port errno).errno.again = true := Bool.eq_false_iff.mp other

section Steps

variable {s : State} {errno : Errno} (port : UInt16)

theorem accept_again (accepting : s.control = .acceptMsg) (again : errno.again = true) :
    step s (.recvfrom (emptyDatagram port errno)) =
      some ({ s with control := .poll }, printed [.notice .timeoutApplied]) := by
  have timeout := emptyDatagram_timeout again port
  simp only [step_accepting accepting, acceptStep, if_pos timeout.1, if_pos timeout.2]

theorem accept_other (accepting : s.control = .acceptMsg) (other : errno.again = false) :
    step s (.recvfrom (emptyDatagram port errno)) =
      some ({ s with control := .exited .failure }, printed [.notice .noData]) := by
  simp only [step_accepting accepting, acceptStep, if_pos (emptyDatagram_empty port errno),
    if_neg (emptyDatagram_failed other port)]
  rfl

theorem wait_other {m : UDPMessage} {k : Nat} (waiting : s.control = .handleTimeout m k)
    (other : errno.again = false) : step s (.recvfrom (emptyDatagram port errno)) =
      some ({ s with control := .poll }, printed [.notice .noData]) := by
  simp only [step_waiting waiting, timeoutStep, if_pos (emptyDatagram_empty port errno),
    if_neg (emptyDatagram_failed other port)]

theorem exit_other {k : Nat} {ret : ExitCode} (exits : s.control = .exitProgram k ret)
    (other : errno.again = false) : step s (.recvfrom (emptyDatagram port errno)) =
      some ({ s with control := .exited ret }, printed [.notice .noData]) := by
  simp only [step_exit exits, byeStep, if_pos (emptyDatagram_empty port errno),
    if_neg (emptyDatagram_failed other port)]

/-- **In `handle_timeout`** an empty datagram is a retry, the end of the retries, or a return. -/
theorem wait_empty {m : UDPMessage} {k : Nat} (waiting : s.control = .handleTimeout m k)
    (errno : Errno) : ∃ s' out, step s (.recvfrom (emptyDatagram port errno)) = some (s', out) ∧
      s'.control ≠ .handleTimeout m k := by
  cases again : errno.again with
  | true =>
    have timeout := emptyDatagram_timeout again port
    by_cases last : k = s.client.maxUdpRetransmission.toNat
    · exact ⟨_, _, step_giveUp waiting last timeout, Control.noConfusion⟩
    · refine ⟨_, _, step_resend waiting last timeout, fun same => ?_⟩
      have more := (Control.handleTimeout.inj same).2
      omega
  | false => exact ⟨_, _, wait_other port waiting again, Control.noConfusion⟩

/-- **In `exit_program`** it is a retry, the end of the retries, or the end of the program. -/
theorem exit_empty {k : Nat} {ret : ExitCode} (exits : s.control = .exitProgram k ret)
    (errno : Errno) : ∃ s' out, step s (.recvfrom (emptyDatagram port errno)) = some (s', out) ∧
      s'.control ≠ .exitProgram k ret := by
  cases again : errno.again with
  | true =>
    have timeout := emptyDatagram_timeout again port
    by_cases last : k = s.client.maxUdpRetransmission.toNat
    · exact ⟨_, _, (step_exit exits _).trans (congrArg some (byeStep_giveUp timeout last)),
        Control.noConfusion⟩
    · refine ⟨_, _, (step_exit exits _).trans (congrArg some (byeStep_retry timeout last)),
        fun same => ?_⟩
      have more := (Control.exitProgram.inj same).1
      omega
  | false => exact ⟨_, _, exit_other port exits again, Control.noConfusion⟩

/-- In `accept_msg` it does not end the program when the earlier calls have timed out. -/
theorem again_of_neutral (accepting : s.control = .acceptMsg)
    (neutral : ∀ s' out, step s (.recvfrom (emptyDatagram port errno)) = some (s', out) →
      Neutral s s' out) : errno.again = true := by
  by_contra other
  have made := accept_other port accepting (Bool.eq_false_iff.mpr other)
  have goesOn := (neutral _ _ made).accepts accepting
  cases goesOn

end Steps

/-- **Empty datagrams** are neither timeouts nor failures exactly in `accept_msg`, when both values of
`errno` have been left by timeouts. -/
theorem inert_iff {s : State} (receives : s.control.receives = true) (port : UInt16)
    (errno errno' : Errno) : Inert s port errno errno' ↔
      s.control = .acceptMsg ∧ errno.again = true ∧ errno'.again = true := by
  constructor
  · intro inert
    cases control : s.control with
    | acceptMsg =>
      exact ⟨rfl, again_of_neutral port control (inert.neutral errno (Or.inl rfl)),
        again_of_neutral port control (inert.neutral errno' (Or.inr rfl))⟩
    | handleTimeout m k =>
      obtain ⟨s', out, made, moved⟩ := wait_empty port control errno
      exact absurd ((inert.neutral errno (Or.inl rfl) s' out made).waits m k control).1 moved
    | exitProgram k ret =>
      obtain ⟨s', out, made, moved⟩ := exit_empty port control errno
      exact absurd ((inert.neutral errno (Or.inl rfl) s' out made).exits k ret control) moved
    | _ => simp [control, Control.receives] at receives
  · rintro ⟨accepting, again, again'⟩
    refine ⟨?_, fun e which s' out made => ?_⟩
    · rw [accept_again port accepting again, accept_again port accepting again']
    · have timedOut : e.again = true := by
        rcases which with rfl | rfl
        · exact again
        · exact again'
      rw [accept_again port accepting timedOut] at made
      cases made
      refine ⟨fun _ => rfl, fun m k waiting => ?_, fun k ret exits => ?_⟩
      · cases accepting.symm.trans waiting
      · cases accepting.symm.trans exits

/-- In the main loop, behind a timeout. -/
theorem inert_accepting : Inert { booted with control := .acceptMsg } 4567 .EAGAIN .EWOULDBLOCK :=
  (inert_iff rfl 4567 .EAGAIN .EWOULDBLOCK).mpr ⟨rfl, rfl, rfl⟩

/-- **While a text waits for its CONFIRM** an empty datagram makes the client send it again behind a
timeout, and return to the main loop otherwise. -/
theorem not_inert_waiting : Reachable (machine 4567) sentMsg ∧
    (∃ m s' s'', sentMsg.control = .handleTimeout m 0 ∧
      step sentMsg (.recvfrom (emptyDatagram 5000 .EAGAIN)) = some (s', [.send m.udpBuffer 5000]) ∧
      s'.control = .handleTimeout m 1 ∧
      step sentMsg (.recvfrom (emptyDatagram 5000 (.other 0))) =
        some (s'', [.print (.notice .noData)]) ∧ s''.control = .poll) ∧
    ¬ Inert sentMsg 5000 .EAGAIN (.other 0) := by
  refine ⟨booted_reachable.drive (.reached rfl), ⟨_, _, _, rfl, rfl, rfl, rfl, rfl⟩, fun inert => ?_⟩
  have same := inert.same
  revert same
  decide +kernel

end UDPClient

end Ipk24Chat
