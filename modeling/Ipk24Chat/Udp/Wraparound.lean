/-
**The CONFIRM of the BYE in a long session.**

The id of a message is the counter passed to a `uint16_t`. The loop of `exit_program` compares the
RefMessageID of a CONFIRM with the counter itself, so that behind 65535 messages no CONFIRM ends it. A
message that is refused counts as well.

* `ends_iff`: the CONFIRMs that end the loop;
* `bye_confirm_iff`: these are the CONFIRMs of the BYE exactly when the counter fits into 16 bits.
-/

import Ipk24Chat.Stdin.UserInput
import Ipk24Chat.Udp.Farewell
import Ipk24Chat.Udp.Numbering

namespace Ipk24Chat

namespace UDPClient

open Reactive

/-- The datagram ends the loop of `exit_program`. -/
def Ends (s : State) (r : Received) : Prop :=
  ∃ s' out ret, step s (.recvfrom r) = some (s', out) ∧ s'.control = .exited ret

/-- **The CONFIRMs that end the loop**: their RefMessageID is the counter. -/
theorem ends_iff {s : State} {k : Nat} {ret : ExitCode} (exits : s.control = .exitProgram k ret)
    {r : Received} {id : UInt16} (confirms : Confirms r id) :
    Ends s r ↔ id.toNat = s.client.msgCounter := by
  obtain ⟨confirm, rfl⟩ := confirms
  have made := step_exit exits r
  rw [byeStep_datagram s k ret (Confirms.bytesRx_pos ⟨confirm, rfl⟩)] at made
  by_cases same : (msgId r.buffer).toNat = s.client.msgCounter
  · rw [if_pos ⟨confirm, same⟩] at made
    exact iff_of_true ⟨_, _, ret, made, rfl⟩ same
  · rw [if_neg fun both => same both.2] at made
    refine iff_of_false ?_ same
    rintro ⟨s', out, ret', made', closed⟩
    cases made.symm.trans made'
    cases closed

/-! ### The client in the loop -/

/-- A program that is leaving does not change the client. -/
theorem leaving_client {s s' : State} {e : Event} {out : List (Effect UInt16)}
    (made : step s e = some (s', out)) (leaving : s.control.leaving = true) :
    s'.client = s.client := by
  cases step_calls made with
  | gracefulExit _ made =>
    cases made
    exact gracefulExit_client s.client
  | @byeStep k ret r _ _ _ made =>
    obtain ⟨_, _, _, spec⟩ := byeStep_spec s k ret r
    cases made.symm.trans spec
    rfl
  | _ control _ => rw [control] at leaving; cases leaving

theorem leaving_drive_client {port : UInt16} {s s' : State} {events : List Event}
    {outs : List (Effect UInt16)} (driven : Drive (machine port) s events s' outs)
    (leaving : s.control.leaving = true) : s'.client = s.client :=
  (driven.invariant_of (fun _ => True) (fun s₁ => s₁.control.leaving = true ∧ s₁.client = s.client)
    (fun _ _ _ _ held made _ =>
      ⟨leaving_step made held.1, (leaving_client made held.1).trans held.2⟩)
    ⟨leaving, rfl⟩ fun _ _ => trivial).2

/-! ### The CONFIRM of the BYE -/

theorem confirms_confirmDatagram (id port : UInt16) (errno : Errno) :
    Confirms (.datagram (confirmDatagram id) port errno) id :=
  ⟨rfl, readU16_idBytes [UDP_CONFIRM] id []⟩

/-- **The CONFIRM of the BYE ends the loop and no other does**, exactly when the counter fits into 16
bits. -/
theorem bye_confirm_iff {port : UInt16} {s s' : State} {out outs : List (Effect UInt16)}
    {events : List Event} {k : Nat} {ret : ExitCode} (departs : Departs port s out)
    (driven : Drive (machine port) s events s' outs) (still : s'.control = .exitProgram k ret) :
    out.getLast? = some (.send s.client.byeMsg.udpBuffer s.client.aiPort) ∧
      ((∀ r id, Confirms r id → (Ends s' r ↔ id = msgId s.client.byeMsg.udpBuffer)) ↔
        s.client.msgCounter < 65536) := by
  refine ⟨departs.bids.last, ?_⟩
  have client : s'.client = s.client := by
    obtain ⟨_, _, ret', _, _, exits, _⟩ := departs
    exact leaving_drive_client driven (by rw [exits]; rfl)
  rw [(byeMsg_numbered s.client).msgId]
  constructor
  · intro confirmed
    have confirms := confirms_confirmDatagram s.client.nextId 0 (.other 0)
    have ends := (confirmed _ _ confirms).mpr rfl
    rw [ends_iff still confirms, client] at ends
    rw [← ends]
    exact s.client.nextId.toNat_lt
  · intro bound r id confirms
    rw [ends_iff still confirms, client, ← nextId_toNat bound, UInt16.toNat_inj]

/-- BYE 1 behind a sign-in, and a timeout. -/
theorem bye_confirm_early : ∃ s' outs,
    Drive (machine 4567) leftByEof [.recvfrom (.failed .EAGAIN)] s' outs ∧
    ∀ r id, Confirms r id → (Ends s' r ↔ id = msgId leftByEof.client.byeMsg.udpBuffer) := by
  refine ⟨_, _, .reached rfl, ?_⟩
  exact (bye_confirm_iff leftByEof_departs (.reached rfl) rfl).2.mpr (by decide +kernel)

/-! ### A session of refused lines -/

/-- Before a session `n` lines have been refused. -/
def refusing (n : Nat) : State where
  client := { UDPClient.new 4567 3 with msgCounter := n }
  nfds := 2
  revents := ⟨true, false⟩
  control := .poll

theorem refusing_init : (machine 4567).init (refusing 0) := ⟨3, ⟨true, false⟩, rfl⟩

/-- **A refused line counts.** -/
theorem refusing_step (n : Nat) : Drive (machine 4567) (refusing n) (typed "hello") (refusing (n + 1))
    [.print (.notice .authorizeFirst)] := by
  have text : command (bytes "hello") = .text := by decide +kernel
  have type := ((refusing n).client.userMsg_describes (bytes "hello")).type
  have line := userLine_eq (refusing n).client (show bytes "hello" ≠ [] by decide)
  rw [text] at type line
  rw [if_pos (show Command.text.ready = true from rfl), dispatch_eq, type rfl] at line
  have made : (machine 4567).step { refusing n with control := .getline }
      (.getline (some (bytes "hello"))) =
      some (refusing (n + 1), [.print (.notice .authorizeFirst)]) := by
    show some (State.resume _ .poll ((refusing n).client.userLine (bytes "hello"))) = _
    rw [line]
    rfl
  have polled : (machine 4567).step (refusing n) stdinReady =
      some ({ refusing n with control := .getline }, []) := rfl
  exact .more polled (.single made)

theorem refusing_drive (n : Nat) : ∃ outs, Drive (machine 4567) (refusing 0)
    (List.replicate n (typed "hello")).flatten (refusing n) outs := by
  induction n with
  | zero => exact ⟨[], .done⟩
  | succ n ih =>
    obtain ⟨outs, driven⟩ := ih
    refine ⟨outs ++ [.print (.notice .authorizeFirst)], ?_⟩
    rw [List.replicate_succ', List.flatten_append, List.flatten_singleton]
    exact driven.append (refusing_step n)

/-- The end of the input behind 65536 refused lines. -/
def leftLate : State := { refusing 65536 with control := .exitProgram 0 .failure }

theorem leftLate_departs : Departs 4567 leftLate [.send ([UDP_BYE] ++ idBytes 0) 4567] := by
  obtain ⟨outs, driven⟩ := refusing_drive 65536
  refine ⟨{ refusing 65536 with control := .getline }, .getline none, .failure, ?_, rfl, rfl, Or.inl rfl⟩
  have polled : (machine 4567).step (refusing 65536) stdinReady =
      some ({ refusing 65536 with control := .getline }, []) := rfl
  exact ((Reachable.start refusing_init).drive driven).next polled

/-- **BYE 0 behind 65536 refused lines**: CONFIRM 0 does not end the loop. -/
theorem bye_unconfirmed : Departs 4567 leftLate [.send ([UDP_BYE] ++ idBytes 0) 4567] ∧
    msgId leftLate.client.byeMsg.udpBuffer = 0 ∧
    ¬ Ends leftLate (.datagram (confirmDatagram 0) 4567 (.other 0)) ∧
    ¬ ∀ r id, Confirms r id → (Ends leftLate r ↔ id = msgId leftLate.client.byeMsg.udpBuffer) := by
  have id : msgId leftLate.client.byeMsg.udpBuffer = 0 := by decide +kernel
  have confirms := confirms_confirmDatagram 0 4567 (.other 0)
  have goesOn : ¬ Ends leftLate (.datagram (confirmDatagram 0) 4567 (.other 0)) := by
    rw [ends_iff rfl confirms]
    decide
  refine ⟨leftLate_departs, id, goesOn, fun confirmed => ?_⟩
  exact goesOn ((confirmed _ 0 confirms).mpr id.symm)

end UDPClient

end Ipk24Chat
