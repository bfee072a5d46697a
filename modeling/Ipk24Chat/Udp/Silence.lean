/-
**A server that says nothing any more.**

Whatever has happened before, a client that waits for a CONFIRM and hears nothing sends its message again
until the limit is reached, says BYE once, waits as often again, and ends with a failure. So there is no
state in which timeouts alone keep the program waiting.

* `patient_reachable`: no wait is ever behind more retries than the limit;
* `exit_silence`: the loop of `exit_program`, from any number of retries;
* `silence`: `handle_timeout` and the loop of `exit_program` behind it, with everything that is put out.
-/

import Ipk24Chat.Udp.Farewell

namespace Ipk24Chat

namespace UDPClient

open Reactive

/-! ### The retries of a wait -/

/-- The retries made in the loop the program is in. -/
def Control.retries : Control → Nat
  | .handleTimeout _ k | .exitProgram k _ => k
  | _ => 0

/-- There are no more of them than the limit. -/
def Patient (s : State) : Prop := s.control.retries ≤ s.client.maxUdpRetransmission.toNat

/-- A loop that a call has come to is at its beginning. -/
def Outcome.Fresh (o : Outcome) : Prop := ∀ k ∈ o.blocked, k.retries = 0

theorem Outcome.Fresh.resume {o : Outcome} (fresh : o.Fresh) (s : State) (back : Control) :
    (s.resume back o).1.control.retries ≤ back.retries := by
  show (o.blocked.getD back).retries ≤ back.retries
  cases stopped : o.blocked with
  | none => exact Nat.le_refl _
  | some k =>
    rw [Option.getD_some, fresh k stopped]
    exact Nat.zero_le _

theorem exitProgram_fresh (c : UDPClient) (sendBye : Bool) (ret : ExitCode) :
    (c.exitProgram sendBye ret).Fresh := by
  intro k stopped
  cases sendBye <;> cases stopped <;> rfl

theorem gracefulExit_fresh (c : UDPClient) : c.gracefulExit.Fresh := by
  unfold gracefulExit
  split
  · exact exitProgram_fresh c _ _
  · exact exitProgram_fresh c _ _

theorem Closes.fresh {P : UDPClient → Point → Prop} {c : UDPClient} {o : Outcome}
    (closes : Closes P c o) : o.Fresh := by
  intro k stopped
  cases closes with
  | returns returned =>
    rw [returned] at stopped
    cases stopped
  | leaves sendBye ret => exact exitProgram_fresh _ sendBye ret k stopped
  | waits =>
    cases stopped
    rfl

theorem userLine_fresh (c : UDPClient) (line : Str) : (c.userLine line).Fresh := by
  have lined := userLine_lined c line
  generalize c.userLine line = o at lined
  intro k stopped
  cases lined <;> cases stopped
  rfl

/-- **One step** makes one retry more, below the limit, or none. -/
theorem step_retries {s s' : State} {e : Event} {out : List (Effect UInt16)}
    (made : step s e = some (s', out)) (patient : Patient s) :
    s'.control.retries ≤ s.client.maxUdpRetransmission.toNat := by
  have resumes {o : Outcome} (fresh : o.Fresh) {back : Control}
      (behind : back.retries ≤ s.client.maxUdpRetransmission.toNat) :
      (s.resume back o).1.control.retries ≤ s.client.maxUdpRetransmission.toNat :=
    (fresh.resume s back).trans behind
  have zero {k : Control} (fresh : k.retries = 0) : k.retries ≤ s.client.maxUdpRetransmission.toNat := by
    rw [fresh]
    exact Nat.zero_le _
  cases step_calls made with
  | gracefulExit _ answer =>
    obtain ⟨rfl, rfl⟩ := Prod.ext_iff.mp answer.symm
    exact resumes (gracefulExit_fresh s.client) (zero rfl)
  | @pollStep result _ _ _ answer =>
    obtain ⟨rfl, rfl⟩ := Prod.ext_iff.mp answer.symm
    cases result with
    | failed => exact resumes (exitProgram_fresh s.client false .failure) (zero rfl)
    | ready socket stdin =>
      unfold pollStep
      simp only
      split
      · exact zero rfl
      · split
        · exact zero rfl
        · exact zero rfl
  | @getlineStep line _ _ _ answer =>
    obtain ⟨rfl, rfl⟩ := Prod.ext_iff.mp answer.symm
    cases line with
    | none => exact resumes (exitProgram_fresh s.client true .failure) (zero rfl)
    | some text => exact resumes (userLine_fresh s.client text) (zero rfl)
  | @acceptStep r _ _ _ answer =>
    obtain ⟨rfl, rfl⟩ := Prod.ext_iff.mp answer.symm
    unfold acceptStep
    split
    · split
      · exact zero rfl
      · exact resumes (exitProgram_fresh s.client false .failure) (zero rfl)
    · exact resumes (receiveInMain_closes _ _).fresh (zero rfl)
  | @timeoutStep m k r _ _ waiting answer =>
    obtain ⟨rfl, rfl⟩ := Prod.ext_iff.mp answer.symm
    have below : k ≤ s.client.maxUdpRetransmission.toNat := by
      unfold Patient at patient
      rw [waiting] at patient
      exact patient
    unfold timeoutStep
    simp only
    split
    · split
      · split
        · exact resumes (exitProgram_fresh s.client true .failure) (zero rfl)
        · rename_i other
          exact Nat.lt_of_le_of_ne below other
      · exact zero rfl
    · split
      · exact resumes (receiveInTimeout_closes _ _ _).fresh (zero rfl)
      · exact resumes (receiveInTimeout_closes _ _ _).fresh below
  | @byeStep k ret r _ _ exits answer =>
    obtain ⟨rfl, rfl⟩ := Prod.ext_iff.mp answer.symm
    have below : k ≤ s.client.maxUdpRetransmission.toNat := by
      unfold Patient at patient
      rw [exits] at patient
      exact patient
    unfold byeStep
    simp only
    split
    · split
      · split
        · exact zero rfl
        · rename_i other
          exact Nat.lt_of_le_of_ne below other
      · exact zero rfl
    · split
      · exact zero rfl
      · exact below

/-- **No wait is behind more retries than the limit.** -/
theorem patient_reachable {port : UInt16} {s : State} (reachable : Reachable (machine port) s) :
    Patient s := by
  refine reachable.invariant Patient ?_ ?_
  · rintro s ⟨limit, revents, rfl⟩
    exact Nat.zero_le _
  · intro s e s' out patient made
    unfold Patient
    rw [step_limit made]
    exact step_retries made patient

/-! ### Timeouts -/

/-- These answers are timeouts. -/
def Silent (rs : List Received) : Prop := ∀ r ∈ rs, Timeout r

/-- **The loop of `exit_program`** ends behind the retries that are left. -/
theorem exit_silence (port : UInt16) {rs : List Received} : ∀ {s : State} {k : Nat} {ret : ExitCode},
    s.control = .exitProgram k ret → k ≤ s.client.maxUdpRetransmission.toNat → Silent rs →
    rs.length = s.client.maxUdpRetransmission.toNat - k + 1 →
    Drive (machine port) s (rs.map .recvfrom) { s with control := .exited ret }
      [.print (.notice .maxTimeouts)] := by
  induction rs with
  | nil =>
    intro s k ret _ _ _ count
    cases count
  | cons r rest ih =>
    intro s k ret exits below silent count
    have timeout := silent r List.mem_cons_self
    have later : Silent rest := fun r member => silent r (List.mem_cons_of_mem _ member)
    rw [List.length_cons] at count
    by_cases last : k = s.client.maxUdpRetransmission.toNat
    · obtain rfl : rest = [] := List.eq_nil_of_length_eq_zero (by omega)
      refine .single ?_
      show step s (.recvfrom r) = _
      rw [step_exit exits, byeStep_giveUp timeout last]
      rfl
    · have made : (machine port).step s (.recvfrom r) =
          some ({ s with control := .exitProgram (k + 1) ret }, []) := by
        show step s (.recvfrom r) = _
        rw [step_exit exits, byeStep_retry timeout last]
      exact .more made (ih (s := { s with control := .exitProgram (k + 1) ret }) rfl
        (Nat.lt_of_le_of_ne below last) later
        (show rest.length = s.client.maxUdpRetransmission.toNat - (k + 1) + 1 by omega))

/-- **`handle_timeout`** makes the retries that are left and says BYE. -/
theorem confirm_silence (port : UInt16) {rs : List Received} : ∀ {s : State} {m : UDPMessage} {k : Nat},
    s.control = .handleTimeout m k → k ≤ s.client.maxUdpRetransmission.toNat → Silent rs →
    rs.length = s.client.maxUdpRetransmission.toNat - k + 1 →
    Drive (machine port) s (rs.map .recvfrom) { s with control := .exitProgram 0 .failure }
      (List.replicate (s.client.maxUdpRetransmission.toNat - k) (.send m.udpBuffer s.client.aiPort) ++
        [.print (.notice .maxTimeouts), .send s.client.byeMsg.udpBuffer s.client.aiPort]) := by
  induction rs with
  | nil =>
    intro s m k _ _ _ count
    cases count
  | cons r rest ih =>
    intro s m k waiting below silent count
    have timeout := silent r List.mem_cons_self
    have later : Silent rest := fun r member => silent r (List.mem_cons_of_mem _ member)
    rw [List.length_cons] at count
    by_cases last : k = s.client.maxUdpRetransmission.toNat
    · obtain rfl : rest = [] := List.eq_nil_of_length_eq_zero (by omega)
      rw [← last, Nat.sub_self]
      exact .single (step_giveUp waiting last timeout)
    · have made : (machine port).step s (.recvfrom r) =
          some ({ s with control := .handleTimeout m (k + 1) }, s.client.sendMsg m) :=
        step_resend waiting last timeout
      have rest := ih (s := { s with control := .handleTimeout m (k + 1) }) rfl
        (Nat.lt_of_le_of_ne below last) later
        (show rest.length = s.client.maxUdpRetransmission.toNat - (k + 1) + 1 by omega)
      have left : s.client.maxUdpRetransmission.toNat - k =
          s.client.maxUdpRetransmission.toNat - (k + 1) + 1 := by omega
      rw [left, List.replicate_succ, List.cons_append]
      exact .more made rest

/-- **Silence ends the program**: from every reachable state in which the CONFIRM of `m` is waited for, behind
`k` retries, timeouts alone lead to the end of the program, with a failure. Their number is exact, and what
is put out meanwhile is the copies that are left, and one BYE. -/
theorem silence {port : UInt16} {s : State} {m : UDPMessage} {k : Nat}
    (reachable : Reachable (machine port) s) (waiting : s.control = .handleTimeout m k)
    {rs : List Received} (silent : Silent rs)
    (count : rs.length = s.client.maxUdpRetransmission.toNat - k + 1 +
      (s.client.maxUdpRetransmission.toNat + 1)) :
    Drive (machine port) s (rs.map .recvfrom) { s with control := .exited .failure }
      (List.replicate (s.client.maxUdpRetransmission.toNat - k) (.send m.udpBuffer s.client.aiPort) ++
        [.print (.notice .maxTimeouts), .send s.client.byeMsg.udpBuffer s.client.aiPort] ++
        [.print (.notice .maxTimeouts)]) := by
  have below : k ≤ s.client.maxUdpRetransmission.toNat := by
    have patient := patient_reachable reachable
    unfold Patient at patient
    rw [waiting] at patient
    exact patient
  obtain ⟨first, second, rfl, size⟩ : ∃ first second, rs = first ++ second ∧
      first.length = s.client.maxUdpRetransmission.toNat - k + 1 :=
    ⟨rs.take (s.client.maxUdpRetransmission.toNat - k + 1),
      rs.drop (s.client.maxUdpRetransmission.toNat - k + 1), (List.take_append_drop _ rs).symm,
      by rw [List.length_take, count]; omega⟩
  have confirm := confirm_silence port waiting below
    (fun r member => silent r (List.mem_append_left _ member)) size
  have exit := exit_silence port (s := { s with control := .exitProgram 0 .failure }) rfl (Nat.zero_le _)
    (fun r member => silent r (List.mem_append_right _ member))
    (show second.length = s.client.maxUdpRetransmission.toNat - 0 + 1 by
      rw [List.length_append] at count
      omega)
  rw [List.map_append]
  exact confirm.append exit

/-- A message that has been sent, with three retransmissions, to a server that does not answer. -/
theorem silence_sentMsg : ∃ m outs, sentMsg.control = .handleTimeout m 0 ∧
    Drive (machine 4567) sentMsg ((List.replicate 8 (Received.failed .EAGAIN)).map .recvfrom)
      { sentMsg with control := .exited .failure } outs ∧
    copies m.udpBuffer outs = 3 := by
  have reachable : Reachable (machine 4567) sentMsg := ⟨_, .reached booted_init rfl⟩
  have silent : Silent (List.replicate 8 (Received.failed .EAGAIN)) := by
    intro r member
    rw [List.eq_of_mem_replicate member]
    exact ⟨by decide, by decide⟩
  exact ⟨_, _, rfl, silence reachable rfl silent rfl, by decide +kernel⟩

end UDPClient

end Ipk24Chat
