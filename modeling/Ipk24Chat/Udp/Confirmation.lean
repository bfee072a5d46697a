/-
**The CONFIRM of a user message: when the wait of `handle_timeout` ends.**

`handle_timeout` breaks on the CONFIRM of its message only while `confirm_msg_sent` is set, and
leaves the id in `confirm_id_vector`. A later CONFIRM of the id at the front, such as a duplicate
for an earlier message, makes `fsm_logic_handler` clear the flag without ending the loop; the CONFIRM
of the message then goes unnoticed.

* `wait_step`: what one receive outcome does to the flag and the vector while the wait goes on;
* `wait_run`: the same for a sequence of outcomes;
* `carries_reachable`: what holds of every message of the user holds of the one waited with;
* `confirm_settles_iff`: the next CONFIRM ends the wait exactly when no CONFIRM of the id that stood
  at the front on entry has come before it.
-/

import Ipk24Chat.Udp.Stepping

namespace Ipk24Chat

namespace UDPClient

open Reactive

/-! ### Receive outcomes -/

/-- A receive call has timed out. -/
def Timeout (r : Received) : Prop := r.bytesRx ≤ 0 ∧ r.errno.again = true

instance (r : Received) : Decidable (Timeout r) := inferInstanceAs (Decidable (_ ∧ _))

/-- A received CONFIRM with this RefMessageID. -/
def Confirms (r : Received) (id : UInt16) : Prop := kind r.buffer = .confirm ∧ msgId r.buffer = id

instance (r : Received) (id : UInt16) : Decidable (Confirms r id) :=
  inferInstanceAs (Decidable (_ ∧ _))

theorem kind_of_bytesRx {r : Received} (empty : r.bytesRx ≤ 0) : kind r.buffer = .invalid := by
  have short : r.buffer.length < 3 := by
    cases r with
    | datagram content port errno =>
      have : ((content.take BUFFER_SIZE).length : Int) ≤ 0 := empty
      show (content.take BUFFER_SIZE).length < 3
      omega
    | failed errno => exact Nat.zero_lt_succ 2
  exact if_pos short

theorem Confirms.bytesRx_pos {r : Received} {id : UInt16} (confirms : Confirms r id) :
    0 < r.bytesRx := by
  by_contra empty
  have invalid := kind_of_bytesRx (r := r) (by omega)
  rw [confirms.1] at invalid
  cases invalid

theorem not_seen_of_confirm {c : UDPClient} {d : Str} (confirm : kind d = .confirm) :
    ¬ c.Seen d := fun seen => by simpa [confirm, Kind.numbered] using seen.1

theorem frontId_eq_iff {ids : List UInt16} {id : UInt16} :
    frontId ids = id.toNat ↔ ids.head? = some id := by
  cases ids with
  | nil => simp [frontId]
  | cons head rest =>
    simp only [frontId, List.head?_cons, Option.some.injEq, Int.ofNat_inj]
    exact UInt16.toNat_inj

/-! ### The wait -/

/-- **A line that enters `handle_timeout`** sends the message built from it. -/
theorem sent_of_enters {s s' : State} {line : Option Str} {m : UDPMessage}
    {out : List (Effect UInt16)} (made : step s (.getline line) = some (s', out))
    (control : s'.control = .handleTimeout m 0) :
    ∃ text dname request next lines, line = some text ∧ m = (s.client.userMsg text).1 ∧
      s.client.Sendable m request next ∧
      (s', out) = s.resume .poll (Outcome.after (printed lines)
        ((s.client.named dname (s.client.msgCounter + 1)).sendUserMsg m request next)) := by
  cases step_moves made with
  | leave _ leaving => exact absurd control (Control.ne_of_leaving (leaving.resume s .poll) rfl)
  | line text reading lined =>
    cases lined with
    | kept dname counter lines => cases control
    | sent dname request next lines sendable =>
      cases control
      exact ⟨text, dname, request, next, lines, rfl, rfl, sendable, rfl⟩

/-- `handle_timeout` has been entered for a user message. -/
def Entered (port : UInt16) (s : State) (m : UDPMessage) : Prop :=
  ∃ before line out, Reachable (machine port) before ∧
    step before (.getline line) = some (s, out) ∧ s.control = .handleTimeout m 0

theorem Entered.control {port : UInt16} {s : State} {m : UDPMessage} (entered : Entered port s m) :
    s.control = .handleTimeout m 0 := by
  obtain ⟨_, _, _, _, _, control⟩ := entered
  exact control

/-- On entry the flag is set, the vector is not empty and the client has left its first state. -/
theorem Entered.flag {port : UInt16} {s : State} {m : UDPMessage} (entered : Entered port s m) :
    s.client.confirmMsgSent = true ∧ s.client.clientState ≠ .startState := by
  obtain ⟨before, line, out, _, made, control⟩ := entered
  obtain ⟨text, dname, request, next, lines, _, _, sendable, same⟩ := sent_of_enters made control
  obtain ⟨rfl, _⟩ := Prod.mk.inj same
  refine ⟨rfl, ?_⟩
  show next ≠ .startState
  rcases sendable with ⟨_, _, _, rfl⟩ | ⟨_, _, _, rfl⟩ <;> decide

/-- A timeout below the limit. -/
theorem step_resend {s : State} {m : UDPMessage} {k : Nat} (waiting : s.control = .handleTimeout m k)
    (below : k ≠ s.client.maxUdpRetransmission.toNat) {r : Received} (timeout : Timeout r) :
    step s (.recvfrom r) =
      some ({ s with control := .handleTimeout m (k + 1) }, s.client.sendMsg m) := by
  simp only [step_waiting waiting, timeoutStep, if_pos timeout.1, if_pos timeout.2, if_neg below]

/-- A timeout at the limit. -/
theorem step_giveUp {s : State} {m : UDPMessage} {k : Nat} (waiting : s.control = .handleTimeout m k)
    (limit : k = s.client.maxUdpRetransmission.toNat) {r : Received} (timeout : Timeout r) :
    step s (.recvfrom r) = some ({ s with control := .exitProgram 0 .failure },
      [.print (.notice .maxTimeouts), .send s.client.byeMsg.udpBuffer s.client.aiPort]) := by
  simp only [step_waiting waiting, timeoutStep, if_pos timeout.1, if_pos timeout.2, if_pos limit]
  rfl

/-- A program that leaves goes on leaving. -/
theorem leaving_step {s s' : State} {e : Event} {out : List (Effect UInt16)}
    (made : step s e = some (s', out)) (leaving : s.control.leaving = true) :
    s'.control.leaving = true := by
  cases step_moves made with
  | leave _ left => exact left.resume s .poll
  | bye _ _ _ _ _ _ leaves => exact leaves
  | poll _ _ control => simp [control, Control.leaving] at leaving
  | idle _ control => simp [control, Control.leaving] at leaving
  | accept _ control => simp [control, Control.leaving] at leaving
  | line _ control => simp [control, Control.leaving] at leaving
  | resend _ _ _ control => simp [control, Control.leaving] at leaving
  | giveUp _ _ _ control => simp [control, Control.leaving] at leaving
  | awaited _ _ _ control => simp [control, Control.leaving] at leaving
  | receive _ _ _ control => simp [control, Control.leaving] at leaving

/-- A received CONFIRM of the id at the front of the vector. -/
def ConfirmsFront (c : UDPClient) (r : Received) : Prop :=
  ∃ id, c.confirmIdVector.head? = some id ∧ Confirms r id

/-- **One receive outcome while the wait goes on**: a CONFIRM of the front clears the flag, anything
else leaves the flag and the vector alone. -/
theorem wait_step {s s' : State} {m : UDPMessage} {k k' : Nat} {r : Received}
    {out : List (Effect UInt16)} (made : step s (.recvfrom r) = some (s', out))
    (waiting : s.control = .handleTimeout m k) (still : s'.control = .handleTimeout m k')
    (begun : s.client.clientState ≠ .startState) :
    s'.client.clientState ≠ .startState ∧
      ((s.client.ConfirmsFront r ∧ s'.client.confirmMsgSent = false) ∨
        (¬ s.client.ConfirmsFront r ∧ s'.client.confirmMsgSent = s.client.confirmMsgSent ∧
          s'.client.confirmIdVector = s.client.confirmIdVector)) := by
  have other : kind r.buffer ≠ .confirm → ¬ s.client.ConfirmsFront r :=
    fun notConfirm front => by
      obtain ⟨_, _, confirm, _⟩ := front
      exact notConfirm confirm
  cases step_moves made with
  | leave _ leaving => exact absurd still (Control.ne_of_leaving (leaving.resume s .poll) rfl)
  | idle _ control => simp [waiting] at control
  | accept _ control => simp [waiting] at control
  | bye _ _ _ _ _ control => simp [waiting] at control
  | giveUp => cases still
  | awaited => cases still
  | resend _ _ _ _ empty =>
    refine ⟨begun, Or.inr ⟨other ?_, rfl, rfl⟩⟩
    rw [kind_of_bytesRx empty]
    decide
  | receive again k₀ _ _ _ _ handled =>
    cases handled with
    | skipped seen =>
      exact ⟨begun, Or.inr ⟨other fun confirm => not_seen_of_confirm confirm seen, rfl, rfl⟩⟩
    | confirmed confirm front =>
      exact ⟨begun, Or.inl ⟨⟨_, frontId_eq_iff.mp front, confirm, rfl⟩, rfl⟩⟩
    | unmatched confirm front =>
      refine ⟨begun, Or.inr ⟨?_, rfl, rfl⟩⟩
      rintro ⟨id, head, _, rfl⟩
      exact front (frontId_eq_iff.mpr head)
    | reply reply =>
      exact ⟨replied_begun r.buffer begun, Or.inr ⟨other (by simp [reply]), rfl, rfl⟩⟩
    | msg msg => exact ⟨begun, Or.inr ⟨other (by simp [msg]), rfl, rfl⟩⟩
    | dropped _ _ notConfirm => exact ⟨begun, Or.inr ⟨other notConfirm, rfl, rfl⟩⟩
    | leaving _ _ leaving =>
      exact absurd still (Control.ne_of_leaving (leaving.resume s (.handleTimeout again k₀)) rfl)

/-! ### A sequence of outcomes -/

/-- The program is in the loop of `handle_timeout`. -/
def Control.waits : Control → Bool
  | .handleTimeout _ _ => true
  | _ => false

theorem Control.not_waits_of_leaving {k : Control} (leaves : k.leaving = true) :
    k.waits = false := by
  cases k with
  | handleTimeout m k => cases leaves
  | _ => rfl

/-- An outcome of the loop ends it or leaves its message in place. -/
theorem wait_step_control {s s' : State} {m : UDPMessage} {k : Nat} {r : Received}
    {out : List (Effect UInt16)} (made : step s (.recvfrom r) = some (s', out))
    (waiting : s.control = .handleTimeout m k) :
    (∃ k', s'.control = .handleTimeout m k') ∨ s'.control.waits = false := by
  cases step_moves made with
  | leave _ leaving => exact Or.inr (Control.not_waits_of_leaving (leaving.resume s .poll))
  | idle => exact Or.inr rfl
  | accept _ control => simp [waiting] at control
  | bye _ _ _ _ _ control => simp [waiting] at control
  | giveUp => exact Or.inr rfl
  | awaited => exact Or.inr rfl
  | resend again k' _ control _ =>
    rw [waiting] at control
    cases control
    exact Or.inl ⟨k + 1, rfl⟩
  | receive again k' _ control _ _ handled =>
    rw [waiting] at control
    cases control
    cases handled with
    | leaving _ _ leaving =>
      exact Or.inr (Control.not_waits_of_leaving (leaving.resume s (.handleTimeout m k)))
    | _ => exact Or.inl ⟨k, rfl⟩

/-- Only a line of the user enters the loop. -/
theorem not_waits_step {s s' : State} {e : Event} {out : List (Effect UInt16)}
    (made : step s e = some (s', out)) (outside : s.control.waits = false)
    (noLine : ∀ line, e ≠ .getline (some line)) : s'.control.waits = false := by
  cases step_moves made with
  | leave _ leaving => exact Control.not_waits_of_leaving (leaving.resume s .poll)
  | poll socket stdin _ =>
    unfold pollStep
    simp only
    split
    · rfl
    · split <;> rfl
  | idle => rfl
  | accept r _ _ handled =>
    cases handled with
    | leaving _ _ leaving => exact Control.not_waits_of_leaving (leaving.resume s .poll)
    | _ => rfl
  | line text _ _ => exact absurd rfl (noLine text)
  | resend m k r control _ => simp [control, Control.waits] at outside
  | giveUp => rfl
  | awaited => rfl
  | receive m k r control _ _ _ => simp [control, Control.waits] at outside
  | bye _ _ _ _ _ _ leaves => exact Control.not_waits_of_leaving leaves

theorem not_waits_drive {port : UInt16} {s s' : State} {events : List Event}
    {outs : List (Effect UInt16)} (driven : Drive (machine port) s events s' outs)
    (outside : s.control.waits = false) (noLine : ∀ line, .getline (some line) ∉ events) :
    s'.control.waits = false := by
  refine driven.invariant_of (fun e => ∀ line, e ≠ .getline (some line)) (fun s => s.control.waits = false)
    (fun s e s' out outside made noLine => not_waits_step made outside noLine) outside ?_
  rintro e member line rfl
  exact noLine line member

/-- **A sequence of outcomes during which the wait goes on**: the flag is still set exactly when no
CONFIRM of the front on entry was among them. -/
theorem wait_run {port : UInt16} {s s' : State} {m : UDPMessage} {k k' : Nat}
    {outcomes : List Received} {outs : List (Effect UInt16)}
    (driven : Drive (machine port) s (outcomes.map .recvfrom) s' outs)
    (waiting : s.control = .handleTimeout m k) (still : s'.control = .handleTimeout m k')
    (begun : s.client.clientState ≠ .startState) :
    s'.client.clientState ≠ .startState ∧ (s'.client.confirmMsgSent = true ↔
      s.client.confirmMsgSent = true ∧ ∀ r ∈ outcomes, ¬ s.client.ConfirmsFront r) := by
  induction outcomes generalizing s k outs with
  | nil =>
    cases driven with
    | done => simpa using begun
  | cons r outcomes ih =>
    cases driven with
    | more made rest =>
      rename_i s₁ out₁ outs₁
      have inside : ∃ k₁, s₁.control = .handleTimeout m k₁ := by
        rcases wait_step_control made waiting with inside | outside
        · exact inside
        · have left := not_waits_drive rest outside (by simp)
          rw [still] at left
          cases left
      obtain ⟨k₁, inside⟩ := inside
      obtain ⟨begun₁, effect⟩ := wait_step made waiting inside begun
      obtain ⟨begun', flag⟩ := ih rest inside begun₁
      refine ⟨begun', flag.trans ?_⟩
      rcases effect with ⟨front, cleared⟩ | ⟨other, flag₁, vector₁⟩
      · constructor
        · rintro ⟨set, _⟩
          rw [cleared] at set
          cases set
        · rintro ⟨_, none⟩
          exact absurd front (none r List.mem_cons_self)
      · have same : ∀ later, s₁.client.ConfirmsFront later ↔ s.client.ConfirmsFront later := by
          intro later
          unfold ConfirmsFront
          rw [vector₁]
        simp only [flag₁, same, List.mem_cons, forall_eq_or_imp, other, not_false_eq_true,
          true_and]

/-! ### The message that is waited with -/

/-- What `handle_timeout` sends again meets `P`. -/
def Carries (P : UDPMessage → Prop) (s : State) : Prop := ∀ m k, s.control = .handleTimeout m k → P m

theorem Carries.of_control {P : UDPMessage → Prop} {s : State} (control : s.control.waits = false) :
    Carries P s := by
  intro m k waiting
  rw [waiting] at control
  cases control

theorem Handled.carries {P : UDPMessage → Prop} {c : UDPClient} {d : Str} {o : Outcome}
    (handled : Handled c d o) {s : State} {back : Control}
    (held : Carries P { s with control := back }) : Carries P (s.resume back o).1 := by
  rcases handled.leaving_or_returns with leaving | returns
  · exact .of_control (Control.not_waits_of_leaving (leaving.resume s back))
  · intro m k waiting
    rw [s.resume_of_returns returns] at waiting
    exact held m k waiting

/-- **Only a line of the user changes the message.** -/
theorem Carries.step {P : UDPMessage → Prop} {s s' : State} {e : Event} {out : List (Effect UInt16)}
    (held : Carries P s) (built : ∀ line, P (s.client.userMsg line).1)
    (made : UDPClient.step s e = some (s', out)) : Carries P s' := by
  cases step_moves made with
  | leave _ leaving => exact .of_control (Control.not_waits_of_leaving (leaving.resume s .poll))
  | bye _ _ _ _ _ _ leaves => exact .of_control (Control.not_waits_of_leaving leaves)
  | poll socket stdin polling =>
    refine .of_control (not_waits_step made ?_ ?_)
    · rw [polling]
      rfl
    · intro line same
      cases same
  | idle => exact .of_control rfl
  | giveUp => exact .of_control rfl
  | awaited => exact .of_control rfl
  | resend m k r waiting _ =>
    intro m' k' again
    cases again
    exact held m k waiting
  | accept r _ _ handled => exact handled.carries (.of_control rfl)
  | receive m k r waiting _ _ handled =>
    refine handled.carries ?_
    intro m' k' again
    cases again
    exact held m k waiting
  | line text _ lined =>
    cases lined with
    | kept => exact .of_control rfl
    | sent =>
      intro m k waiting
      cases waiting
      exact built text

theorem carries_reachable {port : UInt16} {P : UDPMessage → Prop}
    (built : ∀ s, Reachable (machine port) s → ∀ line, P (s.client.userMsg line).1) {s : State}
    (reachable : Reachable (machine port) s) : Carries P s := by
  obtain ⟨history, run⟩ := reachable
  induction run with
  | start initial =>
    obtain ⟨limit, revents, rfl⟩ := initial
    exact .of_control rfl
  | next shorter made ih => exact ih.step (built _ shorter.reachable) made

/-! ### The end of the wait -/

/-- `handle_timeout` returns: nothing is sent or printed, the flag is cleared, and whatever comes
before the next line of the user does not enter the loop again. -/
def Settles (port : UInt16) (s : State) (r : Received) : Prop :=
  ∃ s', step s (.recvfrom r) = some (s', []) ∧ s'.control = .poll ∧
    s'.client.confirmMsgSent = false ∧
    ∀ events s'' outs, Drive (machine port) s' events s'' outs →
      (∀ line, .getline (some line) ∉ events) → s''.control.waits = false

/-- In the loop, the CONFIRM of the message goes by when the flag is not set. -/
theorem not_settles_of_unset {port : UInt16} {s : State} {m : UDPMessage} {k : Nat} {r : Received}
    (waiting : s.control = .handleTimeout m k) (begun : s.client.clientState ≠ .startState)
    (confirms : Confirms r m.messageId) (unset : s.client.confirmMsgSent = false) :
    ¬ Settles port s r := by
  rintro ⟨s', silent, stopped, _⟩
  have nonempty := confirms.bytesRx_pos
  obtain ⟨out, made⟩ : ∃ out, step s (.recvfrom r) = some (s', out) := ⟨_, silent⟩
  cases step_moves made with
  | leave empty _ =>
    have := empty r rfl
    omega
  | idle _ control => simp [waiting] at control
  | accept _ control => simp [waiting] at control
  | bye _ _ _ _ _ control => simp [waiting] at control
  | resend _ _ _ _ empty => omega
  | giveUp _ _ _ _ empty => omega
  | awaited _ _ _ _ _ awaited => simp [Awaited, unset] at awaited
  | receive again k₀ _ _ _ _ handled =>
    cases handled with
    | leaving _ early _ => exact early (Or.inl ⟨begun, Or.inl confirms.1⟩)
    | skipped => cases stopped
    | confirmed => cases stopped
    | unmatched => cases stopped
    | reply => cases stopped
    | msg => cases stopped
    | dropped => cases stopped

/-- The step that consumes the awaited CONFIRM. -/
theorem awaited_step {s : State} {m : UDPMessage} {k : Nat} {r : Received}
    (waiting : s.control = .handleTimeout m k) (awaited : s.client.Awaited m r.buffer) :
    step s (.recvfrom r) =
      some ({ s with client := { s.client with confirmMsgSent := false }, control := .poll }, []) := by
  have nonempty : ¬ r.bytesRx ≤ 0 := by
    have := Confirms.bytesRx_pos ⟨awaited.2.1, awaited.2.2⟩
    omega
  rw [step_waiting waiting, timeoutStep]
  simp only [if_neg nonempty, receiveInTimeout_eq, if_pos awaited, if_true]
  rfl

/-- In the loop, the CONFIRM of the message ends the wait when the flag is set. -/
theorem settles_of_set {port : UInt16} {s : State} {m : UDPMessage} {k : Nat} {r : Received}
    (waiting : s.control = .handleTimeout m k) (confirms : Confirms r m.messageId)
    (set : s.client.confirmMsgSent = true) : Settles port s r :=
  ⟨_, awaited_step waiting ⟨set, confirms⟩, rfl, rfl,
    fun _ _ _ driven noLine => not_waits_drive driven rfl noLine⟩

/-- **The CONFIRM of a user message ends its wait** exactly when no CONFIRM of the id that stood at
the front of the vector when the loop was entered has come before it. -/
theorem confirm_settles_iff {port : UInt16} {s s' : State} {m : UDPMessage} {k : Nat}
    {outcomes : List Received} {outs : List (Effect UInt16)} {r : Received}
    (entered : Entered port s m)
    (driven : Drive (machine port) s (outcomes.map .recvfrom) s' outs)
    (still : s'.control = .handleTimeout m k) (confirms : Confirms r m.messageId) :
    Settles port s' r ↔ ∀ earlier ∈ outcomes, ¬ s.client.ConfirmsFront earlier := by
  obtain ⟨set, begun⟩ := entered.flag
  have waiting := entered.control
  obtain ⟨begun', flag⟩ := wait_run driven waiting still begun
  constructor
  · intro settles
    by_contra earlier
    have unset : s'.client.confirmMsgSent = false := by
      by_contra still
      exact earlier (flag.mp (by simpa using still)).2
    exact not_settles_of_unset still begun' confirms unset settles
  · intro none
    exact settles_of_set still confirms (flag.mpr ⟨set, none⟩)

/-- The CONFIRM of the AUTH has been at the front since the sign-in; MSG 1 has just been sent. -/
def sentMsg : State := (machine 4567).reached booted (signIn ++ typed "hello")

theorem sentMsg_entered (m : UDPMessage) (waiting : sentMsg.control = .handleTimeout m 0) :
    Entered 4567 sentMsg m := by
  refine ⟨(machine 4567).reached booted (signIn ++ [stdinReady]), bytes "hello", _, ?_, rfl, waiting⟩
  exact booted_reachable.drive (.reached rfl)

/-- Without such a CONFIRM: a timeout and the CONFIRM of another message come before. -/
theorem confirm_settles : ∃ s' outs,
    Drive (machine 4567) sentMsg
      ([.failed .EAGAIN, .datagram (confirmDatagram 7) 5000 (.other 0)].map .recvfrom) s' outs ∧
    Settles 4567 s' (.datagram (confirmDatagram 1) 5000 (.other 0)) := by
  refine ⟨_, _, .reached rfl, ?_⟩
  refine (confirm_settles_iff (sentMsg_entered _ rfl) (.reached rfl) rfl ⟨by decide, by decide⟩).mpr ?_
  simp only [List.mem_cons, List.not_mem_nil, or_false, forall_eq_or_imp, forall_eq]
  refine ⟨?_, ?_⟩
  · rintro ⟨id, _, confirm, _⟩
    exact absurd confirm (by decide)
  · rintro ⟨id, head, _, same⟩
    cases head
    exact absurd same (by decide)

/-- **A duplicate of CONFIRM 0 makes CONFIRM 1 go unnoticed**, and the client exits after its
retransmissions. -/
theorem confirm_goes_unnoticed : ∃ m s' outs,
    Entered 4567 sentMsg m ∧
    Drive (machine 4567) sentMsg
      ([.datagram (confirmDatagram 0) 5000 (.other 0)].map .recvfrom) s' outs ∧
    s'.control = .handleTimeout m 0 ∧
    Confirms (.datagram (confirmDatagram 1) 5000 (.other 0)) m.messageId ∧
    ¬ Settles 4567 s' (.datagram (confirmDatagram 1) 5000 (.other 0)) ∧
    ∃ gone more, Drive (machine 4567) s'
      (heardFrom 5000 (confirmDatagram 1) :: List.replicate 4 (.recvfrom (.failed .EAGAIN)))
      gone more ∧
      gone.control = .exitProgram 0 .failure ∧ Effect.print (.notice .maxTimeouts) ∈ more := by
  refine ⟨_, _, _, sentMsg_entered _ rfl, .reached rfl, rfl, ⟨by decide, by decide⟩, ?_,
    _, _, .reached rfl, rfl, by decide +kernel⟩
  exact not_settles_of_unset rfl (by decide) ⟨by decide, by decide⟩ (by decide)

end UDPClient

end Ipk24Chat
