/-
**Stop and wait: at most one user message is unconfirmed.**

While `confirm_msg_sent` is set no line is read. The flag is cleared by the CONFIRM that
`handle_timeout` waits for, and by any CONFIRM of the front of `confirm_id_vector`; when the front
is stale (`Stale`) the second one unblocks stdin although the last message is not confirmed.

* `Covers`: what the flag and the vector say about the ledger, for as long as no stale CONFIRM comes;
* `one_unconfirmed`: stop and wait, for the runs without a stale CONFIRM;
* `two_unconfirmed`: a run with one.
-/

import Ipk24Chat.Udp.Ledger

namespace Ipk24Chat

namespace UDPClient

open Reactive

/-! ### The cover -/

/-- A CONFIRM, received while one is awaited, of an id that stands at the front of the vector but is
not the last one sent. -/
def Stale (c : UDPClient) (d : Str) : Prop :=
  c.confirmMsgSent = true ∧ kind d = .confirm ∧ c.confirmIdVector.head? = some (msgId d) ∧
    c.confirmIdVector.getLast? ≠ some (msgId d)

instance (c : UDPClient) (d : Str) : Decidable (c.Stale d) :=
  inferInstanceAs (Decidable (_ ∧ _ ∧ _ ∧ _))

/-- A transition that receives such a CONFIRM. -/
def StaleConfirm (t : Transition State Event (Effect UInt16)) : Prop :=
  ∃ d ∈ t.input.received, t.before.client.Stale d

instance (t : Transition State Event (Effect UInt16)) : Decidable (StaleConfirm t) :=
  inferInstanceAs (Decidable (∃ d ∈ t.input.received, t.before.client.Stale d))

/-- The flag and the vector cover what is pending. -/
structure Covers (c : UDPClient) (pending : List UInt16) : Prop where
  idle : c.confirmMsgSent = false → pending = []
  busy : c.confirmMsgSent = true →
    ∃ id, c.confirmIdVector.getLast? = some id ∧ (pending = [] ∨ pending = [id])

theorem Covers.length_le {c : UDPClient} {pending : List UInt16} (covers : c.Covers pending) :
    pending.length ≤ 1 := by
  cases flag : c.confirmMsgSent with
  | false => simp [covers.idle flag]
  | true =>
    obtain ⟨id, _, rfl | rfl⟩ := covers.busy flag
    · simp
    · simp

/-- The same flag and vector cover what a datagram leaves. -/
theorem Covers.settle {c c' : UDPClient} {pending : List UInt16} (covers : c.Covers pending)
    (d : Str) (flag : c'.confirmMsgSent = c.confirmMsgSent)
    (vector : c'.confirmIdVector = c.confirmIdVector) :
    c'.Covers (UDPClient.settle pending d) := by
  refine ⟨fun unset => ?_, fun set => ?_⟩
  · rw [covers.idle (flag ▸ unset)]
    exact settle_nil d
  · obtain ⟨id, last, rfl | rfl⟩ := covers.busy (flag ▸ set)
    · exact ⟨id, vector ▸ last, Or.inl (settle_nil d)⟩
    · exact ⟨id, vector ▸ last, settle_single id d⟩

/-- **A datagram keeps the cover**, unless it is a stale CONFIRM. -/
theorem Handled.covers {c : UDPClient} {d : Str} {o : Outcome} {pending : List UInt16}
    (handled : Handled c d o) (covers : c.Covers pending) (fresh : ¬ c.Stale d)
    (returns : o.blocked = none) : o.client.Covers (settle pending d) := by
  cases handled with
  | leaving _ _ leaving => exact absurd returns leaving.blocked_ne
  | confirmed confirm front =>
    refine ⟨fun _ => ?_, fun set => by cases set⟩
    have head := frontId_eq_iff.mp front
    rw [settle_confirm confirm]
    cases flag : c.confirmMsgSent with
    | false => simp [covers.idle flag]
    | true =>
      obtain ⟨id, last, rfl | rfl⟩ := covers.busy flag
      · rfl
      · have same : c.confirmIdVector.getLast? = some (msgId d) := by
          by_contra other
          exact fresh ⟨flag, confirm, head, other⟩
        rw [last] at same
        cases same
        simp
  | skipped => exact covers.settle d rfl rfl
  | unmatched => exact covers.settle d rfl rfl
  | reply => exact covers.settle d rfl rfl
  | msg => exact covers.settle d rfl rfl
  | dropped => exact covers.settle d rfl rfl

/-- In the loop, the last id is that of the message waited for. -/
def Pending (m : UDPMessage) (c : UDPClient) (_ : List UInt16) : Prop :=
  c.confirmMsgSent = true ∧ c.confirmIdVector.getLast? = some m.messageId

/-- A datagram in the loop that is neither awaited nor stale leaves the flag and the last id. -/
theorem Handled.pending {c : UDPClient} {d : Str} {o : Outcome} {m : UDPMessage}
    {pending : List UInt16} (handled : Handled c d o) (fresh : ¬ c.Stale d)
    (other : ¬ c.Awaited m d) (waiting : Pending m c pending) (returns : o.blocked = none) :
    Pending m o.client (settle pending d) := by
  obtain ⟨set, last⟩ := waiting
  cases handled with
  | leaving _ _ leaving => exact absurd returns leaving.blocked_ne
  | confirmed confirm front =>
    refine absurd ⟨set, confirm, frontId_eq_iff.mp front, fun same => ?_⟩ fresh
    rw [last] at same
    exact other ⟨set, confirm, (Option.some.inj same).symm⟩
  | skipped => exact ⟨set, last⟩
  | unmatched => exact ⟨set, last⟩
  | reply => exact ⟨set, last⟩
  | msg => exact ⟨set, last⟩
  | dropped => exact ⟨set, last⟩

/-- The CONFIRM awaited in the loop empties the ledger. -/
theorem Covers.settle_awaited {c : UDPClient} {pending : List UInt16} {m : UDPMessage} {d : Str}
    (covers : c.Covers pending) (waiting : Pending m c pending) (awaited : c.Awaited m d) :
    UDPClient.settle pending d = [] := by
  obtain ⟨set, last⟩ := waiting
  obtain ⟨id, sameLast, rfl | rfl⟩ := covers.busy set
  · exact settle_nil d
  · have same : id = m.messageId := Option.some.inj (sameLast.symm.trans last)
    rw [settle_confirm awaited.2.1, awaited.2.2, same]
    simp

/-- **The cover is an invariant of the account** when no stale CONFIRM comes. -/
theorem covers_rules : Rules Covers Pending fun _ c d => ¬ c.Stale d where
  new _ _ := ⟨fun _ => rfl, fun set => (by cases set)⟩
  single covers := covers.length_le
  quietPort _ fresh := fresh
  port _ covers := ⟨covers.idle, covers.busy⟩
  named _ _ covers := ⟨covers.idle, covers.busy⟩
  sent _ _ _ covers unset _ := by
    rw [covers.idle unset]
    exact ⟨⟨fun set => (by cases set), fun _ => ⟨_, List.getLast?_concat, Or.inr rfl⟩⟩, rfl,
      List.getLast?_concat⟩
  handled covers fresh handled returns := handled.covers covers fresh returns
  awaited covers waiting _ awaited := by
    rw [covers.settle_awaited waiting awaited]
    exact ⟨fun _ => rfl, fun set => (by cases set)⟩
  loop _ waiting fresh other handled returns := handled.pending fresh other waiting returns

/-! ### Stop and wait -/

/-- **Stop and wait**: in every run without a stale CONFIRM at most one user message is unconfirmed,
and one is sent only when none is. -/
theorem one_unconfirmed {port : UInt16} {s : State}
    {history : List (Transition State Event (Effect UInt16))} (run : Run (machine port) history s)
    (contract : ∀ t ∈ history, PollContract t) (fresh : ∀ t ∈ history, ¬ StaleConfirm t) :
    (unconfirmed history).length ≤ 1 ∧
      ∀ earlier t later id, history = earlier ++ t :: later → userSent t = some id →
        unconfirmed earlier = [] := by
  have calm : ∀ t ∈ history, Quiet (fun _ c d => ¬ c.Stale d) t :=
    fun t member d received stale => fresh t member ⟨d, received, stale⟩
  constructor
  · rcases covers_rules.run run contract calm with ⟨_, short⟩ | held
    · exact short
    · exact held.account.length_le
  · rintro earlier t later id rfl sent
    obtain ⟨before, made, _⟩ := run.transition
    have reading := userSent_reading made sent
    have held := covers_rules.run before (fun u member => contract u (List.mem_append_left _ member))
      fun u member => calm u (List.mem_append_left _ member)
    rcases held with ⟨leaving, _⟩ | held
    · rw [reading] at leaving
      cases leaving
    · exact held.account.idle (held.reading reading)

theorem one_unconfirmed_signIn :
    unconfirmed (((machine 4567).trace booted signInByMain).getD []) = [1] ∧
      (unconfirmed (((machine 4567).trace booted signInByMain).getD [])).length ≤ 1 := by
  refine ⟨by decide +kernel, (one_unconfirmed (.reached booted_init rfl) ?_ ?_).1⟩
  · decide +kernel
  · decide +kernel

/-- A duplicate of CONFIRM 0 during the wait for CONFIRM 1, a socket error, and another line. -/
def sendTwice : List Event :=
  signIn ++ typed "hello" ++ [heardFrom 5000 (confirmDatagram 0), .recvfrom (.failed (.other 104))] ++
    typed "again"

/-- **Two messages are sent and not confirmed.** -/
theorem two_unconfirmed :
    Run (machine 4567) (((machine 4567).trace booted sendTwice).getD [])
      ((machine 4567).reached booted sendTwice) ∧
    (∀ t ∈ ((machine 4567).trace booted sendTwice).getD [], PollContract t) ∧
    unconfirmed (((machine 4567).trace booted sendTwice).getD []) = [1, 2] := by
  refine ⟨.reached booted_init rfl, ?_, ?_⟩
  · decide +kernel
  · decide +kernel

end UDPClient

end Ipk24Chat
