/-
**The ledger of user messages: what has been sent and not yet confirmed.**

`unconfirmed` is an observer of the run: the ids of the user messages sent, in order, less those a
CONFIRM has been received for. The client keeps its own account of it, `confirm_id_vector` and
`confirm_msg_sent`; stdin is left out of `poll` while the flag is set.

An invariant that relates the account to the ledger speaks of the client, of the moment a line is
read and of the loop of `handle_timeout`. `Tracks` is that shape and `Rules` what has to be shown of
the parts; `Tracks.step` and `Rules.run` are the step and the run lemma for all of them.
-/

import Ipk24Chat.Udp.Confirmation

namespace Ipk24Chat

namespace UDPClient

open Reactive

/-! ### The ledger -/

/-- The id of the message a transition sends for the user. `userSent_request` is what it sends. -/
def userSent (t : Transition State Event (Effect UInt16)) : Option UInt16 :=
  match t.input, t.after.control with
  | .getline _, .handleTimeout m 0 => some m.messageId
  | _, _ => none

/-- What a received datagram leaves of the ledger. -/
def settle (pending : List UInt16) (d : Str) : List UInt16 :=
  if kind d = .confirm then pending.filter (· ≠ msgId d) else pending

/-- One transition in the ledger. -/
def ledgerNote (pending : List UInt16) (t : Transition State Event (Effect UInt16)) :
    List UInt16 :=
  match t.input with
  | .recvfrom r => settle pending r.buffer
  | _ => pending ++ (userSent t).toList

/-- The ids of the user messages sent and not yet confirmed, in sending order. -/
def unconfirmed (history : List (Transition State Event (Effect UInt16))) : List UInt16 :=
  observe ledgerNote [] history

theorem settle_confirm {d : Str} (confirm : kind d = .confirm) (pending : List UInt16) :
    settle pending d = pending.filter (· ≠ msgId d) := if_pos confirm

theorem settle_other {d : Str} (other : kind d ≠ .confirm) (pending : List UInt16) :
    settle pending d = pending := if_neg other

theorem settle_nil (d : Str) : settle [] d = [] := by
  unfold settle
  split <;> rfl

theorem settle_sublist (pending : List UInt16) (d : Str) : (settle pending d).Sublist pending := by
  unfold settle
  split
  · exact List.filter_sublist
  · exact List.Sublist.refl _

theorem settle_single (id : UInt16) (d : Str) : settle [id] d = [] ∨ settle [id] d = [id] := by
  unfold settle
  split
  · by_cases same : id = msgId d
    · exact Or.inl (by simp [same])
    · exact Or.inr (by simp [same])
  · exact Or.inr rfl

/-- A transition that leaves the program adds nothing to the ledger. -/
theorem ledgerNote_sublist {t : Transition State Event (Effect UInt16)} (pending : List UInt16)
    (leaves : t.after.control.leaving = true) :
    (ledgerNote pending t).Sublist pending := by
  unfold ledgerNote userSent
  split
  · exact settle_sublist pending _
  · split
    · rename_i control
      rw [control] at leaves
      cases leaves
    · simp

/-! ### The contract of `poll` -/

/-- `poll` returns without POLLIN on the socket. -/
def Event.socketSilent : Event → Bool
  | .poll (.ready socket _) => !socket.pollin
  | _ => false

/-- A `poll` of the socket alone returns with POLLIN on it. -/
def PollContract (t : Transition State Event (Effect UInt16)) : Prop :=
  t.before.client.pollCount = 1 → t.input.socketSilent = false

instance (t : Transition State Event (Effect UInt16)) : Decidable (PollContract t) :=
  inferInstanceAs (Decidable (_ → _))

/-- What `poll` leads to: stdin is only read when nothing is awaited. -/
theorem pollStep_control {s : State} {socket stdin : Revents}
    (contract : s.client.pollCount = 1 → (Event.poll (.ready socket stdin)).socketSilent = false) :
    (pollStep s (.ready socket stdin)).1.control = .acceptMsg ∨
      ((pollStep s (.ready socket stdin)).1.control = .getline ∨
        (pollStep s (.ready socket stdin)).1.control = .poll) ∧
      s.client.replyMsgSent = false ∧ s.client.confirmMsgSent = false := by
  unfold pollStep
  simp only
  by_cases pollin : socket.pollin = true
  · rw [if_pos pollin]
    exact Or.inl rfl
  · have both : s.client.replyMsgSent = false ∧ s.client.confirmMsgSent = false := by
      by_contra awaiting
      have alone : s.client.pollCount = 1 := by
        unfold pollCount
        cases reply : s.client.replyMsgSent <;> cases flag : s.client.confirmMsgSent <;>
          simp_all
      have heard := contract alone
      exact pollin (by simpa [Event.socketSilent] using heard)
    rw [if_neg pollin]
    refine Or.inr ⟨?_, both⟩
    split
    · exact Or.inl rfl
    · exact Or.inr rfl

theorem pollCount_of_idle {c : UDPClient} (reply : c.replyMsgSent = false)
    (flag : c.confirmMsgSent = false) : c.pollCount = 2 := by
  unfold pollCount
  rw [reply, flag]
  rfl

/-! ### Invariants of the account -/

/-- What is received in a transition. -/
def Event.received : Event → Option Str
  | .recvfrom r => some r.buffer
  | _ => none

/-- The message `handle_timeout` waits for. -/
def Control.waitedFor : Control → Option UDPMessage
  | .handleTimeout m _ => some m
  | _ => none

theorem ledgerNote_recvfrom (pending : List UInt16) (s s' : State) (r : Received)
    (out : List (Effect UInt16)) :
    ledgerNote pending ⟨s, .recvfrom r, s', out⟩ = settle pending r.buffer := rfl

theorem ledgerNote_poll (pending : List UInt16) (s s' : State) (result : PollResult)
    (out : List (Effect UInt16)) : ledgerNote pending ⟨s, .poll result, s', out⟩ = pending :=
  List.append_nil pending

theorem settle_empty {r : Received} (empty : r.bytesRx ≤ 0) (pending : List UInt16) :
    settle pending r.buffer = pending :=
  settle_other (by rw [kind_of_bytesRx empty]; decide) pending

theorem userSent_reading {t : Transition State Event (Effect UInt16)} {id : UInt16}
    (made : step t.before t.input = some (t.after, t.out)) (sent : userSent t = some id) :
    t.before.control = .getline := by
  obtain ⟨s, e, s', out⟩ := t
  cases step_calls made with
  | getlineStep reading _ => exact reading
  | _ => cases sent

section Tracks

variable (K : UDPClient → List UInt16 → Prop) (L : UDPMessage → UDPClient → List UInt16 → Prop)

/-- An invariant of the account: `K` of the client and the ledger, and `L` in the loop; a line is
read only while the flag is not set. -/
structure Tracks (pending : List UInt16) (s : State) : Prop where
  account : K s.client pending
  reading : s.control = .getline → s.client.confirmMsgSent = false
  loop : ∀ m k, s.control = .handleTimeout m k → L m s.client pending

variable (quiet : Option UDPMessage → UDPClient → Str → Prop)

/-- What the parts of such an invariant have to meet when the datagrams received are `quiet`. -/
structure Rules : Prop where
  new : ∀ port limit, K (.new port limit) []
  single : ∀ {c : UDPClient} {pending : List UInt16}, K c pending → pending.length ≤ 1
  quietPort : ∀ {waited : Option UDPMessage} {c : UDPClient} {d : Str} (port : UInt16),
    quiet waited c d → quiet waited { c with serverPort := port } d
  port : ∀ {c : UDPClient} {pending : List UInt16} (port : UInt16), K c pending →
    K { c with serverPort := port } pending
  named : ∀ {c : UDPClient} {pending : List UInt16} (dname : Str) (counter : Nat), K c pending →
    K (c.named dname counter) pending
  sent : ∀ {c : UDPClient} {pending : List UInt16} (m : UDPMessage) (request : Bool)
    (next : FsmState), K c pending → c.confirmMsgSent = false → next ≠ .startState →
    K (c.sendUserMsg m request next).client (pending ++ [m.messageId]) ∧
      L m (c.sendUserMsg m request next).client (pending ++ [m.messageId])
  handled : ∀ {waited : Option UDPMessage} {c : UDPClient} {pending : List UInt16} {d : Str}
    {o : Outcome}, K c pending → quiet waited c d → Handled c d o → o.blocked = none →
    K o.client (settle pending d)
  awaited : ∀ {c : UDPClient} {pending : List UInt16} {m : UDPMessage} {d : Str}, K c pending →
    L m c pending → quiet (some m) c d → c.Awaited m d →
    K { c with confirmMsgSent := false } (settle pending d)
  loop : ∀ {c : UDPClient} {pending : List UInt16} {m : UDPMessage} {d : Str} {o : Outcome},
    K c pending → L m c pending → quiet (some m) c d → ¬ c.Awaited m d → Handled c d o →
    o.blocked = none → L m o.client (settle pending d)

/-- What a transition receives is quiet. -/
def Quiet (t : Transition State Event (Effect UInt16)) : Prop :=
  ∀ d ∈ t.input.received, quiet t.before.control.waitedFor t.before.client d

variable {K L quiet} {pending : List UInt16} {s s' : State}

/-- Outside `getline` and the loop only the account is to be shown. -/
theorem Tracks.of_account (account : K s.client pending)
    (control : s.control = .poll ∨ s.control = .acceptMsg) : Tracks K L pending s := by
  refine ⟨account, fun reading => ?_, fun m k waiting => ?_⟩
  · rcases control with control | control <;> cases control.symm.trans reading
  · rcases control with control | control <;> cases control.symm.trans waiting

/-- A poll keeps the invariant: stdin is read when nothing is awaited. -/
theorem Tracks.poll (held : Tracks K L pending s) {socket stdin : Revents}
    (contract : s.client.pollCount = 1 → (Event.poll (.ready socket stdin)).socketSilent = false) :
    Tracks K L pending (pollStep s (.ready socket stdin)).1 := by
  have client := pollStep_client s socket stdin
  have account : K (pollStep s (.ready socket stdin)).1.client pending := by
    rw [client]
    exact held.account
  rcases pollStep_control contract with
    accepts | ⟨reads | polls, both⟩
  · exact .of_account account (Or.inr accepts)
  · refine ⟨account, fun _ => ?_, fun m k waiting => ?_⟩
    · rw [client]
      exact both.2
    · cases reads.symm.trans waiting
  · exact .of_account account (Or.inl polls)

/-- A line of the user keeps the invariant. -/
theorem Tracks.line (rules : Rules K L quiet) (held : Tracks K L pending s) {text : Str}
    {o : Outcome} {out : List (Effect UInt16)} (reading : s.control = .getline)
    (lined : Lined s.client (s.client.userMsg text).1 o) :
    Tracks K L (ledgerNote pending ⟨s, .getline (some text), (s.resume .poll o).1, out⟩)
      (s.resume .poll o).1 := by
  cases lined with
  | kept dname counter lines =>
    refine .of_account ?_ (Or.inl rfl)
    have account := rules.named dname counter held.account
    rw [← List.append_nil pending] at account
    exact account
  | sent dname request next lines sendable =>
    have begun : next ≠ .startState := by
      rcases sendable with ⟨_, _, _, rfl⟩ | ⟨_, _, _, rfl⟩ <;> decide
    have named := rules.named dname (s.client.msgCounter + 1) held.account
    obtain ⟨account, loop⟩ := rules.sent (s.client.userMsg text).1 request next named
      (held.reading reading) begun
    refine ⟨account, fun reads => (by cases reads), fun m k waiting => ?_⟩
    cases waiting
    exact loop

/-- **One step keeps the invariant**, or the program begins to leave. -/
theorem Tracks.step (rules : Rules K L quiet) (held : Tracks K L pending s) {e : Event}
    {out : List (Effect UInt16)} (made : UDPClient.step s e = some (s', out))
    (contract : PollContract ⟨s, e, s', out⟩) (calm : Quiet quiet ⟨s, e, s', out⟩) :
    s'.control.leaving = true ∨ Tracks K L (ledgerNote pending ⟨s, e, s', out⟩) s' := by
  have heard : ∀ {m : UDPMessage} {k : Nat} {r : Received}, s.control = .handleTimeout m k →
      e = .recvfrom r → quiet (some m) s.client r.buffer := by
    rintro m k r control rfl
    have received := calm r.buffer rfl
    rw [control] at received
    exact received
  cases step_moves made with
  | leave _ leaving => exact Or.inl (leaving.resume s .poll)
  | bye _ _ _ _ _ _ leaves => exact Or.inl leaves
  | poll socket stdin _ =>
    rw [ledgerNote_poll]
    exact Or.inr (held.poll contract)
  | idle r control empty =>
    rw [ledgerNote_recvfrom, settle_empty empty]
    exact Or.inr (.of_account held.account (Or.inl rfl))
  | giveUp m k r control empty =>
    rw [ledgerNote_recvfrom, settle_empty empty]
    exact Or.inr (.of_account held.account (Or.inl rfl))
  | resend m k r control empty =>
    rw [ledgerNote_recvfrom, settle_empty empty]
    refine Or.inr ⟨held.account, fun reading => (by cases reading), fun m' k' waiting => ?_⟩
    cases waiting
    exact held.loop m k control
  | line text control lined => exact Or.inr (held.line rules control lined)
  | accept r control some handled =>
    rcases handled.leaving_or_returns with leaving | returns
    · exact Or.inl (leaving.resume s .poll)
    · have account := rules.handled (rules.port r.port held.account)
        (rules.quietPort r.port (calm r.buffer rfl)) handled returns
      exact Or.inr (.of_account account (Or.inl (s.resume_of_returns returns)))
  | awaited m k r control some awaited =>
    have account := rules.awaited held.account (held.loop m k control) (heard control rfl) awaited
    exact Or.inr (.of_account account (Or.inl rfl))
  | receive m k r control some other handled =>
    rcases handled.leaving_or_returns with leaving | returns
    · exact Or.inl (leaving.resume s (.handleTimeout m k))
    · have stays : (s.resume (.handleTimeout m k) _).1.control = .handleTimeout m k :=
        s.resume_of_returns returns
      refine Or.inr ⟨rules.handled held.account (heard control rfl) handled returns,
        fun reading => ?_, fun m' k' waiting => ?_⟩
      · cases stays.symm.trans reading
      · cases stays.symm.trans waiting
        exact rules.loop held.account (held.loop m k control) (heard control rfl) other handled
          returns

/-- **The invariant after every run whose datagrams are quiet**; the program may be leaving. -/
theorem Rules.run (rules : Rules K L quiet) {port : UInt16}
    {history : List (Transition State Event (Effect UInt16))} (run : Run (machine port) history s)
    (contract : ∀ t ∈ history, PollContract t) (calm : ∀ t ∈ history, Quiet quiet t) :
    (s.control.leaving = true ∧ (unconfirmed history).length ≤ 1) ∨
      Tracks K L (unconfirmed history) s := by
  refine run.observed_invariant_of (fun t => PollContract t ∧ Quiet quiet t) ledgerNote []
    (fun pending s => (s.control.leaving = true ∧ pending.length ≤ 1) ∨ Tracks K L pending s) ?_ ?_
    fun t member => ⟨contract t member, calm t member⟩
  · rintro s ⟨limit, revents, rfl⟩
    exact Or.inr (.of_account (rules.new port limit) (Or.inl rfl))
  · rintro pending s e s' out held made ⟨contract, calm⟩
    have shorter : s'.control.leaving = true → pending.length ≤ 1 →
        s'.control.leaving = true ∧ (ledgerNote pending ⟨s, e, s', out⟩).length ≤ 1 :=
      fun leaves short =>
        ⟨leaves, Nat.le_trans (ledgerNote_sublist pending leaves).length_le short⟩
    rcases held with ⟨leaving, short⟩ | held
    · exact Or.inl (shorter (leaving_step made leaving) short)
    · rcases held.step rules made contract calm with leaves | held'
      · exact Or.inl (shorter leaves (rules.single held.account))
      · exact Or.inr held'

end Tracks

end UDPClient

end Ipk24Chat
