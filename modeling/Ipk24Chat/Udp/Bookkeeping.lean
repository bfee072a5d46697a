/-
**The client's own account of the ledger: `confirm_id_vector` and `confirm_msg_sent`.**

An id is pushed for every user message. The CONFIRM handler of `fsm_logic_handler` takes it out
again and clears the flag; the check of `handle_timeout` only clears the flag (`TakenInTimeout`).

* `Account`: the vector is the ledger and the flag says that it is not empty;
* `account_run`: it is kept by every run in which `handle_timeout` consumes no CONFIRM;
* `account_clears`: while it holds, the CONFIRM of the last message unblocks stdin;
* `ledger_iff`: the account holds at the top of the loop throughout a run exactly when
  `handle_timeout` consumes no CONFIRM in it.
-/

import Ipk24Chat.Udp.Ledger

namespace Ipk24Chat

namespace UDPClient

open Reactive

/-! ### The account -/

/-- The vector is the ledger, which has at most one entry, and the flag says that it has one. -/
structure Account (c : UDPClient) (pending : List UInt16) : Prop where
  vector : c.confirmIdVector = pending
  flag : c.confirmMsgSent = true ↔ pending ≠ []
  begun : c.confirmMsgSent = true → c.clientState ≠ .startState
  single : pending.length ≤ 1

theorem Account.cases {c : UDPClient} {pending : List UInt16} (account : c.Account pending) :
    (pending = [] ∧ c.confirmMsgSent = false) ∨
      ∃ id, pending = [id] ∧ c.confirmMsgSent = true := by
  cases pending with
  | nil =>
    refine Or.inl ⟨rfl, ?_⟩
    by_contra set
    exact account.flag.mp (by simpa using set) rfl
  | cons id rest =>
    have none : rest = [] := List.length_eq_zero_iff.mp (by simpa using account.single)
    subst none
    exact Or.inr ⟨id, rfl, account.flag.mpr (List.cons_ne_nil id [])⟩

/-- **A datagram keeps the account**: the CONFIRM of the front is taken out of both. -/
theorem Handled.account {c : UDPClient} {d : Str} {o : Outcome} {pending : List UInt16}
    (handled : Handled c d o) (account : c.Account pending) (returns : o.blocked = none) :
    o.client.Account (settle pending d) := by
  have other : kind d ≠ .confirm → c.Account (settle pending d) := fun other => by
    rw [settle_other other]
    exact account
  cases handled with
  | leaving _ _ leaving => exact absurd returns leaving.blocked_ne
  | confirmed confirm front =>
    have head := frontId_eq_iff.mp front
    rw [settle_confirm confirm]
    rcases account.cases with ⟨rfl, _⟩ | ⟨id, rfl, _⟩
    · rw [account.vector] at head
      cases head
    · rw [account.vector] at head
      have gone : [id].filter (· ≠ msgId d) = [] := by simp [Option.some.inj head]
      rw [gone]
      refine ⟨?_, iff_of_false Bool.false_ne_true (not_not.mpr rfl), fun set => (by cases set),
        Nat.zero_le 1⟩
      show c.confirmIdVector.tail = []
      rw [account.vector]
      rfl
  | unmatched confirm front =>
    have head : c.confirmIdVector.head? ≠ some (msgId d) := mt frontId_eq_iff.mpr front
    have same : settle pending d = pending := by
      rw [settle_confirm confirm]
      rcases account.cases with ⟨rfl, _⟩ | ⟨id, rfl, _⟩
      · rfl
      · rw [account.vector, List.head?_cons] at head
        have differs : id ≠ msgId d := fun same => head (by rw [same])
        simp [differs]
    rw [same]
    exact account
  | skipped seen => exact other fun confirm => not_seen_of_confirm confirm seen
  | reply reply =>
    obtain ⟨vector, flag, begun, single⟩ := other (by simp [reply])
    exact ⟨vector, flag, fun set => replied_begun d (begun set), single⟩
  | msg msg =>
    obtain ⟨vector, flag, begun, single⟩ := other (by simp [msg])
    exact ⟨vector, flag, begun, single⟩
  | dropped _ _ notConfirm => exact other notConfirm

/-! ### The account over a run -/

/-- A transition in which `handle_timeout` consumes the CONFIRM it waits for. -/
def TakenInTimeout (t : Transition State Event (Effect UInt16)) : Prop :=
  ∃ m ∈ t.before.control.waitedFor, ∃ d ∈ t.input.received, t.before.client.Awaited m d

instance (t : Transition State Event (Effect UInt16)) : Decidable (TakenInTimeout t) :=
  inferInstanceAs (Decidable (∃ m ∈ t.before.control.waitedFor,
    ∃ d ∈ t.input.received, t.before.client.Awaited m d))

/-- In the loop, a datagram that is not the CONFIRM awaited leaves the ledger. -/
theorem settle_loop {c : UDPClient} {m : UDPMessage} {d : Str} (set : c.confirmMsgSent = true)
    (other : ¬ c.Awaited m d) : settle [m.messageId] d = [m.messageId] := by
  unfold settle
  by_cases confirm : kind d = .confirm
  · have differs : m.messageId ≠ msgId d := fun same => other ⟨set, confirm, same.symm⟩
    rw [if_pos confirm]
    simp [differs]
  · exact if_neg confirm

/-- **The account is kept** when `handle_timeout` consumes no CONFIRM. -/
theorem account_rules : Rules Account (fun m _ pending => pending = [m.messageId])
    fun waited c d => ∀ m ∈ waited, ¬ c.Awaited m d where
  new _ _ := ⟨rfl, by simp [UDPClient.new], fun set => (by cases set), Nat.zero_le 1⟩
  single account := account.single
  quietPort _ kept := kept
  port _ account := ⟨account.vector, account.flag, account.begun, account.single⟩
  named _ _ account := ⟨account.vector, account.flag, account.begun, account.single⟩
  sent := by
    intro c pending m request next account unset begun
    rcases account.cases with ⟨rfl, _⟩ | ⟨_, _, set⟩
    · refine ⟨⟨?_, ?_, fun _ => begun, Nat.le_refl 1⟩, rfl⟩
      · show c.confirmIdVector ++ [m.messageId] = [] ++ [m.messageId]
        rw [account.vector]
      · exact iff_of_true rfl (List.cons_ne_nil _ _)
    · rw [unset] at set
      cases set
  handled account _ handled returns := handled.account account returns
  awaited _ _ kept awaited := absurd awaited (kept _ rfl)
  loop := by
    intro c pending m d o account waiting kept other handled returns
    rw [waiting]
    exact settle_loop (account.flag.mpr (by simp [waiting])) other

/-- The account after every run in which `handle_timeout` consumes no CONFIRM. -/
theorem account_run {port : UInt16} {s : State}
    {history : List (Transition State Event (Effect UInt16))} (run : Run (machine port) history s)
    (contract : ∀ t ∈ history, PollContract t) (kept : ∀ t ∈ history, ¬ TakenInTimeout t) :
    s.control.leaving = true ∨ s.client.Account (unconfirmed history) := by
  have calm : ∀ t ∈ history, Quiet (fun waited c d => ∀ m ∈ waited, ¬ c.Awaited m d) t :=
    fun t member d received m waited awaited => kept t member ⟨m, waited, d, received, awaited⟩
  rcases account_rules.run run contract calm with ⟨leaving, _⟩ | held
  · exact Or.inl leaving
  · exact Or.inr held.account

/-- While the flag is set the vector is not empty. -/
theorem queued_of_set {port : UInt16} {s : State} (reached : Reachable (machine port) s) :
    s.control.leaving = true ∨
      (s.client.confirmMsgSent = true → s.client.confirmIdVector ≠ []) := by
  refine reached.invariant (fun s => s.control.leaving = true ∨
    (s.client.confirmMsgSent = true → s.client.confirmIdVector ≠ [])) ?_ ?_
  · rintro s ⟨limit, revents, rfl⟩
    exact Or.inr fun set => by cases set
  · intro s e s' out held made
    rcases held with leaving | queued
    · exact Or.inl (leaving_step made leaving)
    have kept : ∀ {c : UDPClient} {d : Str} {o : Outcome}, Handled c d o →
        c.confirmMsgSent = s.client.confirmMsgSent → c.confirmIdVector = s.client.confirmIdVector →
        o.blocked = none → o.client.confirmMsgSent = true → o.client.confirmIdVector ≠ [] := by
      intro c d o handled flag vector returns
      rw [← flag, ← vector] at queued
      cases handled with
      | leaving _ _ leaving => exact absurd returns leaving.blocked_ne
      | confirmed => exact fun set => by cases set
      | _ => exact queued
    cases step_moves made with
    | leave _ leaving => exact Or.inl (leaving.resume s .poll)
    | bye _ _ _ _ _ _ leaves => exact Or.inl leaves
    | poll socket stdin _ =>
      rw [pollStep_client]
      exact Or.inr queued
    | idle => exact Or.inr queued
    | giveUp => exact Or.inr queued
    | resend => exact Or.inr queued
    | awaited => exact Or.inr fun set => by cases set
    | line text _ lined =>
      cases lined with
      | kept => exact Or.inr queued
      | sent =>
        exact Or.inr fun _ => List.append_ne_nil_of_right_ne_nil _ (List.cons_ne_nil _ [])
    | accept r _ _ handled =>
      rcases handled.leaving_or_returns with leaving | returns
      · exact Or.inl (leaving.resume s .poll)
      · exact Or.inr (kept handled rfl rfl returns)
    | receive m k r _ _ _ handled =>
      rcases handled.leaving_or_returns with leaving | returns
      · exact Or.inl (leaving.resume s (.handleTimeout m k))
      · exact Or.inr (kept handled rfl rfl returns)

/-! ### The end of a wait in the main loop -/

/-- The CONFIRM of the front, in the main loop. -/
theorem receiveInMain_confirm {c : UDPClient} {d : Str} (confirm : kind d = .confirm)
    (begun : c.clientState ≠ .startState) (front : c.confirmIdVector.head? = some (msgId d)) :
    c.receiveInMain d = .done c.unqueued := by
  have handled := receiveInMain_handled c d
  generalize c.receiveInMain d = o at handled ⊢
  cases handled with
  | confirmed => rfl
  | skipped seen => exact absurd seen (not_seen_of_confirm confirm)
  | unmatched _ other => exact absurd (frontId_eq_iff.mpr front) other
  | reply reply => simp [confirm] at reply
  | msg msg => simp [confirm] at msg
  | dropped _ _ other => exact absurd confirm other
  | leaving _ early _ => exact absurd (Or.inl ⟨begun, Or.inl confirm⟩) early

/-- At the top of the loop: the CONFIRM of this id, received next, ends the wait. -/
def Clears (s : State) (id : UInt16) : Prop :=
  ∀ r socket stdin, Confirms r id → socket.pollin = true →
    ∃ s₁ s₂, step s (.poll (.ready socket stdin)) = some (s₁, []) ∧
      step s₁ (.recvfrom r) = some (s₂, []) ∧ s₂.control = .poll ∧
      s₂.client.confirmMsgSent = false

/-- **While the account holds**, the CONFIRM of the last message unblocks stdin. -/
theorem account_clears {s : State} {pending : List UInt16} {id : UInt16}
    (account : s.client.Account pending) (polling : s.control = .poll)
    (last : pending.getLast? = some id) : Clears s id := by
  intro r socket stdin confirms pollin
  rcases account.cases with ⟨rfl, _⟩ | ⟨only, rfl, set⟩
  · cases last
  have same : only = id := Option.some.inj last
  subst same
  have nonempty : ¬ r.bytesRx ≤ 0 := by
    have := confirms.bytesRx_pos
    omega
  have polled : step s (.poll (.ready socket stdin)) = some ({ s with
      nfds := s.client.pollCount
      revents := stdinRevents s.client.pollCount stdin s.revents
      control := .acceptMsg }, []) := by
    simp only [step_polling polling, pollStep, if_pos pollin]
  refine ⟨_, ⟨UDPClient.unqueued { s.client with serverPort := r.port }, s.client.pollCount,
    stdinRevents s.client.pollCount stdin s.revents, .poll⟩, polled, ?_, rfl, rfl⟩
  have handled : UDPClient.receiveInMain { s.client with serverPort := r.port } r.buffer =
      .done (UDPClient.unqueued { s.client with serverPort := r.port }) := by
    refine receiveInMain_confirm confirms.1 (account.begun set) ?_
    show s.client.confirmIdVector.head? = some (msgId r.buffer)
    rw [account.vector, confirms.2]
    rfl
  show some (acceptStep _ r) = _
  unfold acceptStep
  simp only [if_neg nonempty, handled]
  rfl

/-! ### The bookkeeping of a run -/

/-- The vector lists what is unconfirmed, the flag says that there is something, and the CONFIRM of
the last message sent ends the wait. -/
def LedgerHolds (history : List (Transition State Event (Effect UInt16))) (s : State) : Prop :=
  s.client.confirmIdVector = unconfirmed history ∧
    (s.client.confirmMsgSent = true ↔ unconfirmed history ≠ []) ∧
    (s.client.confirmMsgSent = true → ∀ id, (unconfirmed history).getLast? = some id → Clears s id)

theorem waitedFor_eq {control : Control} {m : UDPMessage} (waited : m ∈ control.waitedFor) :
    ∃ k, control = .handleTimeout m k := by
  cases control with
  | handleTimeout n k =>
    cases waited
    exact ⟨k, rfl⟩
  | _ => cases waited

theorem received_eq {e : Event} {d : Str} (received : d ∈ e.received) :
    ∃ r, e = .recvfrom r ∧ d = r.buffer := by
  cases e with
  | recvfrom r =>
    cases received
    exact ⟨r, rfl, rfl⟩
  | _ => cases received

/-- **The bookkeeping holds whenever a run is at the top of the loop** exactly when `handle_timeout`
never consumes the CONFIRM it waits for. -/
theorem ledger_iff {port : UInt16} {s : State}
    {history : List (Transition State Event (Effect UInt16))} (run : Run (machine port) history s)
    (contract : ∀ t ∈ history, PollContract t) :
    (∀ earlier later s', history = earlier ++ later → Run (machine port) earlier s' →
      s'.control = .poll → LedgerHolds earlier s') ↔ ∀ t ∈ history, ¬ TakenInTimeout t := by
  constructor
  · rintro holds t member ⟨m, waited, d, received, awaited⟩
    obtain ⟨earlier, later, rfl⟩ := List.append_of_mem member
    obtain ⟨before, made, after⟩ := run.transition
    obtain ⟨k, waiting⟩ := waitedFor_eq waited
    obtain ⟨r, input, rfl⟩ := received_eq received
    have made' : step t.before t.input = some (t.after, t.out) := made
    rw [input, awaited_step waiting awaited] at made'
    obtain ⟨state, _⟩ := Prod.mk.inj (Option.some.inj made')
    obtain ⟨vector, flag, _⟩ := holds (earlier ++ [t]) later t.after (by simp) after (by simp [← state])
    rw [← state] at vector flag
    rcases queued_of_set before.reachable with leaving | queued
    · rw [waiting] at leaving
      cases leaving
    · refine Bool.false_ne_true (flag.mpr fun empty => queued awaited.1 ?_)
      exact vector.trans empty
  · intro kept earlier later s' split before polling
    subst split
    have held := account_run before (fun t member => contract t (List.mem_append_left _ member))
      fun t member => kept t (List.mem_append_left _ member)
    rcases held with leaving | account
    · rw [polling] at leaving
      cases leaving
    · exact ⟨account.vector, account.flag, fun _ id last => account_clears account polling last⟩

/-- A run in which every CONFIRM is received by the main loop. -/
theorem ledger_holds_signIn :
    LedgerHolds (((machine 4567).trace booted (signInByMain.take 5)).getD [])
      ((machine 4567).reached booted (signInByMain.take 5)) := by
  refine (ledger_iff (.reached booted_init rfl) ?_).mpr ?_ _ []
    _ (List.append_nil _).symm (.reached booted_init rfl) rfl
  · decide +kernel
  · decide +kernel

/-- **The id of a confirmed AUTH stays in the vector.** -/
theorem ledger_fails_signIn :
    Run (machine 4567) (((machine 4567).trace booted (signIn.take 3)).getD [])
      ((machine 4567).reached booted (signIn.take 3)) ∧
    (∀ t ∈ ((machine 4567).trace booted (signIn.take 3)).getD [], PollContract t) ∧
    ((machine 4567).reached booted (signIn.take 3)).control = .poll ∧
    ¬ LedgerHolds (((machine 4567).trace booted (signIn.take 3)).getD [])
      ((machine 4567).reached booted (signIn.take 3)) := by
  refine ⟨.reached booted_init rfl, by decide +kernel, by decide +kernel, ?_⟩
  rintro ⟨vector, _⟩
  have stale : ((machine 4567).reached booted (signIn.take 3)).client.confirmIdVector = [0] := by
    decide +kernel
  have none : unconfirmed (((machine 4567).trace booted (signIn.take 3)).getD []) = [] := by
    decide +kernel
  rw [stale, none] at vector
  cases vector

end UDPClient

end Ipk24Chat
