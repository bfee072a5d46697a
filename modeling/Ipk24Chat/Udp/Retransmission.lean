/-
**The retransmissions of `handle_timeout`.**

The loop that waits for the CONFIRM of a user message sends it again on every timeout, up to the
limit, and hands every other datagram to `fsm_logic_handler`. What is sent for a datagram is a CONFIRM,
an ERR or a BYE, so it is never a copy of the message.

* `handled_answering`: what a datagram makes the client send;
* `confirmWait`: the loop as a wait with at most `max_udp_retransmission` retries;
* `retransmission`: its copies, its limit, its end and its length;
* `givesUpAfter_iff`: the number of retransmissions behind which it gives up.
-/

import Ipk24Chat.Wire.Sent
import Ipk24Chat.Lib.Retry

namespace Ipk24Chat

namespace UDPClient

open Reactive

/-! ### Copies -/

/-- The effect sends this datagram. -/
def sends (d : Str) : Effect UInt16 → Bool
  | .send d' _ => decide (d' = d)
  | .print _ => false

/-- The number of times a datagram is sent. -/
def copies (d : Str) (out : List (Effect UInt16)) : Nat := out.countP (sends d)

theorem copies_append (d : Str) (first second : List (Effect UInt16)) :
    copies d (first ++ second) = copies d first + copies d second := List.countP_append

theorem copies_printed (d : Str) (lines : List Output) : copies d (printed lines) = 0 := by
  rw [copies, List.countP_eq_zero]
  intro effect member
  obtain ⟨line, _, rfl⟩ := List.mem_map.mp member
  exact Bool.false_ne_true

theorem copies_sendMsg (c : UDPClient) (m : UDPMessage) : copies m.udpBuffer (c.sendMsg m) = 1 := by
  simp [copies, sendMsg, sends]

/-! ### What is sent for a datagram -/

/-- A CONFIRM, an ERR or a BYE. -/
def Reaction (d : Str) : Prop :=
  d.head? = some UDP_CONFIRM ∨ d.head? = some UDP_ERR ∨ d.head? = some UDP_BYE

/-- Nothing else is sent. -/
def Answering (out : List (Effect UInt16)) : Prop :=
  ∀ d target, .send d target ∈ out → Reaction d

theorem Answering.copies {out : List (Effect UInt16)} (answering : Answering out) {d : Str}
    (other : ¬ Reaction d) : copies d out = 0 := by
  rw [UDPClient.copies, List.countP_eq_zero]
  intro effect member
  cases effect with
  | print line => exact Bool.false_ne_true
  | send d' target =>
    intro same
    obtain rfl : d' = d := of_decide_eq_true same
    exact other (answering d' target member)

/-- What a client sends of its own accord is a reaction. -/
theorem Answering.of_sent {name : Str} {out : List (Effect UInt16)}
    (sent : AllSent (Reacted name) out) : Answering out := by
  intro d target member
  obtain ⟨m, automatic, rfl⟩ := sent d target member
  cases automatic with
  | confirm id => exact Or.inl rfl
  | err id => exact Or.inr (Or.inl rfl)
  | bye id => exact Or.inr (Or.inr rfl)

/-- The way out at the limit. -/
theorem giveUp_answering (c : UDPClient) :
    Answering (printed [.notice .maxTimeouts] ++ (c.exitProgram true .failure).effects) :=
  .of_sent ((AllSent.printed [.notice .maxTimeouts]).append (exitProgram_sent c c.dname true .failure))

/-- **A datagram in the loop** makes the client send a CONFIRM, an ERR or a BYE, or nothing. -/
theorem handled_answering (c : UDPClient) (d : Str) : Answering (c.handled d).effects :=
  .of_sent (handled_sent c d)

/-! ### One outcome of the loop -/

/-- A timeout, or a datagram that is not empty. -/
def Received.Answers (r : Received) : Prop := Timeout r ∨ 0 < r.bytesRx

def Event.answers (e : Event) : Prop := ∃ r, e = .recvfrom r ∧ Received.Answers r

def Event.timesOut : Event → Bool
  | .recvfrom r => decide (Timeout r)
  | _ => false

theorem Timeout.not_pos {r : Received} (timeout : Timeout r) : ¬ 0 < r.bytesRx := by
  have := timeout.1
  omega

theorem Handled.limit {c : UDPClient} {d : Str} {o : Outcome} (handled : Handled c d o) :
    o.client.maxUdpRetransmission = c.maxUdpRetransmission := by
  cases handled with
  | leaving _ _ leaving =>
    exact leaving.preserves (P := fun c' => c'.maxUdpRetransmission = c.maxUdpRetransmission) rfl rfl
  | _ => rfl

/-- No step changes the limit. -/
theorem step_limit {s s' : State} {e : Event} {out : List (Effect UInt16)}
    (made : step s e = some (s', out)) :
    s'.client.maxUdpRetransmission = s.client.maxUdpRetransmission := by
  cases step_moves made with
  | leave _ leaving =>
    exact leaving.preserves (P := fun c => c.maxUdpRetransmission = s.client.maxUdpRetransmission) rfl rfl
  | poll socket stdin _ => rw [pollStep_client]
  | accept _ _ _ handled => exact handled.limit
  | line text _ lined =>
    cases lined with
    | kept => rfl
    | sent => rfl
  | receive _ _ _ _ _ _ handled => exact handled.limit
  | _ => rfl

theorem drive_limit {port : UInt16} {s s' : State} {events : List Event} {outs : List (Effect UInt16)}
    (driven : Drive (machine port) s events s' outs) :
    s'.client.maxUdpRetransmission = s.client.maxUdpRetransmission := by
  induction driven with
  | done => rfl
  | more made _ ih => exact ih.trans (step_limit made)

/-- **A datagram in the loop** ends it or leaves its message and its retries in place, and nothing but a
CONFIRM, an ERR or a BYE is sent. -/
theorem step_datagram {s s' : State} {m : UDPMessage} {k : Nat} {r : Received}
    {out : List (Effect UInt16)} (waiting : s.control = .handleTimeout m k) (nonempty : 0 < r.bytesRx)
    (made : step s (.recvfrom r) = some (s', out)) :
    (s'.control = .handleTimeout m k ∨ s'.control.waits = false) ∧
      s'.client.maxUdpRetransmission = s.client.maxUdpRetransmission ∧ Answering out := by
  by_cases awaited : s.client.Awaited m r.buffer
  · rw [awaited_step waiting awaited] at made
    cases made
    exact ⟨Or.inr rfl, rfl, AllSent.nil⟩
  · rw [step_handled waiting nonempty awaited] at made
    cases made
    have handled := handled_handled s.client r.buffer
    refine ⟨?_, handled.limit, handled_answering _ _⟩
    rcases handled.leaving_or_returns with leaving | returns
    · exact Or.inr (Control.not_waits_of_leaving (leaving.resume s _))
    · exact Or.inl (s.resume_of_returns returns)

/-! ### The wait -/

/-- **The loop of `handle_timeout`** is a wait that sends one copy with every retry. -/
def confirmWait (port : UInt16) (m : UDPMessage) (limit : UInt16) (asks : ¬ Reaction m.udpBuffer) :
    Wait (machine port) where
  goesOn s k := s.control = .handleTimeout m k ∧ s.client.maxUdpRetransmission = limit
  closed s := s.control.waits = false
  answer := Event.answers
  timeout := Event.timesOut
  limit := limit.toNat
  copy := sends m.udpBuffer
  each := 1
  unique := by
    rintro s k k' ⟨waiting, _⟩ ⟨waiting', _⟩
    cases waiting.symm.trans waiting'
    rfl
  ended := by
    rintro s k closed ⟨waiting, _⟩
    rw [waiting] at closed
    cases closed
  retry := by
    rintro s k _ s' out ⟨waiting, rfl⟩ less ⟨r, rfl, _⟩ timeout made
    rw [show (machine port).step = step from rfl,
      step_resend waiting (Nat.ne_of_lt less) (of_decide_eq_true timeout)] at made
    cases made
    exact ⟨⟨rfl, rfl⟩, copies_sendMsg s.client m⟩
  giveUp := by
    rintro s _ s' out ⟨waiting, rfl⟩ ⟨r, rfl, _⟩ timeout made
    rw [show (machine port).step = step from rfl,
      step_giveUp waiting rfl (of_decide_eq_true timeout)] at made
    cases made
    exact ⟨rfl, (giveUp_answering s.client).copies asks⟩
  other := by
    rintro s k _ s' out ⟨waiting, limit⟩ ⟨r, rfl, answers⟩ timeout made
    have nonempty := answers.resolve_left (of_decide_eq_false timeout)
    obtain ⟨still, same, answering⟩ := step_datagram waiting nonempty made
    exact ⟨still.imp_left fun still => ⟨still, same.trans limit⟩, answering.copies asks⟩
  absorbing := by
    rintro s _ s' out closed ⟨r, rfl, _⟩ made
    exact not_waits_step made closed fun _ => Event.noConfusion

theorem answers_map {rs : List Received} (answers : ∀ r ∈ rs, Received.Answers r) :
    ∀ e ∈ rs.map Event.recvfrom, Event.answers e := by
  intro e member
  obtain ⟨r, inside, rfl⟩ := List.mem_map.mp member
  exact ⟨r, rfl, answers r inside⟩

theorem countP_timesOut (rs : List Received) :
    (rs.map Event.recvfrom).countP Event.timesOut = rs.countP Timeout := List.countP_map

/-- An answer that is no timeout is a datagram. -/
theorem countP_datagrams {rs : List Received} (answers : ∀ r ∈ rs, Received.Answers r) :
    (rs.map Event.recvfrom).countP (fun e => !e.timesOut) =
      rs.countP fun r => decide (0 < r.bytesRx) := by
  rw [List.countP_map]
  refine List.countP_congr fun r member => ?_
  show (!decide (Timeout r)) = true ↔ _
  rw [Bool.not_eq_true', decide_eq_false_iff_not, decide_eq_true_eq]
  exact ⟨(answers r member).resolve_left, fun nonempty timeout => timeout.not_pos nonempty⟩

/-! ### Messages of the user -/

theorem not_reaction_udp (id : UInt16) (r : Request) : ¬ Reaction (r.udp id) := by
  cases r with
  | auth u d s =>
    show ¬ (some UDP_AUTH = some UDP_CONFIRM ∨ some UDP_AUTH = some UDP_ERR ∨ some UDP_AUTH = some UDP_BYE)
    decide
  | join c d =>
    show ¬ (some UDP_JOIN = some UDP_CONFIRM ∨ some UDP_JOIN = some UDP_ERR ∨ some UDP_JOIN = some UDP_BYE)
    decide
  | msg d t =>
    show ¬ (some UDP_MSG = some UDP_CONFIRM ∨ some UDP_MSG = some UDP_ERR ∨ some UDP_MSG = some UDP_BYE)
    decide

/-- What is waited for is a message of the user, or it is empty. -/
theorem Entered.asks {port : UInt16} {s : State} {m : UDPMessage} (entered : Entered port s m) :
    ¬ Reaction m.udpBuffer := by
  obtain ⟨before, line, out, _, made, control⟩ := entered
  obtain ⟨text, _, _, _, _, rfl, rfl, _⟩ := sent_of_enters made control
  have layout : (before.client.userMsg text).1.udpBuffer = _ :=
    UDPMessage.udpBuffer_userCmd before.client.dname text before.client.nextId
  rw [layout]
  cases (command text).request before.client.dname text with
  | none => rintro (confirm | err | bye) <;> contradiction
  | some r => exact not_reaction_udp _ r

/-! ### Behind the loop -/

/-- A program that is leaving sends nothing but a BYE. -/
theorem leaving_answering {s s' : State} {e : Event} {out : List (Effect UInt16)}
    (made : step s e = some (s', out)) (leaving : s.control.leaving = true) : Answering out := by
  cases step_calls made with
  | gracefulExit _ made =>
    cases made
    exact .of_sent (gracefulExit_sent s.client s.client.dname)
  | @byeStep k ret r _ _ _ made =>
    obtain ⟨_, notices, _, spec⟩ := byeStep_spec s k ret r
    cases made.symm.trans spec
    exact AllSent.printed _
  | _ control _ => rw [control] at leaving; cases leaving

theorem leaving_drive {port : UInt16} {s s' : State} {events : List Event}
    {outs : List (Effect UInt16)} (driven : Drive (machine port) s events s' outs)
    (leaving : s.control.leaving = true) : s'.control.leaving = true ∧ Answering outs := by
  induction driven with
  | done => exact ⟨leaving, AllSent.nil⟩
  | more made _ ih =>
    obtain ⟨left, answering⟩ := ih (leaving_step made leaving)
    exact ⟨left, AllSent.append (leaving_answering made leaving) answering⟩

/-! ### The discipline -/

/-- **The discipline of `handle_timeout`** for a message: what it has sent behind these outcomes, and
what the next one does. -/
structure Disciplined (port : UInt16) (limit : Nat) (m : UDPMessage) (rs : List Received) (s : State)
    (k : Nat) (outs : List (Effect UInt16)) : Prop where
  /-- A retry, and a copy, for every timeout. -/
  retries : k = rs.countP Timeout ∧ k ≤ limit ∧ copies m.udpBuffer outs = k
  resends : ∀ r, Timeout r → k < limit → step s (.recvfrom r) =
    some ({ s with control := .handleTimeout m (k + 1) }, [.send m.udpBuffer s.client.aiPort])
  /-- The timeout behind the last retry ends the program, which sends no copy any more. -/
  givesUp : ∀ r, Timeout r → k = limit → ∃ s' out, step s (.recvfrom r) = some (s', out) ∧
    s'.control = .exitProgram 0 .failure ∧ copies m.udpBuffer out = 0 ∧
    ∀ events s'' more, Drive (machine port) s' events s'' more →
      s''.control.leaving = true ∧ copies m.udpBuffer more = 0
  /-- A datagram is no reason for a copy or a retry. -/
  datagrams : ∀ r s' out, 0 < r.bytesRx → step s (.recvfrom r) = some (s', out) →
    copies m.udpBuffer out = 0 ∧ (s'.control = .handleTimeout m k ∨ s'.control.waits = false)
  /-- The outcomes that the loop has taken, and the one it takes next. -/
  iterations : ∀ r, Received.Answers r →
    (rs ++ [r]).length ≤ limit + 1 + (rs ++ [r]).countP fun r => decide (0 < r.bytesRx)

/-- What the loop has taken, as long as the program is in it. -/
theorem waits_during {port : UInt16} {s s' : State} {m m' : UDPMessage} {k : Nat}
    {rs : List Received} {outs : List (Effect UInt16)} (waiting : s.control = .handleTimeout m 0)
    (asks : ¬ Reaction m.udpBuffer) (answers : ∀ r ∈ rs, Received.Answers r)
    (driven : Drive (machine port) s (rs.map .recvfrom) s' outs)
    (still : s'.control = .handleTimeout m' k) :
    m' = m ∧ s'.client.maxUdpRetransmission = s.client.maxUdpRetransmission ∧
      (confirmWait port m s.client.maxUdpRetransmission asks).During s (rs.map .recvfrom) s' outs := by
  have begun : (confirmWait port m s.client.maxUdpRetransmission asks).goesOn s 0 := ⟨waiting, rfl⟩
  have taken := answers_map answers
  rcases Wait.drive_cases begun (Nat.zero_le _) taken driven with ⟨k', waiting', limit⟩ | closed
  · cases still.symm.trans waiting'
    exact ⟨rfl, limit, .of_drive begun (Nat.zero_le _) taken driven ⟨waiting', limit⟩⟩
  · have closed : s'.control.waits = false := closed
    rw [still] at closed
    cases closed

/-- **The retries and the copies of a wait** that goes on: as many as timeouts. -/
theorem counts_during {port : UInt16} {s s' : State} {m m' : UDPMessage} {k : Nat}
    {rs : List Received} {outs : List (Effect UInt16)} (waiting : s.control = .handleTimeout m 0)
    (asks : ¬ Reaction m.udpBuffer) (answers : ∀ r ∈ rs, Received.Answers r)
    (driven : Drive (machine port) s (rs.map .recvfrom) s' outs)
    (still : s'.control = .handleTimeout m' k) :
    k = rs.countP Timeout ∧ k ≤ s.client.maxUdpRetransmission.toNat ∧ copies m'.udpBuffer outs = k := by
  obtain ⟨rfl, limit, during⟩ := waits_during waiting asks answers driven still
  have account := during.account ⟨waiting, rfl⟩ (Nat.zero_le _)
  obtain ⟨retries, limited⟩ := account.retries k ⟨still, limit⟩
  have counted : k = rs.countP Timeout := by
    rw [← countP_timesOut, ← Nat.zero_add (List.countP _ _)]
    exact retries
  refine ⟨counted, limited, ?_⟩
  have copied : copies m'.udpBuffer outs =
      1 * min ((rs.map Event.recvfrom).countP Event.timesOut)
        (s.client.maxUdpRetransmission.toNat - 0) := account.copies
  rw [copied, countP_timesOut, ← counted, Nat.sub_zero, Nat.one_mul]
  exact Nat.min_eq_left limited

/-- **The retransmissions of a user message**: as long as `handle_timeout` has neither returned nor left
the program, it keeps the discipline. -/
theorem retransmission {port : UInt16} {s s' : State} {m m' : UDPMessage} {k : Nat}
    {rs : List Received} {outs : List (Effect UInt16)} (entered : Entered port s m)
    (answers : ∀ r ∈ rs, Received.Answers r)
    (driven : Drive (machine port) s (rs.map .recvfrom) s' outs)
    (still : s'.control = .handleTimeout m' k) :
    m' = m ∧ Disciplined port s.client.maxUdpRetransmission.toNat m rs s' k outs := by
  have asks := entered.asks
  have counts := counts_during entered.control asks answers driven still
  obtain ⟨rfl, limit, during⟩ := waits_during entered.control asks answers driven still
  refine ⟨rfl, ?_⟩
  constructor
  · exact counts
  · intro r timeout less
    exact step_resend still (by rw [limit]; exact Nat.ne_of_lt less) timeout
  · intro r timeout last
    refine ⟨_, _, step_giveUp still (by rw [limit]; exact last) timeout, rfl, ?_, ?_⟩
    · exact (giveUp_answering s'.client).copies asks
    · intro events s'' more driven'
      obtain ⟨left, answering⟩ := leaving_drive driven' rfl
      exact ⟨left, answering.copies asks⟩
  · intro r s'' out nonempty made
    obtain ⟨stays, _, answering⟩ := step_datagram still nonempty made
    exact ⟨answering.copies asks, stays⟩
  · intro r answer
    have length := ((during.snoc ⟨still, limit⟩ ⟨r, rfl, answer⟩ (step_waiting still r)).account
      ⟨entered.control, rfl⟩ (Nat.zero_le _)).length
    have all : ∀ r' ∈ rs ++ [r], Received.Answers r' := by
      intro r' member
      rcases List.mem_append.mp member with earlier | last
      · exact answers r' earlier
      · rw [List.mem_singleton.mp last]
        exact answer
    rw [← countP_datagrams all, List.map_append, ← List.length_map Event.recvfrom, List.map_append]
    exact length

/-- Two timeouts and a stray CONFIRM behind a text: it has been sent twice again. -/
theorem retransmission_hello : ∃ m s' outs,
    Drive (machine 4567) sentMsg ([.failed .EAGAIN, .datagram (confirmDatagram 7) 5000 (.other 0),
      .failed .EAGAIN].map .recvfrom) s' outs ∧
    s'.control = .handleTimeout m 2 ∧
    Disciplined 4567 3 m [.failed .EAGAIN, .datagram (confirmDatagram 7) 5000 (.other 0),
      .failed .EAGAIN] s' 2 outs := by
  refine ⟨_, _, _, .reached rfl, rfl, ?_⟩
  refine (retransmission (sentMsg_entered _ rfl) ?_ (.reached rfl) rfl).2
  simp only [List.mem_cons, List.not_mem_nil, or_false, forall_eq_or_imp, forall_eq]
  exact ⟨Or.inl (by decide), Or.inr (by decide), Or.inl (by decide)⟩

/-! ### Giving up -/

/-- **The loop gives up after `n` retransmissions**: whatever has been received in it, a timeout makes it
send its message again, until it has done so `n` times; the next one ends the program. -/
def GivesUpAfter (port : UInt16) (s : State) (m : UDPMessage) (n : Nat) : Prop :=
  ∀ (rs : List Received) (s' : State) (k : Nat) (outs : List (Effect UInt16)),
    (∀ r ∈ rs, Received.Answers r) → Drive (machine port) s (rs.map .recvfrom) s' outs →
    s'.control = .handleTimeout m k → copies m.udpBuffer outs = k ∧
      ∀ r, Timeout r → ∃ s'' out, step s' (.recvfrom r) = some (s'', out) ∧
        ((k < n ∧ s''.control = .handleTimeout m (k + 1) ∧ copies m.udpBuffer out = 1) ∨
          (k = n ∧ s''.control = .exitProgram 0 .failure ∧ copies m.udpBuffer out = 0))

/-- The timeouts up to the limit. -/
theorem timeouts_drive (port : UInt16) {s : State} {m : UDPMessage}
    (waiting : s.control = .handleTimeout m 0) {k : Nat}
    (below : k ≤ s.client.maxUdpRetransmission.toNat) : ∃ s' outs,
      Drive (machine port) s ((List.replicate k (Received.failed .EAGAIN)).map .recvfrom) s' outs ∧
      s'.control = .handleTimeout m k ∧ s'.client = s.client := by
  induction k with
  | zero => exact ⟨s, [], .done, waiting, rfl⟩
  | succ k ih =>
    obtain ⟨s', outs, driven, still, same⟩ := ih (by omega)
    have resends := step_resend still (by rw [same]; omega)
      (show Timeout (.failed .EAGAIN) from ⟨by decide, by decide⟩)
    have further := driven.append (.single resends)
    rw [← List.map_singleton (f := Event.recvfrom), ← List.map_append, ← List.replicate_succ'] at further
    exact ⟨_, _, further, rfl, same⟩

/-- **The number of retransmissions is the limit**, and no other. -/
theorem givesUpAfter_iff {port : UInt16} {s : State} {m : UDPMessage} (entered : Entered port s m)
    (n : Nat) : GivesUpAfter port s m n ↔ s.client.maxUdpRetransmission.toNat = n := by
  have answer : Received.Answers (.failed .EAGAIN) := Or.inl ⟨by decide, by decide⟩
  constructor
  · intro givesUp
    obtain ⟨s', outs, driven, still, same⟩ := timeouts_drive port entered.control (le_refl _)
    have timeout : Timeout (.failed .EAGAIN) := ⟨by decide, by decide⟩
    obtain ⟨s'', out, made, next⟩ := (givesUp _ s' _ outs
      (fun r member => by rw [List.eq_of_mem_replicate member]; exact answer) driven still).2 _ timeout
    cases made.symm.trans (step_giveUp still (by rw [same]) timeout)
    rcases next with ⟨_, goesOn, _⟩ | ⟨reached, _⟩
    · cases goesOn
    · exact reached
  · rintro rfl rs s' k outs answers driven still
    have asks := entered.asks
    obtain ⟨_, limited, copied⟩ := counts_during entered.control asks answers driven still
    obtain ⟨_, limit, _⟩ := waits_during entered.control asks answers driven still
    refine ⟨copied, fun r timeout => ?_⟩
    by_cases last : k = s.client.maxUdpRetransmission.toNat
    · exact ⟨_, _, step_giveUp still (by rw [limit]; exact last) timeout,
        Or.inr ⟨last, rfl, (giveUp_answering s'.client).copies asks⟩⟩
    · exact ⟨_, _, step_resend still (by rw [limit]; exact last) timeout,
        Or.inl ⟨by omega, rfl, copies_sendMsg s'.client m⟩⟩

end UDPClient

end Ipk24Chat
