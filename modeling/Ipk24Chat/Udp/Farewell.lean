/-
**The BYE of `exit_program`.**

`exit_program` sends a BYE and waits for its CONFIRM in a loop of its own, with the limit of
`handle_timeout`; this loop counts the timeouts and sends nothing.

* `Departs.bids`: the BYE is sent once, and it is the last thing before the loop;
* `exitWait`: the loop as a wait whose retries send no copy;
* `bye_copies_iff`: a BYE is sent as often as a message of the user would be exactly when nothing is to
  be sent again.
-/

import Ipk24Chat.Udp.Counting
import Ipk24Chat.Udp.Retransmission

namespace Ipk24Chat

namespace UDPClient

open Reactive

/-! ### The BYE -/

/-- `exit_program` has just been called with a BYE to send. -/
def Departs (port : UInt16) (s : State) (out : List (Effect UInt16)) : Prop :=
  ∃ before e ret, Reachable (machine port) before ∧ step before e = some (s, out) ∧
    s.control = .exitProgram 0 ret ∧ (before.control.leaving = false ∨ e = .sigint)

/-- The BYE is sent last, and only once. -/
def Bids (c : UDPClient) (out : List (Effect UInt16)) : Prop :=
  ∃ effects, out = effects ++ c.sendMsg c.byeMsg ∧ copies c.byeMsg.udpBuffer effects = 0

theorem Bids.copies {c : UDPClient} {out : List (Effect UInt16)} (bids : c.Bids out) :
    copies c.byeMsg.udpBuffer out = 1 := by
  obtain ⟨effects, rfl, none⟩ := bids
  rw [copies_append, none, copies_sendMsg]

theorem Bids.last {c : UDPClient} {out : List (Effect UInt16)} (bids : c.Bids out) :
    out.getLast? = some (.send c.byeMsg.udpBuffer c.aiPort) := by
  obtain ⟨effects, rfl, _⟩ := bids
  exact List.getLast?_append

/-- A numbered datagram is sent as often as it is among the numbered ones. -/
theorem copies_of_numbered {m : UDPMessage} {id : UInt16} (numbered : Numbered m id)
    (out : List (Effect UInt16)) : copies m.udpBuffer out = (numberedIn out).count m.udpBuffer := by
  have counted : ¬ (m.udpBuffer = [] ∨ m.udpBuffer.head? = some UDP_CONFIRM) := by
    obtain ⟨o, other, layout⟩ := numbered
    rw [layout, o.udp_eq]
    simp [Outgoing.code_ne_confirm other]
  induction out with
  | nil => rfl
  | cons effect out ih =>
    rw [← List.singleton_append, copies_append, numberedIn_append, List.count_append, ih]
    congr 1
    cases effect with
    | print line => rfl
    | send d target =>
      by_cases same : d = m.udpBuffer
      · subst same
        simp [copies, sends, numberedIn, counted]
      · have absent : m.udpBuffer ∉ numberedIn [.send d target] := by
          simp only [numberedIn, List.filterMap_cons, List.filterMap_nil]
          split
          · exact List.not_mem_nil
          · rename_i some
            rw [Option.ite_none_left_eq_some, Option.some.injEq] at some
            rw [← some.2, List.mem_singleton]
            exact fun equal => same equal.symm
        rw [List.count_eq_zero_of_not_mem absent]
        simp [copies, sends, same]

theorem nextId_succ_ne {c c' : UDPClient} (more : c'.msgCounter = c.msgCounter + 1) :
    c'.nextId ≠ c.nextId := by
  rw [nextId, nextId, more, Ne, ← UInt16.toNat_inj, UInt16.toNat_ofNat', UInt16.toNat_ofNat']
  omega

/-- A message with the next number has not been sent. -/
theorem Counted.not_mem {c : UDPClient} {p : Point} (counted : Counted c p) {d : Str}
    (next : msgId d = p.1.nextId) : d ∉ numberedIn p.2 := by
  rcases counted with ⟨_, silent⟩ | ⟨more, silent | ⟨d', sent, id⟩⟩
  · rw [silent]
    exact List.not_mem_nil
  · rw [silent]
    exact List.not_mem_nil
  · rw [sent, List.mem_singleton]
    rintro rfl
    exact nextId_succ_ne more (next.symm.trans id)

theorem exitProgram_bids {c : UDPClient} {sendBye : Bool} {ret ret' : ExitCode}
    (exits : (c.exitProgram sendBye ret).blocked = some (.exitProgram 0 ret')) :
    c.Bids (c.exitProgram sendBye ret).effects := by
  cases sendBye with
  | false => cases exits
  | true => exact ⟨[], rfl, rfl⟩

/-- **A passage that counts** and ends in `exit_program`. -/
theorem Closes.bids {c : UDPClient} {o : Outcome} (closes : Closes Counted c o) {ret : ExitCode}
    (exits : o.blocked = some (.exitProgram 0 ret)) : o.client.Bids o.effects := by
  cases closes with
  | returns returned _ =>
    rw [returned] at exits
    cases exits
  | waits => cases exits
  | leaves sendBye ret' counted =>
    rename_i c' effects
    cases sendBye with
    | false => cases exits
    | true =>
      refine ⟨effects, rfl, ?_⟩
      show copies c'.byeMsg.udpBuffer effects = 0
      rw [copies_of_numbered (byeMsg_numbered c')]
      exact List.count_eq_zero_of_not_mem (counted.not_mem (byeMsg_numbered c').msgId)

/-- What holds of an outcome that ends in `exit_program` holds behind the step. -/
theorem resume_bids {s s' : State} {back : Control} {o : Outcome} {out : List (Effect UInt16)}
    {ret : ExitCode} (resumed : s.resume back o = (s', out)) (inside : back.leaving = false)
    (exits : s'.control = .exitProgram 0 ret)
    (bids : o.blocked = some (.exitProgram 0 ret) → o.client.Bids o.effects) : s'.client.Bids out := by
  cases resumed
  refine bids ?_
  have control : o.blocked.getD back = .exitProgram 0 ret := exits
  cases stopped : o.blocked with
  | none =>
    rw [stopped] at control
    obtain rfl : back = .exitProgram 0 ret := control
    cases inside
  | some k =>
    rw [stopped] at control
    obtain rfl : k = .exitProgram 0 ret := control
    rfl

theorem receiveInMain_closes (c : UDPClient) (d : Str) : Closes Counted c (c.receiveInMain d) := by
  rw [← Script.receiveInMain_outcome]
  exact (counted_receiveInMain d c).outcome

theorem receiveInTimeout_closes (c : UDPClient) (m : UDPMessage) (d : Str) :
    Closes Counted c (c.receiveInTimeout m d).2 := by
  rw [← Script.receiveInTimeout_outcome]
  exact (counted_receiveInTimeout m d c).outcome

section Steps

variable {s s' : State} {out : List (Effect UInt16)} {ret : ExitCode}

theorem gracefulExit_bids (made : s.resume .poll s.client.gracefulExit = (s', out))
    (exits : s'.control = .exitProgram 0 ret) : s'.client.Bids out := by
  refine resume_bids made rfl exits fun stopped => ?_
  unfold gracefulExit at stopped ⊢
  split at stopped
  · cases stopped
  · rename_i begun
    rw [if_neg begun]
    exact exitProgram_bids stopped

theorem pollStep_bids {result : PollResult} (made : pollStep s result = (s', out))
    (exits : s'.control = .exitProgram 0 ret) : s'.client.Bids out := by
  cases result with
  | failed => exact resume_bids made rfl exits fun stopped => by cases stopped
  | ready socket stdin =>
    simp only [pollStep] at made
    split at made
    · cases made
      cases exits
    split at made
    · cases made
      cases exits
    · cases made
      cases exits

theorem acceptStep_bids {r : Received} (made : acceptStep s r = (s', out))
    (exits : s'.control = .exitProgram 0 ret) : s'.client.Bids out := by
  unfold acceptStep at made
  split at made
  · split at made
    · cases made
      cases exits
    · exact resume_bids made rfl exits fun stopped => by cases stopped
  · exact resume_bids made rfl exits (receiveInMain_closes _ _).bids

theorem getlineStep_bids {line : Option Str} (made : getlineStep s line = (s', out))
    (exits : s'.control = .exitProgram 0 ret) : s'.client.Bids out := by
  cases line with
  | none => exact resume_bids made rfl exits exitProgram_bids
  | some text =>
    refine resume_bids made rfl exits fun stopped => ?_
    have lined := userLine_lined s.client text
    generalize s.client.userLine text = o at lined stopped
    cases lined with
    | kept => cases stopped
    | sent => cases stopped

theorem timeoutStep_bids {m : UDPMessage} {k : Nat} {r : Received}
    (made : timeoutStep s m k r = (s', out)) (exits : s'.control = .exitProgram 0 ret) :
    s'.client.Bids out := by
  unfold timeoutStep at made
  simp only at made
  split at made
  · split at made
    · split at made
      · refine resume_bids made rfl exits fun _ => ?_
        exact ⟨printed [.notice .maxTimeouts], rfl, copies_printed _ _⟩
      · cases made
        cases exits
    · cases made
      cases exits
  · refine resume_bids made ?_ exits (receiveInTimeout_closes _ _ _).bids
    split
    · rfl
    · rfl

end Steps

/-- **`exit_program` sends its BYE once**, and then waits. -/
theorem Departs.bids {port : UInt16} {s : State} {out : List (Effect UInt16)}
    (departs : Departs port s out) : s.client.Bids out := by
  obtain ⟨before, e, ret, _, made, exits, outside⟩ := departs
  cases step_calls made with
  | gracefulExit _ made => exact gracefulExit_bids made exits
  | pollStep _ made => exact pollStep_bids made exits
  | acceptStep _ made => exact acceptStep_bids made exits
  | getlineStep _ made => exact getlineStep_bids made exits
  | timeoutStep _ made => exact timeoutStep_bids made exits
  | byeStep leaving _ =>
    rw [leaving] at outside
    rcases outside with inside | other
    · cases inside
    · cases other

/-! ### The loop -/

/-- A timeout below the limit is only counted. -/
theorem byeStep_retry {s : State} {k : Nat} {ret : ExitCode} {r : Received} (timeout : Timeout r)
    (below : k ≠ s.client.maxUdpRetransmission.toNat) :
    byeStep s k ret r = ({ s with control := .exitProgram (k + 1) ret }, []) := by
  simp only [byeStep, if_pos timeout.1, if_pos timeout.2, if_neg below]

theorem byeStep_giveUp {s : State} {k : Nat} {ret : ExitCode} {r : Received} (timeout : Timeout r)
    (limit : k = s.client.maxUdpRetransmission.toNat) :
    byeStep s k ret r = ({ s with control := .exited ret }, printed [.notice .maxTimeouts]) := by
  simp only [byeStep, if_pos timeout.1, if_pos timeout.2, if_pos limit]

/-- **The loop of `exit_program`** is a wait that sends no copy with a retry. -/
def exitWait (port : UInt16) (bye : Str) (limit : UInt16) : Wait (machine port) where
  goesOn s k := (∃ ret, s.control = .exitProgram k ret) ∧ s.client.maxUdpRetransmission = limit
  closed s := ∃ ret, s.control = .exited ret
  answer := Event.answers
  timeout := Event.timesOut
  limit := limit.toNat
  copy := sends bye
  each := 0
  unique := by
    rintro s k k' ⟨⟨ret, exits⟩, _⟩ ⟨⟨ret', exits'⟩, _⟩
    cases exits.symm.trans exits'
    rfl
  ended := by
    rintro s k ⟨ret, closed⟩ ⟨⟨ret', exits⟩, _⟩
    cases closed.symm.trans exits
  retry := by
    rintro s k _ s' out ⟨⟨ret, exits⟩, rfl⟩ less ⟨r, rfl, _⟩ timeout made
    rw [show (machine port).step = step from rfl, step_exit exits,
      byeStep_retry (of_decide_eq_true timeout) (Nat.ne_of_lt less)] at made
    cases made
    exact ⟨⟨⟨ret, rfl⟩, rfl⟩, rfl⟩
  giveUp := by
    rintro s _ s' out ⟨⟨ret, exits⟩, rfl⟩ ⟨r, rfl, _⟩ timeout made
    rw [show (machine port).step = step from rfl, step_exit exits,
      byeStep_giveUp (of_decide_eq_true timeout) rfl] at made
    cases made
    exact ⟨⟨ret, rfl⟩, copies_printed bye _⟩
  other := by
    rintro s k _ s' out ⟨⟨ret, exits⟩, limit⟩ ⟨r, rfl, answers⟩ timeout made
    have nonempty := answers.resolve_left (of_decide_eq_false timeout)
    rw [show (machine port).step = step from rfl, step_exit exits, byeStep_datagram s k ret nonempty] at made
    cases made
    refine ⟨?_, copies_printed bye _⟩
    split
    · exact Or.inr ⟨ret, rfl⟩
    · exact Or.inl ⟨⟨ret, rfl⟩, limit⟩
  absorbing := by
    rintro s _ s' out ⟨ret, closed⟩ ⟨r, rfl, _⟩ made
    have stopped : step s (.recvfrom r) = none := by simp only [step, closed]
    cases stopped.symm.trans made

/-! ### Copies -/

/-- The copies of the message with this id that are due behind these outcomes: the first one, and one
for every timeout before its CONFIRM, up to the limit. -/
def due (limit : UInt16) (id : UInt16) (rs : List Received) : Nat :=
  transmissions limit.toNat (fun r => decide (Timeout r)) (fun r => decide (Confirms r id)) rs

/-- A message of the user has just been sent, and `handle_timeout` entered for it. -/
def Begins (port : UInt16) (s : State) (m : UDPMessage) (out : List (Effect UInt16)) : Prop :=
  ∃ before line, Reachable (machine port) before ∧ step before (.getline line) = some (s, out) ∧
    s.control = .handleTimeout m 0

theorem Begins.entered {port : UInt16} {s : State} {m : UDPMessage} {out : List (Effect UInt16)}
    (begins : Begins port s m out) : Entered port s m := by
  obtain ⟨before, line, reachable, made, control⟩ := begins
  exact ⟨before, line, out, reachable, made, control⟩

/-- The message has been sent once. -/
theorem Begins.copies {port : UInt16} {s : State} {m : UDPMessage} {out : List (Effect UInt16)}
    (begins : Begins port s m out) : copies m.udpBuffer out = 1 := by
  obtain ⟨before, line, _, made, control⟩ := begins
  obtain ⟨_, _, _, _, lines, _, _, _, same⟩ := sent_of_enters made control
  obtain ⟨_, rfl⟩ := Prod.mk.inj same
  show UDPClient.copies _ (printed lines ++ (UDPClient.sendMsg _ _ ++ [])) = 1
  rw [copies_append, copies_printed, List.append_nil, copies_sendMsg]

/-- **`handle_timeout` sends the copies that are due**, by the time of the CONFIRM, of giving up or of
any other end of the wait. -/
theorem confirm_copies {port : UInt16} {s s' s'' : State} {m m' : UDPMessage} {k : Nat}
    {rs : List Received} {r : Received} {first outs out : List (Effect UInt16)}
    (begins : Begins port s m first) (answers : ∀ r ∈ rs, Received.Answers r)
    (unsettled : ∀ r ∈ rs, ¬ Confirms r m.messageId)
    (driven : Drive (machine port) s (rs.map .recvfrom) s' outs)
    (still : s'.control = .handleTimeout m' k) (answer : Received.Answers r)
    (made : step s' (.recvfrom r) = some (s'', out)) :
    copies m.udpBuffer (first ++ outs ++ out) =
      due s.client.maxUdpRetransmission m.messageId (rs ++ [r]) := by
  have entered := begins.entered
  obtain ⟨rfl, limit, during⟩ := waits_during entered.control entered.asks answers driven still
  have account := (during.snoc ⟨still, limit⟩ ⟨r, rfl, answer⟩ made).account
    ⟨entered.control, rfl⟩ (Nat.zero_le _)
  have again : copies m'.udpBuffer (outs ++ out) =
      1 * min ((rs.map Event.recvfrom ++ [Event.recvfrom r]).countP Event.timesOut)
        (s.client.maxUdpRetransmission.toNat - 0) := account.copies
  rw [List.append_assoc, copies_append, begins.copies, again, Nat.one_mul, Nat.sub_zero, due,
    transmissions_concat]
  · rw [← List.map_singleton, ← List.map_append, countP_timesOut]
  · intro r' member
    exact decide_eq_false (unsettled r' member)
  · intro settled
    refine decide_eq_false fun timeout => timeout.not_pos ?_
    exact (of_decide_eq_true settled : Confirms r m'.messageId).bytesRx_pos

/-- What the loop of `exit_program` has taken. -/
theorem exits_during {port : UInt16} {s s' : State} {out outs : List (Effect UInt16)}
    {rs : List Received} (departs : Departs port s out) (answers : ∀ r ∈ rs, Received.Answers r)
    (driven : Drive (machine port) s (rs.map .recvfrom) s' outs) :
    (exitWait port s.client.byeMsg.udpBuffer s.client.maxUdpRetransmission).Account 0
      (rs.map .recvfrom) s' outs := by
  obtain ⟨_, _, ret, _, _, exits, _⟩ := departs
  have goesOn : (exitWait port s.client.byeMsg.udpBuffer s.client.maxUdpRetransmission).goesOn s 0 :=
    ⟨⟨ret, exits⟩, rfl⟩
  refine (Wait.During.of_stuck ?_ goesOn (Nat.zero_le _) (answers_map answers) driven).account goesOn
    (Nat.zero_le _)
  rintro s _ ⟨ret, closed⟩ ⟨r, rfl, _⟩
  show step s (.recvfrom r) = none
  simp only [step, closed]

/-- **The BYE is sent once.** -/
theorem exits_copies {port : UInt16} {s s' : State} {out outs : List (Effect UInt16)}
    {rs : List Received} (departs : Departs port s out) (answers : ∀ r ∈ rs, Received.Answers r)
    (driven : Drive (machine port) s (rs.map .recvfrom) s' outs) :
    copies s.client.byeMsg.udpBuffer (out ++ outs) = 1 := by
  have silent : copies s.client.byeMsg.udpBuffer outs = 0 * _ :=
    (exits_during departs answers driven).copies
  rw [copies_append, departs.bids.copies, silent, Nat.zero_mul]

/-- **The copies of a BYE**: `handle_timeout` sends the copies of a message that are due; of a BYE as
many are sent exactly when the limit is 0, or no timeout comes before its CONFIRM. -/
theorem bye_copies_iff {port : UInt16} :
    (∀ (s s' s'' : State) (m m' : UDPMessage) (k : Nat) (rs : List Received) (r : Received)
      (first outs out : List (Effect UInt16)), Begins port s m first →
      (∀ r ∈ rs, Received.Answers r) → (∀ r ∈ rs, ¬ Confirms r m.messageId) →
      Drive (machine port) s (rs.map .recvfrom) s' outs → s'.control = .handleTimeout m' k →
      Received.Answers r → step s' (.recvfrom r) = some (s'', out) →
      copies m.udpBuffer (first ++ outs ++ out) =
        due s.client.maxUdpRetransmission m.messageId (rs ++ [r])) ∧
    (∀ (s s' : State) (rs : List Received) (first outs : List (Effect UInt16)),
      Departs port s first → (∀ r ∈ rs, Received.Answers r) →
      Drive (machine port) s (rs.map .recvfrom) s' outs →
      (copies s.client.byeMsg.udpBuffer (first ++ outs) =
          due s.client.maxUdpRetransmission s.client.nextId rs ↔
        s.client.maxUdpRetransmission = 0 ∨
          ∀ r ∈ rs.takeWhile (fun r => !decide (Confirms r s.client.nextId)), ¬ Timeout r)) := by
  refine ⟨fun s s' s'' m m' k rs r first outs out begins answers unsettled driven still answer made =>
    confirm_copies begins answers unsettled driven still answer made,
    fun s s' rs first outs departs answers driven => ?_⟩
  rw [exits_copies departs answers driven, eq_comm, due, transmissions_eq_one_iff,
    show (0 : Nat) = (0 : UInt16).toNat from rfl, UInt16.toNat_inj]
  simp only [decide_eq_false_iff_not]

/-- The end of the input behind a sign-in: BYE 1 has been sent. -/
def leftByEof : State := (machine 4567).reached booted (signIn ++ [stdinReady, .getline none])

theorem leftByEof_departs :
    Departs 4567 leftByEof [.send ([UDP_BYE] ++ idBytes 1) 5000] := by
  refine ⟨(machine 4567).reached booted (signIn ++ [stdinReady]), .getline none, .failure,
    booted_reachable.drive (.reached rfl), ?_, rfl, Or.inl rfl⟩
  decide +kernel

theorem sentMsg_begins (m : UDPMessage) (waiting : sentMsg.control = .handleTimeout m 0) :
    Begins 4567 sentMsg m ((step ((machine 4567).reached booted (signIn ++ [stdinReady]))
      (.getline (some (bytes "hello")))).getD (sentMsg, [])).2 :=
  ⟨(machine 4567).reached booted (signIn ++ [stdinReady]), some (bytes "hello"),
    booted_reachable.drive (.reached rfl), rfl, waiting⟩

/-- A text is sent again behind one timeout; a BYE is confirmed at once. -/
theorem bye_copies_confirmed :
    (∃ m first s' outs s'' out, Begins 4567 sentMsg m first ∧
      Drive (machine 4567) sentMsg ([.failed .EAGAIN].map .recvfrom) s' outs ∧
      step s' (heardFrom 5000 (confirmDatagram 1)) = some (s'', out) ∧
      copies m.udpBuffer (first ++ outs ++ out) =
        due 3 1 [.failed .EAGAIN, .datagram (confirmDatagram 1) 5000 (.other 0)]) ∧
    ∃ s' outs, Drive (machine 4567) leftByEof
        ([.datagram (confirmDatagram 1) 5000 (.other 0)].map .recvfrom) s' outs ∧
      copies leftByEof.client.byeMsg.udpBuffer ([.send ([UDP_BYE] ++ idBytes 1) 5000] ++ outs) =
        due 3 1 [.datagram (confirmDatagram 1) 5000 (.other 0)] := by
  obtain ⟨message, bye⟩ := @bye_copies_iff 4567
  refine ⟨⟨_, _, _, _, _, _, sentMsg_begins _ rfl, .reached rfl, rfl, ?_⟩, _, _, .reached rfl, ?_⟩
  · refine message sentMsg _ _ _ _ _ [.failed .EAGAIN] (.datagram (confirmDatagram 1) 5000 (.other 0))
      _ _ _ (sentMsg_begins _ rfl) ?_ ?_ (.reached rfl) rfl (Or.inr (by decide)) rfl
    · simp only [List.mem_singleton, forall_eq]
      exact Or.inl (by decide)
    · simp only [List.mem_singleton, forall_eq]
      rintro ⟨confirm, _⟩
      cases confirm
  · refine (bye leftByEof _ [.datagram (confirmDatagram 1) 5000 (.other 0)] _ _ leftByEof_departs ?_
      (.reached rfl)).mpr (Or.inr ?_)
    · simp only [List.mem_singleton, forall_eq]
      exact Or.inr (by decide)
    · decide +kernel

/-- **A timeout before the CONFIRM**: two copies of the BYE are due, and one is sent. -/
theorem bye_lost : ∃ s' outs, Departs 4567 leftByEof [.send ([UDP_BYE] ++ idBytes 1) 5000] ∧
    Drive (machine 4567) leftByEof
      ([.failed .EAGAIN, .datagram (confirmDatagram 1) 5000 (.other 0)].map .recvfrom) s' outs ∧
    s'.control = .exited .failure ∧
    copies leftByEof.client.byeMsg.udpBuffer ([.send ([UDP_BYE] ++ idBytes 1) 5000] ++ outs) = 1 ∧
    due leftByEof.client.maxUdpRetransmission leftByEof.client.nextId
      [.failed .EAGAIN, .datagram (confirmDatagram 1) 5000 (.other 0)] = 2 := by
  refine ⟨_, _, leftByEof_departs, .reached rfl, rfl, ?_, ?_⟩
  · decide +kernel
  · decide +kernel

end UDPClient

end Ipk24Chat
