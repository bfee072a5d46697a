/-
**The answers to a JOIN, in any order.**

Before its CONFIRM the REPLY and the MSGs are received by `handle_timeout`, behind it by the main loop;
each may come more than once. `Collected` says what the client is from the datagrams taken so far alone,
the last one first, so that neither the order nor the loop matters.

* `Collected.take`: one datagram, on either path;
* `Waiting.run`, `Polling.run`: the datagrams before the CONFIRM and those behind it;
* `join_answers`: every order leads to the same client, and each answer is displayed and confirmed once.
-/

import Ipk24Chat.Udp.Acknowledgement
import Ipk24Chat.Udp.Session
import Mathlib.Data.List.Perm.Lattice

namespace Ipk24Chat

namespace UDPClient

open Reactive

/-! ### Displays -/

/-- The messages displayed among some effects. -/
def displayedIn (effects : List (Effect UInt16)) : List Output :=
  effects.filterMap fun
    | .send _ _ => none
    | .print line => if line.isDisplay then some line else none

@[simp] theorem displayedIn_nil : displayedIn [] = [] := rfl

@[simp] theorem displayedIn_append (first second : List (Effect UInt16)) :
    displayedIn (first ++ second) = displayedIn first ++ displayedIn second :=
  List.filterMap_append

@[simp] theorem displayedIn_sendMsg (c : UDPClient) (m : UDPMessage) :
    displayedIn (c.sendMsg m) = [] := rfl

@[simp] theorem displayedIn_printed (lines : List Output) :
    displayedIn (printed lines) = lines.filter (·.isDisplay) := by
  rw [displayedIn, printed, List.filterMap_map, ← List.filterMap_eq_filter]
  rfl

/-- What is displayed of a REPLY or a MSG. -/
def shown (d : Str) : Output :=
  if kind d = .reply then (replyMsg d).printMessage else .msg (senderOf d).1 (textOf d)

theorem printMessage_replyMsg (d : Str) :
    (replyMsg d).printMessage = .message .cerr (replyMsg d).message := by
  refine if_pos ?_
  show replyType d = .replyOk ∨ replyType d = .replyNok
  unfold replyType
  split
  · exact Or.inr rfl
  · exact Or.inl rfl

/-! ### The answers -/

/-- A REPLY to request `n` and some MSGs, with ids that are new and distinct. -/
structure Answers (c : UDPClient) (n : UInt16) (reply : Str) (msgs : List Str) : Prop where
  isReply : kind reply = .reply
  long : 8 ≤ reply.length
  ref : replyRef reply = n
  chat : ∀ d ∈ msgs, kind d = .msg ∧ 7 ≤ d.length
  fresh : ∀ d ∈ reply :: msgs, msgId d ∉ c.seenIds
  distinct : ((reply :: msgs).map msgId).Nodup

/-- What the client is when it has taken some of the answers, the last one first. -/
structure Collected (base : UDPClient) (n : UInt16) (reply : Str) (taken : List Str) (c : UDPClient) :
    Prop where
  state : c.clientState = .openState
  seen : c.seenIds = base.seenIds ++ (taken.map msgId).reverse
  awaited : c.replyMsgSent = !decide (reply ∈ taken)
  vector : c.replyIdVector = if reply ∈ taken then [] else [n]
  target : c.aiPort = base.aiPort
  limit : c.maxUdpRetransmission = base.maxUdpRetransmission

theorem Collected.of_same {base : UDPClient} {n : UInt16} {reply : Str} {taken : List Str}
    {c c' : UDPClient} (collected : Collected base n reply taken c)
    (same : c' = { c with serverPort := c'.serverPort, confirmMsgSent := c'.confirmMsgSent }) :
    Collected base n reply taken c' := by
  obtain ⟨state, seen, awaited, vector, target, limit⟩ := collected
  rw [same]
  exact ⟨state, seen, awaited, vector, target, limit⟩

/-- The part of a datagram that is new. -/
def gained (taken : List Str) (d : Str) : List Str := if d ∈ taken then [] else [d]

theorem insert_eq_gained (taken : List Str) (d : Str) : taken.insert d = gained taken d ++ taken := by
  unfold gained
  split
  · rename_i member
    rw [List.insert_of_mem member, List.nil_append]
  · rename_i other
    rw [List.insert_of_not_mem other]
    rfl

theorem map_gained_reverse {α : Type} (f : Str → α) (taken : List Str) (d : Str) :
    ((gained taken d).map f).reverse = (gained taken d).map f := by
  unfold gained
  split
  · rfl
  · rfl

/-- What one answer leads to. -/
structure Takes (base : UDPClient) (n : UInt16) (reply : Str) (taken : List Str) (d : Str)
    (c : UDPClient) (o : Outcome) : Prop where
  returns : o.blocked = none
  collected : Collected base n reply (taken.insert d) o.client
  flag : o.client.confirmMsgSent = c.confirmMsgSent
  confirmed : confirmsIn o.effects = (gained taken d).map msgId
  displayed : displayedIn o.effects = (gained taken d).map shown

section Taking

variable {base c : UDPClient} {n : UInt16} {reply : Str} {msgs taken : List Str} {d : Str}

/-- An answer has been seen exactly when it has been taken. -/
theorem Collected.seen_iff (collected : Collected base n reply taken c)
    (answers : Answers base n reply msgs) (known : taken ⊆ reply :: msgs) (member : d ∈ reply :: msgs) :
    c.Seen d ↔ d ∈ taken := by
  have numbered : (kind d).numbered = true := by
    rcases List.mem_cons.mp member with rfl | member
    · rw [answers.isReply]
      rfl
    · rw [(answers.chat d member).1]
      rfl
  unfold Seen
  rw [collected.seen, List.mem_append, List.mem_reverse, List.mem_map]
  constructor
  · rintro ⟨_, old | ⟨d', taken', same⟩⟩
    · exact absurd old (answers.fresh d member)
    · rwa [← List.inj_on_of_nodup_map answers.distinct (known taken') member same]
  · intro taken
    exact ⟨numbered, Or.inr ⟨d, taken, rfl⟩⟩

/-- The REPLY, for the first time. -/
theorem Collected.takes_reply (collected : Collected base n reply taken c)
    (answers : Answers base n reply msgs) (new : reply ∉ taken) (fresh : ¬ c.Seen reply) :
    Takes base n reply taken reply c (c.handled reply) := by
  have awaited : c.replyMsgSent = true := by simp [collected.awaited, new]
  have vector : c.replyIdVector = [n] := by rw [collected.vector, if_neg new]
  have answered : c.answered reply = true := by
    simp [UDPClient.answered, awaited, vector, frontId, answers.ref]
  have handles := (handled_handled c reply).of_reply fresh answers.isReply answers.long
    (by simp [collected.state])
  have display : (replyMsg reply).printMessage.isDisplay = true := by
    rw [printMessage_replyMsg]
    rfl
  have gains : gained taken reply = [reply] := if_neg new
  have inserted : taken.insert reply = reply :: taken := List.insert_of_not_mem new
  have still : c.switches = false := by simp [switches, collected.state]
  rw [handles]
  refine ⟨rfl, ⟨?_, ?_, ?_, ?_, ?_, collected.limit⟩, rfl, ?_, ?_⟩
  · simp [replied, answered, collected.state]
  · simp [replied, collected.seen, inserted]
  · simp [replied, answered, inserted]
  · simp [replied, answered, vector, inserted]
  · simp [replied, still, collected.target]
  · simp [repliedEffects, answered, gains]
  · simp [repliedEffects, answered, gains, display, shown, answers.isReply]

/-- A MSG, for the first time. -/
theorem Collected.takes_msg (collected : Collected base n reply taken c)
    (answers : Answers base n reply msgs) (member : d ∈ msgs) (new : d ∉ taken) (fresh : ¬ c.Seen d) :
    Takes base n reply taken d c (c.handled d) := by
  obtain ⟨isMsg, long⟩ := answers.chat d member
  have handles := (handled_handled c d).of_msg fresh isMsg long collected.state
  have gains : gained taken d = [d] := if_neg new
  have inserted : taken.insert d = d :: taken := List.insert_of_not_mem new
  have other : reply ≠ d := by
    rintro rfl
    rw [answers.isReply] at isMsg
    cases isMsg
  have still : reply ∈ taken.insert d ↔ reply ∈ taken := by simp [inserted, other]
  rw [handles]
  refine ⟨rfl, ⟨collected.state, ?_, ?_, ?_, collected.target, collected.limit⟩, rfl, ?_, ?_⟩
  · simp [chatted, collected.seen, inserted]
  · simp [chatted, still, collected.awaited]
  · simp [chatted, still, collected.vector]
  · simp [gains]
  · simp [gains, shown, isMsg, Output.isDisplay]

/-- **One answer**, whether it is new or not. -/
theorem Collected.take (collected : Collected base n reply taken c)
    (answers : Answers base n reply msgs) (known : taken ⊆ reply :: msgs) (member : d ∈ reply :: msgs) :
    Takes base n reply taken d c (c.handled d) := by
  have seen := collected.seen_iff answers known member
  by_cases old : d ∈ taken
  · have gains : gained taken d = [] := if_pos old
    rw [handled_seen (seen.mpr old)]
    refine ⟨rfl, ?_, rfl, by rw [gains]; rfl, by rw [gains]; rfl⟩
    rw [List.insert_of_mem old]
    exact collected
  · rcases List.mem_cons.mp member with rfl | chat
    · exact collected.takes_reply answers old (mt seen.mp old)
    · exact collected.takes_msg answers chat old (mt seen.mp old)

end Taking

/-! ### The run -/

/-- A JOIN has just been sent, in a run in which `poll` keeps its contract. -/
def JoinSent (port : UInt16) (s : State) (m : UDPMessage) : Prop :=
  ∃ history before line out, Run (machine port) history before ∧ (∀ t ∈ history, PollContract t) ∧
    step before (.getline (some line)) = some (s, out) ∧ s.control = .handleTimeout m 0 ∧ m.type = .join

/-- A datagram that the main loop receives, behind the `poll` that reports it. -/
structure Delivery where
  socket : Revents
  stdin : Revents
  received : Received
  ready : socket.pollin = true

def Delivery.events (delivery : Delivery) : List Event :=
  [.poll (.ready delivery.socket delivery.stdin), .recvfrom delivery.received]

/-- What has happened since the JOIN was sent. -/
structure Joining (base : UDPClient) (n : UInt16) (reply : Str) (msgs taken : List Str) (s : State)
    (outs : List (Effect UInt16)) : Prop where
  collected : Collected base n reply taken s.client
  known : taken ⊆ reply :: msgs
  nodup : taken.Nodup
  confirmed : confirmsIn outs = (taken.map msgId).reverse
  displayed : displayedIn outs = (taken.map shown).reverse

section Joining

variable {base : UDPClient} {n : UInt16} {reply : Str} {msgs taken : List Str} {s : State}
  {outs : List (Effect UInt16)}

/-- Nothing of interest is sent, and the client stays. -/
theorem Joining.quiet (joining : Joining base n reply msgs taken s outs) {s' : State}
    {out : List (Effect UInt16)} (same : s'.client = { s.client with
      serverPort := s'.client.serverPort, confirmMsgSent := s'.client.confirmMsgSent })
    (unconfirmed : confirmsIn out = []) (silent : displayedIn out = []) :
    Joining base n reply msgs taken s' (outs ++ out) where
  collected := joining.collected.of_same same
  known := joining.known
  nodup := joining.nodup
  confirmed := by rw [confirmsIn_append, unconfirmed, List.append_nil, joining.confirmed]
  displayed := by rw [displayedIn_append, silent, List.append_nil, joining.displayed]

/-- An answer is taken. -/
theorem Joining.take (joining : Joining base n reply msgs taken s outs) {d : Str} {c : UDPClient}
    {o : Outcome} {s' : State} (member : d ∈ reply :: msgs) (takes : Takes base n reply taken d c o)
    (client : s'.client = o.client) :
    Joining base n reply msgs (taken.insert d) s' (outs ++ o.effects) where
  collected := client ▸ takes.collected
  known := by
    intro d' inserted
    rcases List.mem_insert_iff.mp inserted with rfl | old
    · exact member
    · exact joining.known old
  nodup := joining.nodup.insert
  confirmed := by
    rw [confirmsIn_append, joining.confirmed, takes.confirmed, insert_eq_gained, List.map_append,
      List.reverse_append, map_gained_reverse]
  displayed := by
    rw [displayedIn_append, joining.displayed, takes.displayed, insert_eq_gained, List.map_append,
      List.reverse_append, map_gained_reverse]

/-- The program waits for the CONFIRM of the JOIN. -/
structure Waiting (m : UDPMessage) (k : Nat) (s : State) : Prop where
  control : s.control = .handleTimeout m k
  flag : s.client.confirmMsgSent = true

/-- A timeout below the limit. -/
theorem Joining.timeout (joining : Joining base n reply msgs taken s outs) {m : UDPMessage} {k : Nat}
    (waiting : Waiting m k s) (carried : confirmRef m.udpBuffer = none) {r : Received}
    (timeout : Timeout r) (below : k ≠ base.maxUdpRetransmission.toNat) :
    ∃ s' out, step s (.recvfrom r) = some (s', out) ∧ Waiting m (k + 1) s' ∧
      Joining base n reply msgs taken s' (outs ++ out) := by
  have made : step s (.recvfrom r) =
      some ({ s with control := .handleTimeout m (k + 1) }, s.client.sendMsg m) := by
    rw [← joining.collected.limit] at below
    exact step_resend waiting.control below timeout
  refine ⟨_, _, made, ⟨rfl, waiting.flag⟩, joining.quiet rfl ?_ rfl⟩
  rw [confirmsIn_sendMsg, carried]
  rfl

/-- An answer is no CONFIRM, and it is not empty. -/
theorem Answers.kind_cases (answers : Answers base n reply msgs) {d : Str}
    (member : d ∈ reply :: msgs) : kind d = .reply ∨ kind d = .msg := by
  rcases List.mem_cons.mp member with rfl | chat
  · exact Or.inl answers.isReply
  · exact Or.inr (answers.chat d chat).1

theorem Answers.bytesRx_pos (answers : Answers base n reply msgs) {r : Received}
    (member : r.buffer ∈ reply :: msgs) : 0 < r.bytesRx := by
  by_contra empty
  have invalid := kind_of_bytesRx (r := r) (by omega)
  rcases answers.kind_cases member with isReply | isMsg
  · rw [isReply] at invalid
    cases invalid
  · rw [isMsg] at invalid
    cases invalid

/-- An answer before the CONFIRM. -/
theorem Joining.wait (joining : Joining base n reply msgs taken s outs)
    (answers : Answers base n reply msgs) {m : UDPMessage} {k : Nat} (waiting : Waiting m k s)
    {r : Received} (member : r.buffer ∈ reply :: msgs) :
    ∃ s' out, step s (.recvfrom r) = some (s', out) ∧ Waiting m k s' ∧
      Joining base n reply msgs (taken.insert r.buffer) s' (outs ++ out) := by
  have other : ¬ s.client.Awaited m r.buffer := by
    rintro ⟨_, isConfirm, _⟩
    rcases answers.kind_cases member with isReply | isMsg
    · rw [isReply] at isConfirm
      cases isConfirm
    · rw [isMsg] at isConfirm
      cases isConfirm
  have takes := joining.collected.take answers joining.known member
  refine ⟨_, _, step_handled waiting.control (answers.bytesRx_pos member) other, ⟨?_, ?_⟩,
    joining.take member takes rfl⟩
  · show (s.client.handled r.buffer).blocked.getD _ = _
    rw [takes.returns]
    rfl
  · exact takes.flag.trans waiting.flag

/-- **The datagrams before the CONFIRM.** -/
theorem Joining.waits (port : UInt16) (joining : Joining base n reply msgs taken s outs)
    (answers : Answers base n reply msgs) {m : UDPMessage} (carried : confirmRef m.udpBuffer = none)
    {k : Nat} (waiting : Waiting m k s) {rs : List Received}
    (inside : ∀ r ∈ rs, Timeout r ∨ r.buffer ∈ reply :: msgs)
    (limit : k + rs.countP Timeout ≤ base.maxUdpRetransmission.toNat) :
    ∃ s' outs' taken' k', Drive (machine port) s (rs.map .recvfrom) s' outs' ∧ Waiting m k' s' ∧
      Joining base n reply msgs taken' s' (outs ++ outs') ∧ taken ⊆ taken' ∧
      ∀ r ∈ rs, r.buffer ∈ reply :: msgs → r.buffer ∈ taken' := by
  induction rs generalizing s outs taken k with
  | nil =>
    refine ⟨s, [], taken, k, .done, waiting, ?_, List.Subset.refl taken, fun _ none => by cases none⟩
    rw [List.append_nil]
    exact joining
  | cons r rs ih =>
    have rest : ∀ r' ∈ rs, Timeout r' ∨ r'.buffer ∈ reply :: msgs :=
      fun r' later => inside r' (List.mem_cons_of_mem r later)
    by_cases timeout : Timeout r
    · have counted : k + 1 + rs.countP Timeout ≤ base.maxUdpRetransmission.toNat := by
        rw [List.countP_cons_of_pos (by simpa using timeout)] at limit
        omega
      obtain ⟨s₁, out, made, waiting₁, joining₁⟩ :=
        joining.timeout waiting carried timeout (by omega)
      obtain ⟨s', outs', taken', k', driven, waiting', joining', grown, kept⟩ :=
        ih joining₁ waiting₁ rest counted
      refine ⟨s', out ++ outs', taken', k', .more made driven, waiting', ?_, grown, ?_⟩
      · rwa [← List.append_assoc]
      · intro r' member known
        rcases List.mem_cons.mp member with rfl | later
        · have nonempty := answers.bytesRx_pos known
          have := timeout.1
          omega
        · exact kept r' later known
    · have member := (inside r List.mem_cons_self).resolve_left timeout
      have counted : k + rs.countP Timeout ≤ base.maxUdpRetransmission.toNat := by
        rwa [List.countP_cons_of_neg (by simpa using timeout)] at limit
      obtain ⟨s₁, out, made, waiting₁, joining₁⟩ := joining.wait answers waiting member
      obtain ⟨s', outs', taken', k', driven, waiting', joining', grown, kept⟩ :=
        ih joining₁ waiting₁ rest counted
      refine ⟨s', out ++ outs', taken', k', .more made driven, waiting', ?_, ?_, ?_⟩
      · rwa [← List.append_assoc]
      · exact fun d old => grown (List.mem_insert_of_mem old)
      · intro r' member' known
        rcases List.mem_cons.mp member' with rfl | later
        · exact grown List.mem_insert_self
        · exact kept r' later known

/-- The program is in its main loop, and no CONFIRM is awaited. -/
structure Polling (s : State) : Prop where
  control : s.control = .poll
  flag : s.client.confirmMsgSent = false

/-- An answer behind the CONFIRM. -/
theorem Joining.deliver (port : UInt16) (joining : Joining base n reply msgs taken s outs)
    (answers : Answers base n reply msgs) (polling : Polling s) {delivery : Delivery}
    (member : delivery.received.buffer ∈ reply :: msgs) :
    ∃ s' out, Drive (machine port) s delivery.events s' out ∧ Polling s' ∧
      Joining base n reply msgs (taken.insert delivery.received.buffer) s' (outs ++ out) := by
  obtain ⟨socket, stdin, r, ready⟩ := delivery
  have polled : ∃ s₁, step s (.poll (.ready socket stdin)) = some (s₁, []) ∧
      s₁.control = .acceptMsg ∧ s₁.client = s.client := by
    refine ⟨(pollStep s (.ready socket stdin)).1, ?_, ?_, pollStep_client s socket stdin⟩
    · simp only [step_polling polling.control, pollStep, if_pos ready]
    · simp only [pollStep, if_pos ready]
  obtain ⟨s₁, polled, accepting, client⟩ := polled
  have recorded : Collected base n reply taken { s₁.client with serverPort := r.port } :=
    joining.collected.of_same (by rw [client])
  have shared : ¬ UDPClient.PreHandled { s₁.client with serverPort := r.port } r.buffer := by
    have isOpen : s₁.client.clientState = .openState := recorded.state
    rintro ⟨_, causes⟩
    rcases answers.kind_cases member with isReply | isMsg
    · simp [isReply, isOpen] at causes
    · simp [isMsg, isOpen] at causes
  have made := step_accept accepting (answers.bytesRx_pos member)
  rw [receiveInMain_eq_handled shared] at made
  have takes := recorded.take answers joining.known member
  refine ⟨_, _, .more polled (.more made .done), ⟨?_, ?_⟩, ?_⟩
  · show (UDPClient.handled _ r.buffer).blocked.getD _ = _
    rw [takes.returns]
    rfl
  · refine takes.flag.trans ?_
    show s₁.client.confirmMsgSent = false
    rw [client]
    exact polling.flag
  · rw [List.nil_append, List.append_nil]
    exact joining.take member takes rfl

/-- **The datagrams behind the CONFIRM.** -/
theorem Joining.delivers (port : UInt16) (joining : Joining base n reply msgs taken s outs)
    (answers : Answers base n reply msgs) (polling : Polling s) {deliveries : List Delivery}
    (inside : ∀ delivery ∈ deliveries, delivery.received.buffer ∈ reply :: msgs) :
    ∃ s' outs' taken', Drive (machine port) s (deliveries.flatMap Delivery.events) s' outs' ∧
      Polling s' ∧ Joining base n reply msgs taken' s' (outs ++ outs') ∧ taken ⊆ taken' ∧
      ∀ delivery ∈ deliveries, delivery.received.buffer ∈ taken' := by
  induction deliveries generalizing s outs taken with
  | nil =>
    refine ⟨s, [], taken, .done, polling, ?_, List.Subset.refl taken, fun _ none => by cases none⟩
    rw [List.append_nil]
    exact joining
  | cons delivery deliveries ih =>
    have rest : ∀ later ∈ deliveries, later.received.buffer ∈ reply :: msgs :=
      fun later member => inside later (List.mem_cons_of_mem delivery member)
    obtain ⟨s₁, out, driven₁, polling₁, joining₁⟩ :=
      joining.deliver port answers polling (inside delivery List.mem_cons_self)
    obtain ⟨s', outs', taken', driven, polling', joining', grown, kept⟩ := ih joining₁ polling₁ rest
    refine ⟨s', out ++ outs', taken', ?_, polling', ?_, ?_, ?_⟩
    · rw [List.flatMap_cons]
      exact driven₁.append driven
    · rwa [← List.append_assoc]
    · exact fun d old => grown (List.mem_insert_of_mem old)
    · intro later member
      rcases List.mem_cons.mp member with rfl | later
      · exact grown List.mem_insert_self
      · exact kept _ later

end Joining

/-! ### The result -/

/-- The state a JOIN is sent from: nothing has been taken, and its REPLY and its CONFIRM are awaited. -/
theorem JoinSent.collected {port : UInt16} {s : State} {m : UDPMessage} (sent : JoinSent port s m)
    (reply : Str) : Collected s.client m.messageId reply [] s.client ∧ Waiting m 0 s ∧
      confirmRef m.udpBuffer = none := by
  obtain ⟨history, before, line, out, run, contract, made, control, join⟩ := sent
  have reached := run.reachable
  have flag := Entered.flag ⟨before, _, out, reached, made, control⟩
  have carried := (repeats_run (run.next made)) m 0 control
  obtain ⟨allowed, held⟩ := (inSession_run run contract).step made fun _ => rfl
  have acts : action ⟨before, .getline (some line), s, out⟩ = .join m.messageId := by
    simp only [action, control, sentAction, join]
  rw [sessionNote, acts] at held
  refine ⟨⟨held.refines.state, ?_, ?_, ?_, rfl, rfl⟩, ⟨control, flag.1⟩, carried⟩
  · simp
  · rw [held.refines.awaited]
    rfl
  · rw [held.refines.vector]
    rfl

/-- Everything has been answered: nothing is awaited, and each answer has been displayed and confirmed
once. -/
structure AllAnswered (c : UDPClient) (answers : List Str) (s : State) (outs : List (Effect UInt16)) :
    Prop where
  control : s.control = .poll
  state : s.client.clientState = .openState
  replied : s.client.replyMsgSent = false
  unflagged : s.client.confirmMsgSent = false
  vector : s.client.replyIdVector = []
  target : s.client.aiPort = c.aiPort
  seen : ∀ id, id ∈ s.client.seenIds ↔ id ∈ c.seenIds ∨ id ∈ answers.map msgId
  displayed : (displayedIn outs).Perm (answers.map shown)
  confirmed : (confirmsIn outs).Perm (answers.map msgId)

theorem Joining.answered {base : UDPClient} {n : UInt16} {reply : Str} {msgs taken : List Str}
    {s : State} {outs : List (Effect UInt16)} (joining : Joining base n reply msgs taken s outs)
    (answers : Answers base n reply msgs) (polling : Polling s) (all : reply :: msgs ⊆ taken) :
    AllAnswered base (reply :: msgs) s outs := by
  have perm : taken.Perm (reply :: msgs) :=
    (List.perm_ext_iff_of_nodup joining.nodup answers.distinct.of_map).mpr
      fun d => ⟨fun member => joining.known member, fun member => all member⟩
  have replied : reply ∈ taken := all List.mem_cons_self
  have collected := joining.collected
  refine ⟨polling.control, collected.state, ?_, polling.flag, ?_, collected.target, ?_, ?_, ?_⟩
  · simp [collected.awaited, replied]
  · rw [collected.vector, if_pos replied]
  · intro id
    rw [collected.seen, List.mem_append, List.mem_reverse, (perm.map msgId).mem_iff]
  · rw [joining.displayed]
    exact (List.reverse_perm _).trans (perm.map shown)
  · rw [joining.confirmed]
    exact (List.reverse_perm _).trans (perm.map msgId)

/-- **The answers to a JOIN come in any order**, each at least once, the CONFIRM once, with at most as
many timeouts before it as there are retransmissions. -/
theorem join_answers {port : UInt16} {s : State} {m : UDPMessage} (sent : JoinSent port s m)
    {reply : Str} {msgs : List Str} (answers : Answers s.client m.messageId reply msgs)
    {early : List Received} {confirm : Received} {late : List Delivery}
    (inside : ∀ r ∈ early, Timeout r ∨ r.buffer ∈ reply :: msgs)
    (limit : early.countP Timeout ≤ s.client.maxUdpRetransmission.toNat)
    (confirms : Confirms confirm m.messageId)
    (behind : ∀ delivery ∈ late, delivery.received.buffer ∈ reply :: msgs)
    (complete : ∀ d ∈ reply :: msgs,
      d ∈ early.map Received.buffer ∨ d ∈ late.map (·.received.buffer)) :
    ∃ s' outs, Drive (machine port) s
        (early.map .recvfrom ++ .recvfrom confirm :: late.flatMap Delivery.events) s' outs ∧
      AllAnswered s.client (reply :: msgs) s' outs := by
  obtain ⟨collected, waiting, carried⟩ := sent.collected reply
  have joining : Joining s.client m.messageId reply msgs [] s [] :=
    ⟨collected, List.nil_subset _, .nil, rfl, rfl⟩
  obtain ⟨s₁, outs₁, taken₁, k, driven₁, waiting₁, joining₁, _, kept₁⟩ :=
    joining.waits port answers carried waiting inside (by omega)
  have made := awaited_step waiting₁.control ⟨waiting₁.flag, confirms⟩
  have joining₂ : Joining s.client m.messageId reply msgs taken₁
      { s₁ with client := { s₁.client with confirmMsgSent := false }, control := .poll }
      ([] ++ outs₁ ++ []) := joining₁.quiet rfl rfl rfl
  obtain ⟨s', outs', taken', driven', polling', joining', grown, kept'⟩ :=
    joining₂.delivers port answers ⟨rfl, rfl⟩ behind
  refine ⟨s', outs₁ ++ ([] ++ outs'), driven₁.append (.more made driven'), ?_⟩
  rw [List.append_nil] at joining'
  refine Joining.answered joining' answers polling' fun d member => ?_
  rcases complete d member with before | after
  · obtain ⟨r, received, rfl⟩ := List.mem_map.mp before
    exact grown (kept₁ r received member)
  · obtain ⟨delivery, received, rfl⟩ := List.mem_map.mp after
    exact kept' delivery received

/-- JOIN 1 has just been sent. -/
def sentJoin : State := (machine 4567).reached booted (signIn ++ typed "/join room")

theorem sentJoin_sent {m : UDPMessage} (control : sentJoin.control = .handleTimeout m 0)
    (join : m.type = .join) : JoinSent 4567 sentJoin m :=
  ⟨_, (machine 4567).reached booted (signIn ++ [stdinReady]), bytes "/join room", _,
    .reached booted_init rfl, by decide +kernel, rfl, control, join⟩

def lateReply : Delivery where
  socket := ⟨true, false⟩
  stdin := ⟨false, false⟩
  received := .datagram (replyDatagram 5 1 1) 5000 (.other 0)
  ready := rfl

/-- Both answers come before CONFIRM 1, behind a timeout, and the REPLY once more after it. -/
theorem join_answers_early : ∃ s' outs,
    Drive (machine 4567) sentJoin
      ([.failed .EAGAIN, .datagram (hiFromBob UDP_MSG 6) 5000 (.other 0),
          .datagram (replyDatagram 5 1 1) 5000 (.other 0)].map .recvfrom ++
        heardFrom 5000 (confirmDatagram 1) :: [lateReply].flatMap Delivery.events) s' outs ∧
    AllAnswered sentJoin.client [replyDatagram 5 1 1, hiFromBob UDP_MSG 6] s' outs := by
  have answers : Answers sentJoin.client 1 (replyDatagram 5 1 1) [hiFromBob UDP_MSG 6] :=
    ⟨by decide +kernel, by decide +kernel, by decide +kernel, by decide +kernel, by decide +kernel,
      by decide +kernel⟩
  refine join_answers (sentJoin_sent rfl rfl) answers ?_ ?_ ?_ ?_ ?_
  · decide +kernel
  · decide +kernel
  · exact ⟨by decide +kernel, by decide +kernel⟩
  · decide +kernel
  · decide +kernel

end UDPClient

end Ipk24Chat
