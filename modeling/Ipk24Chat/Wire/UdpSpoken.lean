/-
**What of the conversation the UDP client says.**

The client does not come back to a state it has been in, since it counts its messages and keeps the ids of
what it has heard; a word is said from every state of a kind. Each line is confirmed at once, and each request
answered by a REPLY with a new id. There are 65536 of these, so that the words are said that are no longer.

* `line_spelled`: a line of the user is sent, confirmed, and the next one can be read or the REPLY comes;
* `reply_heard`: the REPLY comes;
* `opening_sayable`, `parting_sayable`, `bye_sayable`: the parts of a conversation;
* `udp_conversations`: the language of the runs, and what is said while `poll` keeps its contract.
-/

import Ipk24Chat.Joint.UdpTurns
import Ipk24Chat.Udp.Ledger
import Ipk24Chat.Wire.UdpConversation

namespace Ipk24Chat

namespace UDPClient

open Reactive
open scoped Computability

/-! ### States in which a line is read -/

/-- The client, while `poll` keeps its contract. -/
def kept (port : UInt16) : Machine State Event (Effect UInt16) :=
  (machine port).restrict fun s e => s.client.pollCount = 1 → e.socketSilent = false

/-- The session is in this state and awaits nothing; there are ids for so many REPLYs. -/
structure Ready (state : FsmState) (left : Nat) (s : State) : Prop where
  polls : s.control = .poll
  state : s.client.clientState = state
  confirmed : s.client.confirmMsgSent = false
  answered : s.client.replyMsgSent = false
  asked : s.client.replyIdVector = []
  room : s.client.seenIds.length + left ≤ 65536

/-- A request waits for its REPLY. -/
structure Outstanding (state : FsmState) (left : Nat) (s : State) : Prop where
  begun : state ≠ .startState
  polls : s.control = .poll
  state : s.client.clientState = state
  confirmed : s.client.confirmMsgSent = false
  awaited : s.client.replyMsgSent = true
  asked : ∃ id, s.client.replyIdVector = [id]
  room : s.client.seenIds.length + left < 65536

variable (port : UInt16) {state : FsmState} {left : Nat} {s : State}

/-- A step whose input the contract says nothing about. -/
theorem kept_step {s' : State} {e : Event} {out : List (Effect UInt16)}
    (made : step s e = some (s', out)) (heard : e.socketSilent = false) :
    (kept port).step s e = some (s', out) :=
  (Machine.restrict_step (fun _ => heard)).trans made

/-- `poll` returns, and stdin is read. -/
theorem reading_drive (ready : Ready state left s) (line : Option Str) :
    ∃ s' : State, s'.client = s.client ∧
      Drive (kept port) s [stdinReady, .getline line] (getlineStep s' line).1
        (getlineStep s' line).2 := by
  have idle : s.client.pollCount = 2 := pollCount_of_idle ready.answered ready.confirmed
  let s' : State := { s with nfds := 2, revents := ⟨true, false⟩, control := .getline }
  have polled : step s stdinReady = some (s', []) := by
    rw [stdinReady, step_polling ready.polls]
    simp only [pollStep, idle, s']
    rfl
  have allowed : (kept port).step s stdinReady = some (s', []) :=
    (Machine.restrict_step fun alone => by cases idle.symm.trans alone).trans polled
  have read := kept_step port (step_reading (s := s') rfl line) rfl
  have driven : Drive (kept port) s [stdinReady, .getline line] (getlineStep s' line).1
      ([] ++ (getlineStep s' line).2) := .more allowed (.single read)
  exact ⟨s', rfl, driven⟩

/-! ### Lines -/

/-- What a line that is sent and confirmed leaves behind. -/
structure Spoken (state : FsmState) (request : Bool) (s s' : State) : Prop where
  polls : s'.control = .poll
  state : s'.client.clientState = state
  confirmed : s'.client.confirmMsgSent = false
  awaited : s'.client.replyMsgSent = request
  asked : s'.client.replyIdVector = if request then [s.client.nextId] else []
  seen : s'.client.seenIds = s.client.seenIds

/-- **A line of the user** is sent and confirmed. -/
theorem line_spelled (ready : Ready state left s) {text : Str} {r : Request}
    (taken : (command text).ready = true)
    (request : (command text).request s.client.dname text = some r)
    (admits : Admits state (command text).type = true) :
    ∃ s', [(Letter.request r).part] ∈ between (kept port) partOf s s' ∧
      Spoken state.sent (isRequest (command text).type) s s' := by
  obtain ⟨s₁, client, read⟩ := reading_drive port ready (some text)
  have typed : text ≠ [] := by
    rintro rfl
    have none : (command []).request s.client.dname [] = none := rfl
    cases none.symm.trans request
  have wire : (s.client.userMsg text).1.udpBuffer = r.udp s.client.nextId := by
    have built := UDPMessage.udpBuffer_userCmd s.client.dname text s.client.nextId
    rw [request] at built
    exact built
  have admitted : Admits (s.client.named ((command text).name s.client.dname)
      s.client.msgCounter).clientState (command text).type = true := by
    show Admits s.client.clientState _ = true
    rw [ready.state]
    exact admits
  have sent : s₁.client.userLine text = Outcome.after (printed (command text).printed)
      ((s.client.named ((command text).name s.client.dname) (s.client.msgCounter + 1)).sendUserMsg
        (s.client.userMsg text).1 (isRequest (command text).type) state.sent) := by
    rw [client, userLine_eq _ typed, if_pos taken, dispatch_eq,
      (s.client.userMsg_describes text).type taken, if_pos admitted, ← ready.state]
    rfl
  have waits : (getlineStep s₁ (some text)).1.control = .handleTimeout (s.client.userMsg text).1 0 := by
    rw [getlineStep, sent]
    rfl
  have awaited : (getlineStep s₁ (some text)).1.client.Awaited (s.client.userMsg text).1
      (confirmDatagram s.client.nextId) := by
    refine ⟨?_, kind_confirmDatagram _, (msgId_confirmDatagram _).trans (userMsg_messageId _ _).symm⟩
    rw [getlineStep, sent]
    rfl
  have confirmed := kept_step port
    (awaited_step (r := .datagram (confirmDatagram s.client.nextId) 4567 (.other 0)) waits awaited) rfl
  have spelled : (getlineStep s₁ (some text)).2.filterMap partOf = [(Letter.request r).part] := by
    show (s₁.client.userLine text).effects.filterMap partOf = _
    rw [sent, Outcome.after_effects, List.filterMap_append, partOf_printed, List.nil_append, sendUserMsg,
      Outcome.after_effects, List.filterMap_append, partOf_sendMsg, wire, contentPart_request]
    rfl
  refine ⟨_, ⟨_, _, .append read (.single confirmed), ?_⟩, rfl, ?_, rfl, ?_, ?_, ?_⟩
  · rw [List.append_nil]
    exact spelled
  · rw [getlineStep, sent]
    rfl
  · rw [getlineStep, sent]
    show (isRequest (command text).type || s.client.replyMsgSent) = _
    rw [ready.answered, Bool.or_false]
  · rw [getlineStep, sent]
    show (if isRequest (command text).type then
      s.client.replyIdVector ++ [(s.client.userMsg text).1.messageId] else s.client.replyIdVector) = _
    rw [ready.asked, userMsg_messageId]
    rfl
  · rw [getlineStep, sent]
    rfl

/-- A request that has been sent waits for its REPLY. -/
theorem Spoken.outstanding {s' : State} (spoken : Spoken state true s s') (begun : state ≠ .startState)
    (room : s.client.seenIds.length + left < 65536) : Outstanding state left s' :=
  ⟨begun, spoken.polls, spoken.state, spoken.confirmed, spoken.awaited, ⟨_, spoken.asked⟩,
    by rw [spoken.seen]; exact room⟩

/-- **AUTH** begins the session. -/
theorem auth_sayable (closed : state ≠ .openState) :
    {[.auth]} ≤ sayable (kept port) partOf (Ready state) (Outstanding .authState) := by
  have auth : command (bytes "/auth u s d") = .auth (bytes "u") (bytes "s") (bytes "d") := by
    decide +kernel
  have admits : Admits state .auth = true := by
    cases state with
    | openState => exact absurd rfl closed
    | startState => rfl
    | authState => rfl
  have sent : state.sent = .authState := by
    cases state with
    | openState => exact absurd rfl closed
    | startState => rfl
    | authState => rfl
  rintro _ rfl left s ready
  have request : (command (bytes "/auth u s d")).request s.client.dname (bytes "/auth u s d") =
      some (.auth (bytes "u") (bytes "d") (bytes "s")) := by
    rw [auth]
    rfl
  obtain ⟨s', spelled, spoken⟩ := line_spelled port ready (by rw [auth]; rfl) request
    (by rw [auth]; exact admits)
  rw [auth, sent] at spoken
  exact ⟨s', spoken.outstanding (by decide) ready.room, spelled⟩

theorem join_sayable : {[.join]} ≤ sayable (kept port) partOf (Ready .openState) (Outstanding .openState) := by
  have join : command (bytes "/join c") = .join (bytes "c") := by decide +kernel
  rintro _ rfl left s ready
  have request : (command (bytes "/join c")).request s.client.dname (bytes "/join c") =
      some (.join (bytes "c") s.client.dname) := by
    rw [join]
    rfl
  obtain ⟨s', spelled, spoken⟩ := line_spelled port ready (by rw [join]; rfl) request
    (by rw [join]; rfl)
  rw [join] at spoken
  exact ⟨s', spoken.outstanding (by decide) ready.room, spelled⟩

theorem msg_sayable : {[.msg]} ≤ sayable (kept port) partOf (Ready .openState) (Ready .openState) := by
  have text : command (bytes "hello") = .text := by decide +kernel
  rintro _ rfl left s ready
  have request : (command (bytes "hello")).request s.client.dname (bytes "hello") =
      some (.msg s.client.dname (bytes "hello")) := by
    rw [text]
    rfl
  obtain ⟨s', spelled, spoken⟩ := line_spelled port ready (by rw [text]; rfl) request
    (by rw [text]; rfl)
  rw [text] at spoken
  have room := ready.room
  refine ⟨s', ⟨spoken.polls, spoken.state, spoken.confirmed, spoken.awaited, spoken.asked, ?_⟩, spelled⟩
  rw [spoken.seen]
  omega

/-! ### Datagrams -/

/-- A datagram is received in the main loop. -/
theorem hearing_drive (polls : s.control = .poll) (r : Received) (nonempty : 0 < r.bytesRx) :
    ∃ s' : State, s'.client = { s.client with serverPort := r.port } ∧
      Drive (kept port) s [socketReady, .recvfrom r]
        (s'.resume .poll (s'.client.receiveInMain r.buffer)).1
        (s'.client.receiveInMain r.buffer).effects := by
  let heard : UDPClient := { s.client with serverPort := r.port }
  have polled : ∃ s₁ : State, step s socketReady = some (s₁, []) ∧ s₁.client = s.client ∧
      s₁.control = .acceptMsg := by
    rw [socketReady, step_polling polls]
    exact ⟨_, rfl, rfl, rfl⟩
  obtain ⟨s₁, polled, client, accepts⟩ := polled
  have received : step s₁ (.recvfrom r) =
      some (s₁.resume .poll (UDPClient.receiveInMain { s₁.client with serverPort := r.port } r.buffer)) :=
    step_accept accepts nonempty
  rw [client] at received
  have driven : Drive (kept port) s [socketReady, .recvfrom r]
      (s₁.resume .poll (heard.receiveInMain r.buffer)).1
      ([] ++ (heard.receiveInMain r.buffer).effects) :=
    .more (kept_step port polled rfl) (.single (kept_step port received rfl))
  exact ⟨{ s₁ with client := heard }, rfl, driven⟩

/-- There is an id that has not been seen. -/
theorem exists_unseen {ids : List UInt16} (room : ids.length < 65536) : ∃ id, id ∉ ids := by
  by_contra full
  push Not at full
  have all : (ids.map UInt16.toFin).toFinset = Finset.univ := by
    refine Finset.eq_univ_iff_forall.mpr fun n => ?_
    rw [List.mem_toFinset]
    exact List.mem_map.mpr ⟨UInt16.ofFin n, full _, rfl⟩
  have count := List.toFinset_card_le (ids.map UInt16.toFin)
  rw [all, Finset.card_univ, Fintype.card_fin, List.length_map] at count
  exact absurd room (Nat.not_lt.mpr count)

/-- **The REPLY comes**, with an id that is new; the session is open unless an AUTH has been refused. -/
theorem reply_heard (waits : Outstanding state left s) (result : UInt8) :
    ∃ s', Ready (if state = .authState ∧ result = 0 then .authState else .openState) left s' ∧
      [] ∈ between (kept port) partOf s s' := by
  have room : s.client.seenIds.length < 65536 :=
    Nat.lt_of_le_of_lt (Nat.le_add_right _ left) waits.room
  obtain ⟨id, unseen⟩ := exists_unseen room
  obtain ⟨asked, ids⟩ := waits.asked
  obtain ⟨d, reply, length, ref, code, own⟩ : ∃ d, kind d = .reply ∧ d.length = 8 ∧
      replyRef d = asked ∧ d.getD 3 0 = result ∧ msgId d = id :=
    ⟨replyLayout id result asked [chr 'y'], kind_layout UDP_REPLY id _,
      length_replyLayout id result asked [chr 'y'], replyRef_replyLayout id result asked [chr 'y'],
      result_replyLayout id result asked [chr 'y'], msgId_layout UDP_REPLY id _⟩
  have whole : d.take BUFFER_SIZE = d := List.take_of_length_le (by rw [length]; decide)
  have nonempty : 0 < (Received.datagram d 5000 (.other 0)).bytesRx := by
    show (0 : Int) < ((d.take BUFFER_SIZE).length : Nat)
    rw [whole, length]
    decide
  obtain ⟨s', client, driven⟩ := hearing_drive port waits.polls (.datagram d 5000 (.other 0)) nonempty
  rw [show (Received.datagram d 5000 (.other 0)).buffer = d from whole] at driven
  have begun : s'.client.clientState ≠ .startState := by
    rw [client]
    show s.client.clientState ≠ _
    rw [waits.state]
    exact waits.begun
  have fresh : ¬ s'.client.Seen d := by
    rintro ⟨_, seen⟩
    rw [own, client] at seen
    exact unseen seen
  have answered : s'.client.answered d = true := by
    rw [client]
    simp [UDPClient.answered, waits.awaited, ids, frontId, ref]
  have outcome := (receiveInMain_handled s'.client d).of_reply fresh reply (by rw [length]) begun
  rw [outcome] at driven
  have room := waits.room
  refine ⟨_, ⟨rfl, ?_, ?_, ?_, ?_, ?_⟩, _, _, driven, partOf_repliedEffects s'.client d⟩
  · show (if s'.client.answered d then
      (if s'.client.clientState = .authState ∧ replyType d = .replyNok then .authState else .openState)
      else s'.client.clientState) = _
    have current : s'.client.clientState = state := by
      rw [client]
      exact waits.state
    simp only [if_pos answered, replyType_nok_iff, code, current, decide_eq_false_iff_not, not_not]
  · show s'.client.confirmMsgSent = false
    rw [client]
    exact waits.confirmed
  · show (s'.client.replyMsgSent && !s'.client.answered d) = false
    rw [answered, Bool.not_true, Bool.and_false]
  · show (if s'.client.answered d then s'.client.replyIdVector.tail else _) = []
    rw [if_pos answered, client, ids]
    rfl
  · show (s'.client.seenIds ++ [msgId d]).length + left ≤ 65536
    rw [client, List.length_append, List.length_singleton]
    show s.client.seenIds.length + 1 + left ≤ 65536
    omega

/-- The session is opened, or kept open. -/
theorem accepted_sayable :
    1 ≤ sayable (kept port) partOf (Outstanding state) (Ready .openState) := by
  rintro _ rfl left s waits
  obtain ⟨s', ready, silent⟩ := reply_heard port waits 1
  rw [if_neg fun refused => absurd refused.2 (by decide)] at ready
  exact ⟨s', ready, silent⟩

/-- An AUTH is refused. -/
theorem refused_sayable :
    1 ≤ sayable (kept port) partOf (Outstanding .authState) (Ready .authState) := by
  rintro _ rfl left s waits
  obtain ⟨s', ready, silent⟩ := reply_heard port waits 0
  exact ⟨s', ready, silent⟩

/-- **The session is opened** by AUTHs of which the last is accepted, and then there are JOINs and MSGs. -/
theorem opening_sayable :
    opening .openState ≤ sayable (kept port) partOf (Ready .startState) (Ready .openState) := by
  have again : {[.auth]} ≤ sayable (kept port) partOf (Outstanding .authState) (Outstanding .authState) :=
    calc ({[.auth]} : Language Part) = 1 * {[.auth]} := (one_mul _).symm
      _ ≤ _ := (mul_le_mul' (refused_sayable port) (auth_sayable port (by decide))).trans sayable_mul
  have join : {[.join]} ≤ sayable (kept port) partOf (Ready .openState) (Ready .openState) :=
    calc ({[.join]} : Language Part) = {[.join]} * 1 := (mul_one _).symm
      _ ≤ _ := (mul_le_mul' (join_sayable port) (accepted_sayable port)).trans sayable_mul
  calc opening .openState = {[.auth]} * {[.auth]}∗ * 1 * ({[.join]} + {[.msg]})∗ := by
        rw [mul_one]
        rfl
    _ ≤ sayable (kept port) partOf (Ready .startState) (Outstanding .authState) *
          sayable (kept port) partOf (Outstanding .authState) (Outstanding .authState) *
          sayable (kept port) partOf (Outstanding .authState) (Ready .openState) *
          sayable (kept port) partOf (Ready .openState) (Ready .openState) :=
      mul_le_mul' (mul_le_mul' (mul_le_mul' (auth_sayable port (by decide)) (kstar_le_sayable again))
        (accepted_sayable port)) (kstar_le_sayable (sup_le join (msg_sayable port)))
    _ ≤ sayable (kept port) partOf (Ready .startState) (Ready .openState) :=
      (mul_le_mul' ((mul_le_mul' sayable_mul le_rfl).trans sayable_mul) le_rfl).trans sayable_mul

/-! ### Leaving -/

/-- A BYE has been said because of a failure, in this state of the session. -/
structure Departing (state : FsmState) (_ : Nat) (s : State) : Prop where
  leaves : s.control = .exitProgram 0 .failure
  state : s.client.clientState = state

/-- **The client leaves** at the end of the input, or behind a datagram of no known type. -/
theorem parting_sayable (state : FsmState) :
    (1 + {[.err]}) * {[.bye]} ≤ sayable (kept port) partOf (Ready state) (Departing state) := by
  rw [add_mul, one_mul]
  refine sup_le ?_ ?_
  · rintro _ rfl left s ready
    obtain ⟨s', client, driven⟩ := reading_drive port ready none
    refine ⟨_, ⟨rfl, ?_⟩, _, _, driven, rfl⟩
    show s'.client.clientState = state
    rw [client]
    exact ready.state
  · rintro _ ⟨_, rfl, _, rfl, rfl⟩ left s ready
    obtain ⟨s', client, driven⟩ := hearing_drive port ready.polls
      (.datagram [119, 0, 0] 5000 (.other 0)) (by decide)
    rw [show (Received.datagram [119, 0, 0] 5000 (.other 0)).buffer = [119, 0, 0] from rfl] at driven
    have invalid : kind [119, 0, 0] = .invalid := by decide
    have early : s'.client.PreHandled [119, 0, 0] := by
      refine ⟨?_, Or.inr (Or.inl invalid)⟩
      rintro ⟨numbered, _⟩
      rw [invalid] at numbered
      cases numbered
    obtain ⟨id, lines, rejects⟩ := preHandle_rejects early (by rw [invalid]; decide)
    have outcome := receiveInMain_eq_preHandle early
    rw [rejects] at outcome
    have leaves : (s'.client.receiveInMain [119, 0, 0]).blocked = some (.exitProgram 0 .failure) := by
      rw [outcome]
      rfl
    have stays : (s'.client.receiveInMain [119, 0, 0]).client.clientState = state := by
      rw [outcome]
      show s'.client.clientState = state
      rw [client]
      exact ready.state
    refine ⟨_, ?_, _, _, driven, ?_⟩
    · refine ⟨?_, stays⟩
      show (s'.client.receiveInMain [119, 0, 0]).blocked.getD .poll = _
      rw [leaves]
      rfl
    · show (s'.client.receiveInMain [119, 0, 0]).effects.filterMap partOf = _
      rw [outcome, Outcome.after_effects, List.filterMap_append, partOf_printed, Outcome.after_effects,
        List.filterMap_append, partOf_printed, Outcome.after_effects, List.filterMap_append,
        partOf_confirm]
      rfl

/-- A SIGINT on the way out says the BYE once more. -/
theorem bye_sayable (begun : state ≠ .startState) :
    {[.bye]} ≤ sayable (kept port) partOf (Departing state) fun _ _ => True := by
  rintro _ rfl left s departs
  have free : s.control.interruptible = true := by
    rw [departs.leaves]
    rfl
  have graceful : s.client.gracefulExit = s.client.exitProgram true .success :=
    if_neg (by rw [departs.state]; exact begun)
  have interrupted := step_interrupted free
  rw [graceful] at interrupted
  exact ⟨_, trivial, _, _, .single (kept_step port interrupted rfl), rfl⟩

/-! ### The conversation -/

theorem sayable_forget {P Q : Nat → State → Prop} :
    sayable (kept port) partOf P Q ≤ sayable (kept port) partOf P fun _ _ => True := by
  intro word leads left s kind
  obtain ⟨s', _, spelled⟩ := leads left s kind
  exact ⟨s', trivial, spelled⟩

/-- **Everything of it** can be said, as long as there are ids. -/
theorem conversation_sayable :
    conversation ≤ sayable (kept port) partOf (Ready .startState) fun _ _ => True := by
  have silent : 1 ≤ sayable (kept port) partOf (Ready .startState) fun _ _ => True :=
    one_le_sayable.trans (sayable_forget port)
  have left : (1 + {[.err]}) * {[.bye]} * (1 + {[.bye]}) ≤
      sayable (kept port) partOf (Ready .openState) fun _ _ => True := by
    rw [mul_add, mul_one]
    refine sup_le ((parting_sayable port .openState).trans (sayable_forget port)) ?_
    exact (mul_le_mul' (parting_sayable port .openState) (bye_sayable port (by decide))).trans sayable_mul
  refine sup_le (sup_le silent ((parting_sayable port .startState).trans (sayable_forget port))) ?_
  show opening .openState * (1 + (1 + {[.err]}) * {[.bye]} * (1 + {[.bye]})) ≤ _
  rw [mul_add, mul_one]
  exact sup_le ((opening_sayable port).trans (sayable_forget port))
    ((mul_le_mul' (opening_sayable port) left).trans sayable_mul)

/-- **The UDP client says the words of the conversation** and nothing else, and every word of them with no
more messages than there are ids is said in a run in which `poll` keeps its contract. -/
theorem udp_conversations : spoken (machine port) partOf ≤ 1 + (1 + {[.err]}) * {[.bye]} +
      {[.auth]} * {[.auth]}∗ * ({[.join]} + {[.msg]})∗ * (1 + (1 + {[.err]}) * {[.bye]} * (1 + {[.bye]})) ∧
    ∀ word ∈ (1 + (1 + {[.err]}) * {[.bye]} + {[.auth]} * {[.auth]}∗ * ({[.join]} + {[.msg]})∗ *
        (1 + (1 + {[.err]}) * {[.bye]} * (1 + {[.bye]})) : Language Part),
      word.length ≤ 65536 → ∃ history s, Run (machine port) history s ∧
        (∀ t ∈ history, PollContract t) ∧ (history.flatMap Transition.out).filterMap partOf = word := by
  refine ⟨conversation_bounded port, fun word inside short => ?_⟩
  have initial : (kept port).init (start port 3 ⟨true, false⟩) := ⟨3, ⟨true, false⟩, rfl⟩
  have enough : Ready .startState word.length (start port 3 ⟨true, false⟩) :=
    ⟨rfl, rfl, rfl, rfl, rfl, by simpa [start, new] using short⟩
  obtain ⟨history, s, run, spelled⟩ :=
    mem_spoken_of_sayable (conversation_sayable port inside) initial enough
  obtain ⟨run, contract⟩ := run.of_restrict
  exact ⟨history, s, run, contract, spelled⟩

end UDPClient

end Ipk24Chat
