/-
**The ids of the messages sent are strictly increasing**, wherever a `SIGINT` comes.

A step of the interruptible machine is a passage up to some point, with or without `graceful_exit`
behind it; at every point what has been sent has advanced with the counter.

* `momentStep_numbers`: what one step does to the numbers;
* `ids_increase`: the ids of first transmissions increase strictly, and a retransmission repeats one of
  them byte for byte.
-/

import Ipk24Chat.Udp.Counting
import Ipk24Chat.Udp.Paths
import Mathlib.Data.List.Nodup

namespace Ipk24Chat

namespace UDPClient

open Reactive

/-! ### What a step sends -/

/-- The numbered datagrams of a step: sent for the first time, or sent again. -/
def transmitted (again : Bool) (out : List Mark) : List Str :=
  numberedIn ((out.filter (·.again == again)).map Mark.effect)

@[simp] theorem transmitted_append (again : Bool) (first second : List Mark) :
    transmitted again (first ++ second) = transmitted again first ++ transmitted again second := by
  simp [transmitted]

theorem transmitted_marked (again : Bool) (effects : List (Effect UInt16)) :
    transmitted again (marked again effects) = numberedIn effects := by
  simp [transmitted, marked, List.filter_map, Function.comp_def]

theorem transmitted_marked_not (again : Bool) (effects : List (Effect UInt16)) :
    transmitted again (marked (!again) effects) = [] := by
  simp [transmitted, marked, List.filter_map, Function.comp_def]

/-- The first transmissions of a step. -/
def firsts (t : Transition State Moment Mark) : List Str := transmitted false t.out

/-- The retransmissions of a step. -/
def repeats (t : Transition State Moment Mark) : List Str := transmitted true t.out

/-- What is sent while the counter moves: its ids increase from the old counter on, and stay below the
new one unless the program is leaving. -/
structure Advances (c c' : UDPClient) (leaves : Bool) (sent : List Str) : Prop where
  increasing : (sent.map msgId).Pairwise (· < ·)
  counter : c.msgCounter ≤ c'.msgCounter
  above : ∀ d ∈ sent, c.msgCounter ≤ (msgId d).toNat
  below : leaves = false → ∀ d ∈ sent, (msgId d).toNat < c'.msgCounter

theorem Advances.silent {c c' : UDPClient} (counter : c.msgCounter ≤ c'.msgCounter)
    (leaves : Bool) : Advances c c' leaves [] where
  increasing := .nil
  counter := counter
  above := fun _ member => absurd member List.not_mem_nil
  below := fun _ _ member => absurd member List.not_mem_nil

theorem Counted.advances {c : UDPClient} {p : Point} (counted : Counted c p)
    (bound : p.1.msgCounter < 65536) (leaves : Bool) : Advances c p.1 leaves (numberedIn p.2) := by
  rcases counted with ⟨counter, silent⟩ | ⟨counter, silent | ⟨d, sent, id⟩⟩
  · rw [silent]
    exact .silent (by omega) leaves
  · rw [silent]
    exact .silent (by omega) leaves
  · have number : (msgId d).toNat = c.msgCounter := by
      rw [id, nextId_toNat (by omega)]
    rw [sent]
    refine ⟨List.pairwise_singleton _ _, by omega, ?_, fun _ => ?_⟩
    · intro d' member
      rw [List.mem_singleton.mp member]
      omega
    · intro d' member
      rw [List.mem_singleton.mp member]
      omega

theorem exitProgram_client (c : UDPClient) (sendBye : Bool) (ret : ExitCode) :
    (c.exitProgram sendBye ret).client = c := by
  cases sendBye <;> rfl

/-- The BYE has the number of the counter. -/
theorem exitProgram_numbered (c : UDPClient) (sendBye : Bool) (ret : ExitCode) :
    numberedIn (c.exitProgram sendBye ret).effects = [] ∨
      ∃ d, numberedIn (c.exitProgram sendBye ret).effects = [d] ∧ msgId d = c.nextId := by
  cases sendBye with
  | false => exact Or.inl rfl
  | true => exact Or.inr ⟨_, (byeMsg_numbered c).sent c, (byeMsg_numbered c).msgId⟩

/-- **The program leaves**: the BYE comes last. -/
theorem Advances.leave {c c' : UDPClient} {sent : List Str} (advances : Advances c c' false sent)
    (bound : c'.msgCounter < 65536) (sendBye : Bool) (ret : ExitCode) :
    Advances c c' true (sent ++ numberedIn (c'.exitProgram sendBye ret).effects) := by
  rcases exitProgram_numbered c' sendBye ret with silent | ⟨bye, sent', id⟩
  · rw [silent, List.append_nil]
    exact ⟨advances.increasing, advances.counter, advances.above, fun left => by cases left⟩
  · have number : (msgId bye).toNat = c'.msgCounter := by rw [id, nextId_toNat bound]
    rw [sent']
    refine ⟨?_, advances.counter, ?_, fun left => by cases left⟩
    · rw [List.map_append, List.pairwise_append]
      refine ⟨advances.increasing, List.pairwise_singleton _ _, ?_⟩
      intro first earlier last isBye
      obtain ⟨d, member, rfl⟩ := List.mem_map.mp earlier
      obtain rfl : last = msgId bye := by simpa using isBye
      rw [UInt16.lt_iff_toNat_lt, number]
      exact advances.below rfl d member
    · intro d member
      rcases List.mem_append.mp member with member | member
      · exact advances.above d member
      · rw [List.mem_singleton.mp member, number]
        exact advances.counter

/-- The end of a passage that counts. -/
theorem Closes.advances {c : UDPClient} {o : Outcome} (closes : Closes Counted c o)
    (bound : o.client.msgCounter < 65536) (back : Control) :
    Advances c o.client (o.blocked.getD back).leaving (numberedIn o.effects) := by
  cases closes with
  | returns _ counted => exact counted.advances bound _
  | waits _ counted _ => exact counted.advances bound _
  | leaves sendBye ret counted =>
    rename_i c' effects
    have same : ((c'.exitProgram sendBye ret).after effects).client = c' :=
      exitProgram_client c' sendBye ret
    obtain ⟨k, blocked, left⟩ := (exitProgram_leaving c' sendBye ret).blocked
    rw [same] at bound ⊢
    rw [Outcome.after_blocked, blocked, Option.getD_some, left, Outcome.after_effects,
      numberedIn_append]
    exact (counted.advances bound false).leave bound sendBye ret

/-- `graceful_exit` is `exit_program`. -/
theorem gracefulExit_exits (c : UDPClient) : ∃ sendBye, c.gracefulExit = c.exitProgram sendBye .success := by
  unfold gracefulExit
  split
  · exact ⟨false, rfl⟩
  · exact ⟨true, rfl⟩

/-! ### The steps -/

/-- What is sent first of the effects that one event has led to. -/
theorem firsts_of_passage {s : State} {e : Event} {effects : List (Effect UInt16)} :
    transmitted false (marked (retransmits s e) effects) =
      if retransmits s e then [] else numberedIn effects := by
  cases retransmits s e with
  | false => exact transmitted_marked false effects
  | true => exact transmitted_marked_not false effects

/-- **At every point of a passage** the ids sent have advanced with the counter. -/
theorem point_advances {s : State} {e : Event} {p : Passage} {point : Point}
    (passes : passage s e = some p) (member : point ∈ (s.client, []) :: p.points)
    (bound : point.1.msgCounter < 65536) :
    Advances s.client point.1 false (transmitted false (marked (retransmits s e) point.2)) := by
  rw [firsts_of_passage]
  cases again : retransmits s e with
  | false =>
    rcases List.mem_cons.mp member with rfl | member
    · exact .silent le_rfl false
    · exact ((passage_counted passes again).points point member).advances bound false
  | true =>
    obtain ⟨m, k, _, rfl⟩ := passage_again passes again
    have client : point.1 = s.client := by
      rcases List.mem_cons.mp member with rfl | member
      · rfl
      · rw [List.mem_singleton.mp (show point ∈ [(s.client, s.client.sendMsg m)] from member)]
    rw [client]
    exact .silent le_rfl false

/-- **At its end** too. -/
theorem outcome_advances {s : State} {e : Event} {p : Passage} (passes : passage s e = some p)
    (bound : p.outcome.client.msgCounter < 65536) (back : Control) :
    Advances s.client p.outcome.client (p.outcome.blocked.getD back).leaving
      (transmitted false (marked (retransmits s e) p.outcome.effects)) := by
  rw [firsts_of_passage]
  cases again : retransmits s e with
  | false => exact (passage_counted passes again).outcome.advances bound back
  | true =>
    obtain ⟨m, k, _, rfl⟩ := passage_again passes again
    exact .silent le_rfl _

/-- A step from a blocking call before the exit: a `SIGINT`, or a passage. -/
theorem passage_of_step {s s' : State} {e : Event} {out : List (Effect UInt16)}
    (made : step s e = some (s', out)) (staying : s.control.leaving = false) (other : e ≠ .sigint) :
    ∃ p, passage s e = some p := by
  unfold passage
  cases step_calls made with
  | gracefulExit => exact absurd rfl other
  | pollStep polling => exact ⟨_, by rw [polling]⟩
  | acceptStep accepting => exact ⟨_, by rw [accepting]⟩
  | getlineStep reading => exact ⟨_, by rw [reading]⟩
  | timeoutStep waiting => exact ⟨_, by rw [waiting]⟩
  | byeStep leaving =>
    rw [leaving] at staying
    cases staying

theorem leaving_silent {s s' : State} {e : Event} {out : List (Effect UInt16)}
    (made : step s e = some (s', out)) (leaving : s.control.leaving = true) (other : e ≠ .sigint) :
    numberedIn out = [] := by
  cases step_calls made with
  | gracefulExit => exact absurd rfl other
  | @byeStep k ret r _ _ _ made =>
    obtain ⟨_, notices, _, spec⟩ := byeStep_spec s k ret r
    cases made.symm.trans spec
    exact numberedIn_printed _
  | _ control _ => rw [control] at leaving; cases leaving

/-- `graceful_exit` behind a point. -/
theorem gracefulExit_advances {c c' : UDPClient} {out : List Mark}
    (advances : Advances c c' false (transmitted false out)) (bound : c'.msgCounter < 65536) :
    Advances c c'.gracefulExit.client true
      (transmitted false (out ++ marked false c'.gracefulExit.effects)) := by
  obtain ⟨sendBye, exits⟩ := gracefulExit_exits c'
  rw [exits, exitProgram_client, transmitted_append, transmitted_marked]
  exact advances.leave bound sendBye .success

theorem gracefulExit_client (c : UDPClient) : c.gracefulExit.client = c := by
  obtain ⟨sendBye, exits⟩ := gracefulExit_exits c
  rw [exits, exitProgram_client]

/-- What is sent again among the effects of a passage is the message waited for. -/
theorem repeats_of_passage {s : State} {e : Event} {effects : List (Effect UInt16)}
    (shown : retransmits s e = true →
      effects = [] ∨ ∃ m k, s.control = .handleTimeout m k ∧ effects = s.client.sendMsg m) :
    ∀ d ∈ transmitted true (marked (retransmits s e) effects),
      d ≠ [] ∧ ∃ m k, s.control = .handleTimeout m k ∧ d = m.udpBuffer := by
  intro d member
  cases again : retransmits s e with
  | false =>
    rw [again, show marked false effects = marked (!true) effects from rfl,
      transmitted_marked_not] at member
    cases member
  | true =>
    rw [again, transmitted_marked] at member
    rcases shown again with rfl | ⟨m, k, control, rfl⟩
    · cases member
    · rw [numberedIn_sendMsg] at member
      split at member
      · cases member
      · rename_i numbered
        rw [List.mem_singleton.mp member]
        exact ⟨fun empty => numbered (Or.inl empty), m, k, control, rfl⟩

/-- **What one step does to the numbers.** -/
structure Numbers (s s' : State) (out : List Mark) : Prop where
  advances : s.control.leaving = false → s'.client.msgCounter < 65536 →
    Advances s.client s'.client s'.control.leaving (transmitted false out)
  silent : s.control.leaving = true → s'.control.leaving = true ∧ transmitted false out = []
  again : ∀ d ∈ transmitted true out,
    d ≠ [] ∧ ∃ m k, s.control = .handleTimeout m k ∧ d = m.udpBuffer
  waits : ∀ m k, s'.control = .handleTimeout m k →
    (∃ k', s.control = .handleTimeout m k') ∨ m.udpBuffer = [] ∨ m.udpBuffer ∈ transmitted false out

/-- A step of a program that is leaving. -/
theorem leaving_numbers {s s' : State} {e : Event} {out : List (Effect UInt16)}
    (made : step s e = some (s', out)) (leaving : s.control.leaving = true) (other : e ≠ .sigint) :
    Numbers s s' (marked (retransmits s e) out) := by
  have quiet := leaving_silent made leaving other
  have left := leaving_step made leaving
  have nothing : ∀ b b', transmitted b (marked b' out) = [] := by
    intro b b'
    by_cases same : b' = b
    · rw [same, transmitted_marked, quiet]
    · rw [Bool.eq_not.mpr same]
      exact transmitted_marked_not b out
  refine ⟨fun staying => ?_, fun _ => ⟨left, nothing _ _⟩, ?_, fun m k waits => ?_⟩
  · rw [leaving] at staying
    cases staying
  · rw [nothing]
    exact fun _ member => absurd member List.not_mem_nil
  · rw [waits] at left
    cases left

/-- A passage to its end. -/
theorem passage_numbers {s s' : State} {e : Event} {p : Passage}
    (made : step s e = some (s', p.outcome.effects)) (staying : s.control.leaving = false)
    (passes : passage s e = some p) : Numbers s s' (marked (retransmits s e) p.outcome.effects) := by
  obtain ⟨s'', back, made', client, control, resumes⟩ := passage_step passes
  obtain rfl : s'' = s' := by simpa [made] using made'.symm
  refine ⟨fun _ bound => ?_, fun left => ?_, ?_, fun m k waits => ?_⟩
  · rw [client] at bound ⊢
    rw [control]
    exact outcome_advances passes bound back
  · rw [staying] at left
    cases left
  · refine repeats_of_passage fun again => ?_
    obtain ⟨m, k, waits, rfl⟩ := passage_again passes again
    exact Or.inr ⟨m, k, waits, rfl⟩
  · rw [control] at waits
    cases again : retransmits s e with
    | true =>
      obtain ⟨m', k', _, rfl⟩ := passage_again passes again
      exact Or.inl (resumes m k waits)
    | false =>
      rw [transmitted_marked]
      have closes := (passage_counted passes again).outcome
      generalize p.outcome = o at closes waits
      cases closes with
      | returns returned _ =>
        rw [returned] at waits
        exact Or.inl (resumes m k waits)
      | leaves sendBye ret _ =>
        obtain ⟨k', blocked, left⟩ := (exitProgram_leaving ‹UDPClient› sendBye ret).blocked
        rw [Outcome.after_blocked, blocked, Option.getD_some] at waits
        rw [waits] at left
        cases left
      | waits m' _ sent =>
        cases waits
        exact Or.inr (sent.imp_right fun sent => by rw [sent]; exact List.mem_singleton_self _)

/-- A `SIGINT` behind what has been sent so far. -/
theorem interrupted_numbers {s : State} {c : UDPClient} {out : List Mark}
    (staying : s.control.leaving = false)
    (advances : c.msgCounter < 65536 → Advances s.client c false (transmitted false out))
    (again : ∀ d ∈ transmitted true out,
      d ≠ [] ∧ ∃ m k, s.control = .handleTimeout m k ∧ d = m.udpBuffer) :
    Numbers s (s.resume .poll c.gracefulExit).1 (out ++ marked false c.gracefulExit.effects) := by
  obtain ⟨k, blocked, left⟩ := (gracefulExit_leaving c).blocked
  have control : (s.resume .poll c.gracefulExit).1.control = k := by
    show c.gracefulExit.blocked.getD .poll = k
    rw [blocked, Option.getD_some]
  have client : (s.resume .poll c.gracefulExit).1.client = c := gracefulExit_client c
  refine ⟨fun _ bound => ?_, fun leaving => ?_, ?_, fun m k' waits => ?_⟩
  · rw [client] at bound
    rw [control, left]
    exact gracefulExit_advances (advances bound) bound
  · rw [staying] at leaving
    cases leaving
  · rw [transmitted_append, show marked false c.gracefulExit.effects =
      marked (!true) c.gracefulExit.effects from rfl, transmitted_marked_not, List.append_nil]
    exact again
  · rw [control] at waits
    rw [waits] at left
    cases left

/-- A step of the machine is one; a `SIGINT` does not come in `exit_program`. -/
theorem momentStep_whole {s s' : State} {e : Event} {out : List Mark}
    (made : momentStep s (.whole e) = some (s', out)) :
    ∃ effects, step s e = some (s', effects) ∧ out = marked (retransmits s e) effects ∧
      (e = .sigint → s.control.leaving = false) := by
  unfold momentStep at made
  simp only at made
  split at made
  · cases made
  · rename_i outside
    simp only [Option.map_eq_some_iff, Prod.mk.injEq] at made
    obtain ⟨⟨s₁, effects⟩, made, rfl, rfl⟩ := made
    refine ⟨effects, made, rfl, ?_⟩
    rintro rfl
    cases step_calls made with
    | gracefulExit free => cases control : s.control with
      | exitProgram k ret => exact absurd rfl (outside k ret control)
      | exited ret =>
        rw [control] at free
        cases free
      | _ => rfl

/-- A `SIGINT` at a blocking call. -/
theorem sigint_numbers {s s' : State} {effects : List (Effect UInt16)}
    (made : step s .sigint = some (s', effects)) (staying : s.control.leaving = false) :
    Numbers s s' (marked (retransmits s .sigint) effects) := by
  have exits := step_interrupted (Control.interruptible_of_staying staying)
  have once : retransmits s .sigint = false := by
    unfold retransmits
    split
    · rename_i other
      cases other
    · rfl
  rw [exits] at made
  cases made
  rw [once]
  have nothing : s.client.msgCounter < 65536 →
      Advances s.client s.client false (transmitted false []) := fun _ => .silent le_rfl false
  exact interrupted_numbers staying nothing fun _ member => absurd member List.not_mem_nil

/-- **Every step of the interruptible machine.** -/
theorem momentStep_numbers {s s' : State} {moment : Moment} {out : List Mark}
    (made : momentStep s moment = some (s', out)) : Numbers s s' out := by
  cases moment with
  | within e statements =>
    unfold momentStep at made
    cases passes : passage s e with
    | none => simp [passes] at made
    | some p =>
      simp only [passes, Option.map_eq_some_iff, Prod.mk.injEq] at made
      obtain ⟨point, reached, rfl, rfl⟩ := made
      have member := List.mem_of_getElem? reached
      have staying : s.control.leaving = false := by
        unfold passage at passes
        cases control : s.control with
        | exitProgram => simp [control] at passes
        | exited => simp [control] at passes
        | _ => rfl
      refine interrupted_numbers staying (point_advances passes member) ?_
      refine repeats_of_passage fun again => ?_
      obtain ⟨m, k, waits, rfl⟩ := passage_again passes again
      rcases List.mem_cons.mp member with rfl | member
      · exact Or.inl rfl
      · refine Or.inr ⟨m, k, waits, ?_⟩
        rw [List.mem_singleton.mp (show point ∈ [(s.client, s.client.sendMsg m)] from member)]
  | whole e =>
    obtain ⟨effects, stepped, rfl, interrupt⟩ := momentStep_whole made
    by_cases sigint : e = .sigint
    · subst sigint
      exact sigint_numbers stepped (interrupt rfl)
    · cases leaving : s.control.leaving with
      | true => exact leaving_numbers stepped leaving sigint
      | false =>
        obtain ⟨p, passes⟩ := passage_of_step stepped leaving sigint
        obtain ⟨s₂, back, ends, _⟩ := passage_step passes
        rw [stepped] at ends
        cases ends
        exact passage_numbers stepped leaving passes

/-! ### A whole run -/

/-- What has been sent so far, and the state. -/
structure Numbering (sent : List Str) (s : State) : Prop where
  increasing : (sent.map msgId).Pairwise (· < ·)
  below : s.control.leaving = false → ∀ d ∈ sent, (msgId d).toNat < s.client.msgCounter
  awaited : ∀ m k, s.control = .handleTimeout m k → m.udpBuffer = [] ∨ m.udpBuffer ∈ sent

/-- **One step.** -/
theorem Numbering.step {sent : List Str} {s s' : State} {moment : Moment} {out : List Mark}
    (numbering : Numbering sent s) (made : momentStep s moment = some (s', out))
    (bound : s'.client.msgCounter < 65536) : Numbering (sent ++ transmitted false out) s' := by
  have numbers := momentStep_numbers made
  have waits : ∀ m k, s'.control = .handleTimeout m k →
      m.udpBuffer = [] ∨ m.udpBuffer ∈ sent ++ transmitted false out := by
    intro m k control
    rcases numbers.waits m k control with ⟨k', before⟩ | empty | first
    · exact (numbering.awaited m k' before).imp_right (List.mem_append_left _)
    · exact Or.inl empty
    · exact Or.inr (List.mem_append_right _ first)
  cases leaving : s.control.leaving with
  | true =>
    obtain ⟨left, silent⟩ := numbers.silent leaving
    rw [silent, List.append_nil] at waits ⊢
    refine ⟨numbering.increasing, fun staying => ?_, waits⟩
    rw [left] at staying
    cases staying
  | false =>
    have advances := numbers.advances leaving bound
    refine ⟨?_, fun staying d member => ?_, waits⟩
    · rw [List.map_append, List.pairwise_append]
      refine ⟨numbering.increasing, advances.increasing, ?_⟩
      intro first before last behind
      obtain ⟨d, old, rfl⟩ := List.mem_map.mp before
      obtain ⟨d', new, rfl⟩ := List.mem_map.mp behind
      rw [UInt16.lt_iff_toNat_lt]
      exact (numbering.below leaving d old).trans_le (advances.above d' new)
    · rcases List.mem_append.mp member with old | new
      · exact (numbering.below leaving d old).trans_le advances.counter
      · exact advances.below staying d new

/-- **A run.** -/
theorem numbering_run {port : UInt16} {s : State} {history : List (Transition State Moment Mark)}
    (run : Run (interruptible port) history s)
    (bound : ∀ t ∈ history, t.after.client.msgCounter < 65536) :
    Numbering (history.flatMap firsts) s := by
  rw [← observe_flatMap]
  refine run.observed_invariant_of (fun t => t.after.client.msgCounter < 65536) _ _ Numbering ?_ ?_ bound
  · rintro s ⟨_, _, rfl⟩
    exact ⟨.nil, fun _ _ member => absurd member List.not_mem_nil, fun _ _ waits => by cases waits⟩
  · intro sent s moment s' out numbering made bound
    exact numbering.step made bound

/-- Datagrams with increasing ids are told apart by them. -/
theorem eq_of_msgId {sent : List Str} (increasing : (sent.map msgId).Pairwise (· < ·)) {d d' : Str}
    (member : d ∈ sent) (member' : d' ∈ sent) (same : msgId d = msgId d') : d = d' := by
  have distinct : (sent.map msgId).Nodup := increasing.imp UInt16.ne_of_lt
  exact List.inj_on_of_nodup_map distinct member member' same

/-- **The ids of the messages sent increase strictly**, wherever a `SIGINT` comes, and what is sent again
has been sent before, the one message with its id. -/
theorem ids_increase {port : UInt16} {s : State} {history : List (Transition State Moment Mark)}
    (run : Run (interruptible port) history s)
    (bound : ∀ t ∈ history, t.after.client.msgCounter < 65536) :
    ((history.flatMap firsts).map msgId).Pairwise (· < ·) ∧
      ∀ earlier t later, history = earlier ++ t :: later → ∀ d ∈ repeats t,
        d ∈ earlier.flatMap firsts ∧
          ∀ first ∈ history.flatMap firsts, msgId first = msgId d → first = d := by
  have increasing := (numbering_run run bound).increasing
  refine ⟨increasing, ?_⟩
  intro earlier t later split d again
  subst split
  obtain ⟨past, made, _⟩ := run.transition
  have numbering := numbering_run past fun t member => bound t (List.mem_append_left _ member)
  obtain ⟨nonempty, m, k, waits, rfl⟩ := (momentStep_numbers made).again d again
  have sent := (numbering.awaited m k waits).resolve_left nonempty
  refine ⟨sent, fun first member same => eq_of_msgId increasing member ?_ same⟩
  rw [List.flatMap_append]
  exact List.mem_append_left _ sent

/-- AUTH is sent, and once more; a MSG that comes too early is answered by an ERR, and a `SIGINT` cuts in
behind it. -/
def cutShort : List Moment :=
  [.whole stdinReady, .whole (.getline (some (bytes "/auth u s d"))), .whole (.recvfrom (.failed .EAGAIN)),
    .whole (heardFrom 4567 (confirmDatagram 0)), .whole socketReady,
    .within (heardFrom 4567 (hiFromBob UDP_MSG 7)) 6]

def cutShortHistory : List (Transition State Moment Mark) :=
  ((interruptible 4567).trace booted cutShort).getD []

/-- The AUTH, the ERR and the BYE have the ids 0, 1 and 2; the AUTH is sent twice. -/
theorem ids_of_cutShort : cutShortHistory.map (fun t => (firsts t).map msgId) = [[], [0], [], [], [], [1, 2]] ∧
    cutShortHistory.map (fun t => (repeats t).map msgId) = [[], [], [0], [], [], []] ∧
    ((cutShortHistory.flatMap firsts).map msgId).Pairwise (· < ·) := by
  refine ⟨by decide +kernel, by decide +kernel, ?_⟩
  exact (ids_increase (Run.reached booted_init (by decide +kernel)) (by decide +kernel)).1

end UDPClient

end Ipk24Chat
