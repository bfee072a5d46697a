/-
**A REPLY that answers no request.**

Such a REPLY is confirmed and its id is recorded, and nothing else is to come of it. But in AUTH_STATE
the branches of REPLY switch the port before they look at the RefMessageID: while the first reply is
awaited, any REPLY moves the session to the recorded port.

* `stray_handled`: what any REPLY that answers no request does, on either receive path;
* `stray_reply_iff`: it leaves the session alone exactly when the port is not due to be switched.
-/

import Ipk24Chat.Udp.Session

namespace Ipk24Chat

namespace UDPClient

open Reactive

/-- A REPLY that is handled behind START_STATE and does not answer the request outstanding in `σ`. -/
structure Stray (σ : Session UInt16) (t : Transition State Event (Effect UInt16)) (r : Received) :
    Prop where
  input : t.input = .recvfrom r
  listens : t.before.control.listens = true
  begun : t.before.client.clientState ≠ .startState
  handles : t.before.client.HandlesReply r.buffer
  other : σ.outstanding ≠ some (replyRef r.buffer)

/-- The client behind a REPLY that answers nothing: the id is recorded, and the source port when
`accept_msg` has received it. -/
def noted (s : State) (r : Received) : UDPClient :=
  { s.client with
    serverPort := recordedPort s r.port
    seenIds := s.client.seenIds ++ [msgId r.buffer] }

/-- **The REPLY changes nothing**: its id is recorded, one CONFIRM is sent to the port in use, nothing
is displayed, and the program waits where it was. -/
structure Undisturbed (t : Transition State Event (Effect UInt16)) (r : Received) : Prop where
  client : t.after.client = noted t.before r
  out : t.out = [.send (confirmDatagram (msgId r.buffer)) t.before.client.aiPort]
  control : t.after.control = if t.before.control = .acceptMsg then .poll else t.before.control

/-- The client whose port has been switched to the recorded one. -/
def moved (c : UDPClient) : UDPClient := { c with aiPort := c.serverPort, changeServerPort := false }

/-- The client behind such a REPLY, with the switch if it is due. -/
def disturbed (s : State) (r : Received) : UDPClient :=
  if s.client.switches then (noted s r).moved else noted s r

theorem replied_of_stray {c : UDPClient} {d : Str} (other : c.answered d = false) :
    c.replied d = if c.switches then { c with seenIds := c.seenIds ++ [msgId d] }.moved
      else { c with seenIds := c.seenIds ++ [msgId d] } := by
  cases switches : c.switches with
  | true => simp [replied, other, switches, moved]
  | false => simp [replied, other, switches]

theorem repliedEffects_of_stray {c : UDPClient} {d : Str} (other : c.answered d = false) :
    c.repliedEffects d = [.send (confirmDatagram (msgId d)) (c.replied d).aiPort] := by
  unfold repliedEffects
  rw [other, if_neg Bool.false_ne_true]
  rfl

/-- A REPLY that answers nothing, behind the receive call. -/
theorem handled_of_stray {c : UDPClient} {d : Str} {o : Outcome} (handled : Handled c d o)
    (handles : c.HandlesReply d) (begun : c.clientState ≠ .startState)
    (other : c.answered d = false) :
    o = ⟨c.replied d, [.send (confirmDatagram (msgId d)) (c.replied d).aiPort], none⟩ := by
  obtain ⟨reply, fresh, long⟩ := handles
  rw [handled.of_reply fresh reply long begun, repliedEffects_of_stray other]

/-- **What a REPLY that answers no request does.** -/
theorem stray_handled {σ : Session UInt16} {t : Transition State Event (Effect UInt16)} {r : Received}
    (made : step t.before t.input = some (t.after, t.out)) (refines : Refines σ t.before.client)
    (stray : Stray σ t r) :
    t.after.client = disturbed t.before r ∧
      t.out = [.send (confirmDatagram (msgId r.buffer)) (disturbed t.before r).aiPort] ∧
      t.after.control = if t.before.control = .acceptMsg then .poll else t.before.control := by
  obtain ⟨s, e, s', out⟩ := t
  obtain ⟨rfl, listens, begun, handles, other⟩ := stray
  simp only at made listens begun handles ⊢
  have unanswered : s.client.answered r.buffer = false := by
    by_contra answered
    exact other ((refines.answered_iff _).mp (by simpa using answered))
  have nonempty : ¬ r.bytesRx ≤ 0 := by
    intro empty
    cases handles.1.symm.trans (kind_of_bytesRx empty)
  cases step_moves made with
  | leave empty _ => exact absurd (empty r rfl) nonempty
  | idle _ _ empty => exact absurd empty nonempty
  | resend _ _ _ _ empty => exact absurd empty nonempty
  | giveUp _ _ _ _ empty => exact absurd empty nonempty
  | awaited _ _ _ _ _ awaited => cases handles.1.symm.trans awaited.2.1
  | bye _ _ _ _ _ control => simp [control, Control.listens] at listens
  | accept _ control _ handled =>
    have same := handled_of_stray handled handles begun unanswered
    have client : UDPClient.replied { s.client with serverPort := r.port } r.buffer =
        disturbed s r := by
      rw [replied_of_stray (show UDPClient.answered { s.client with serverPort := r.port } r.buffer =
        false from unanswered), disturbed, noted, recordedPort, if_pos control]
      rfl
    rw [client] at same
    subst same
    rw [if_pos control]
    exact ⟨rfl, rfl, rfl⟩
  | receive m k _ control _ _ handled =>
    have same := handled_of_stray handled handles begun unanswered
    have elsewhere : s.control ≠ .acceptMsg := by simp [control]
    have client : s.client.replied r.buffer = disturbed s r := by
      rw [replied_of_stray unanswered, disturbed, noted, recordedPort, if_neg elsewhere]
    rw [client] at same
    subst same
    rw [if_neg elsewhere, control]
    exact ⟨rfl, rfl, rfl⟩

/-- **A REPLY that answers no request**, in every run in which `poll` keeps its contract: it changes
nothing but the port, and nothing at all exactly when the port is not due to be switched. -/
theorem stray_reply_iff {port : UInt16} {s : State}
    {earlier later : List (Transition State Event (Effect UInt16))}
    {t : Transition State Event (Effect UInt16)}
    (run : Run (machine port) (earlier ++ t :: later) s)
    (contract : ∀ u ∈ earlier ++ t :: later, PollContract u) {r : Received}
    (stray : Stray (session earlier) t r) :
    t.after.client = disturbed t.before r ∧
      (Undisturbed t r ↔ t.before.client.switches = false) := by
  obtain ⟨before, made, _⟩ := run.transition
  have held := inSession_run before fun u member => contract u (List.mem_append_left _ member)
  obtain ⟨client, out, control⟩ := stray_handled made held.refines stray
  refine ⟨client, ?_⟩
  constructor
  · intro undisturbed
    by_contra switches
    have switches : t.before.client.switches = true := by simpa using switches
    have same := client.symm.trans undisturbed.client
    rw [disturbed, if_pos switches] at same
    have due : t.before.client.changeServerPort = true := by
      simp only [UDPClient.switches, Bool.and_eq_true] at switches
      exact switches.2
    have flag : false = t.before.client.changeServerPort := congrArg (·.changeServerPort) same
    rw [due] at flag
    cases flag
  · intro still
    rw [disturbed, if_neg (by simp [still])] at client out
    exact ⟨client, out, control⟩

/-- A REPLY from port 5000 to a message 7 that has not been sent. -/
def unasked : Event := heardFrom 5000 (replyDatagram 3 1 7)

/-- The transition that receives it behind these events. -/
def behind (events : List Event) : Transition State Event (Effect UInt16) :=
  let s := (machine 4567).reached booted events
  ⟨s, unasked, ((machine 4567).move s unasked).1, ((machine 4567).move s unasked).2⟩

/-- Behind the sign-in it changes nothing. -/
theorem stray_reply_signIn : Undisturbed (behind (signIn ++ [socketReady]))
    (.datagram (replyDatagram 3 1 7) 5000 (.other 0)) := by
  have run := (Run.reached booted_init rfl).move (M := machine 4567)
    (s := (machine 4567).reached booted (signIn ++ [socketReady])) unasked (by decide +kernel)
  refine (stray_reply_iff run (by decide +kernel) ⟨rfl, rfl, ?_, ?_, ?_⟩).2.mpr ?_
  · decide +kernel
  · decide +kernel
  · decide +kernel
  · decide +kernel

/-- The REPLY to AUTH is awaited in the main loop. -/
def awaitingReply : List Event :=
  typed "/auth u s d" ++ [heardFrom 4567 (confirmDatagram 0), socketReady]

/-- **Before the first REPLY it moves the session to port 5000.** -/
theorem stray_reply_moves :
    Run (machine 4567) ((((machine 4567).trace booted awaitingReply).getD []) ++
      [behind awaitingReply]) (behind awaitingReply).after ∧
    Stray (session (((machine 4567).trace booted awaitingReply).getD [])) (behind awaitingReply)
      (.datagram (replyDatagram 3 1 7) 5000 (.other 0)) ∧
    (behind awaitingReply).before.client.aiPort = 4567 ∧
    (behind awaitingReply).after.client.aiPort = 5000 ∧
    ¬ Undisturbed (behind awaitingReply) (.datagram (replyDatagram 3 1 7) 5000 (.other 0)) := by
  have run := (Run.reached booted_init rfl).move (M := machine 4567)
    (s := (machine 4567).reached booted awaitingReply) unasked (by decide +kernel)
  have before : (behind awaitingReply).before.client.aiPort = 4567 := by decide +kernel
  have after : (behind awaitingReply).after.client.aiPort = 5000 := by decide +kernel
  refine ⟨run, ⟨rfl, rfl, by decide +kernel, by decide +kernel, by decide +kernel⟩, before, after,
    fun undisturbed => ?_⟩
  have same : (behind awaitingReply).after.client.aiPort =
      (behind awaitingReply).before.client.aiPort := congrArg (·.aiPort) undisturbed.client
  rw [before, after] at same
  exact absurd same (by decide)

end UDPClient

end Ipk24Chat
