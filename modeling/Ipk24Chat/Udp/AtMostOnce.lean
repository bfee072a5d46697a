/-
**A REPLY or MSG is acted on at most once.**

`seen_ids` is extended in every branch that handles a REPLY or a MSG and consulted on both receive
paths, before anything else is done. A datagram with a MessageID that has been acted on finds its id
among the seen ones, or a program that is leaving.

* `Settled`: the id has been seen or the program leaves; it is kept by every step;
* `settled_of_actedOn`: acting on a datagram settles its id;
* `ignored_of_settled`: a datagram with a settled id changes and puts out nothing;
* `at_most_once`: both, for every run.
-/

import Ipk24Chat.Udp.ServerPort

namespace Ipk24Chat

namespace UDPClient

open Reactive

/-! ### Acting and ignoring -/

/-- A transition that receives a REPLY or MSG with this MessageID. -/
def Bears (t : Transition State Event (Effect UInt16)) (id : UInt16) : Prop :=
  ∃ d ∈ t.input.received, (kind d = .reply ∨ kind d = .msg) ∧ msgId d = id

instance (t : Transition State Event (Effect UInt16)) (id : UInt16) : Decidable (Bears t id) :=
  inferInstanceAs (Decidable (∃ d ∈ t.input.received, (_ ∨ _) ∧ _))

/-- A datagram sent or a message displayed. -/
def Shown : Effect UInt16 → Bool
  | .send _ _ => true
  | .print line => line.isDisplay

/-- Such a datagram is acted on: something is sent or displayed, or the session changes. -/
def ActedOn (t : Transition State Event (Effect UInt16)) (id : UInt16) : Prop :=
  Bears t id ∧ (t.out.any Shown = true ∨ t.after.client.clientState ≠ t.before.client.clientState ∨
    t.after.client.replyMsgSent ≠ t.before.client.replyMsgSent ∨
    t.after.client.replyIdVector ≠ t.before.client.replyIdVector ∨
    t.after.client.aiPort ≠ t.before.client.aiPort)

instance (t : Transition State Event (Effect UInt16)) (id : UInt16) : Decidable (ActedOn t id) :=
  inferInstanceAs (Decidable (_ ∧ (_ ∨ _ ∨ _ ∨ _ ∨ _)))

/-- The client is as before, up to the port recorded by `accept_msg`. -/
def Unmoved (c c' : UDPClient) : Prop := c' = { c with serverPort := c'.serverPort }

/-- Nothing is sent or printed and the client is as before. -/
def Ignored (t : Transition State Event (Effect UInt16)) : Prop :=
  t.out = [] ∧ Unmoved t.before.client t.after.client

/-- A datagram that shows nothing and leaves the client is not acted on. -/
theorem not_actedOn_of_quiet {t : Transition State Event (Effect UInt16)} {id : UInt16}
    (silent : t.out.any Shown = false) (same : Unmoved t.before.client t.after.client) :
    ¬ ActedOn t id := by
  unfold Unmoved at same
  rintro ⟨_, shown | state | awaited | vector | port⟩
  · rw [silent] at shown
    cases shown
  · exact state (by rw [same])
  · exact awaited (by rw [same])
  · exact vector (by rw [same])
  · exact port (by rw [same])

theorem Ignored.not_actedOn {t : Transition State Event (Effect UInt16)} (ignored : Ignored t)
    (id : UInt16) : ¬ ActedOn t id :=
  not_actedOn_of_quiet (by rw [ignored.1]; rfl) ignored.2

/-- The id has been seen, or the program leaves. -/
def Settled (id : UInt16) (s : State) : Prop :=
  s.control.leaving = true ∨ id ∈ s.client.seenIds

/-! ### Seen ids stay -/

theorem Leaving.seenIds {c : UDPClient} {o : Outcome} (leaving : c.Leaving o) :
    o.client.seenIds = c.seenIds :=
  leaving.preserves (P := fun c' => c'.seenIds = c.seenIds) rfl rfl

/-- A datagram adds an id at most. -/
theorem Handled.mem_seenIds {c : UDPClient} {d : Str} {o : Outcome} {id : UInt16}
    (handled : Handled c d o) (seen : id ∈ c.seenIds) : id ∈ o.client.seenIds := by
  cases handled with
  | leaving _ _ leaving =>
    rw [leaving.seenIds]
    exact seen
  | reply => exact List.mem_append_left _ seen
  | msg => exact List.mem_append_left _ seen
  | _ => exact seen

theorem Settled.step {id : UInt16} {s s' : State} {e : Event} {out : List (Effect UInt16)}
    (settled : Settled id s) (made : UDPClient.step s e = some (s', out)) : Settled id s' := by
  rcases settled with leaving | seen
  · exact Or.inl (leaving_step made leaving)
  cases step_moves made with
  | leave _ leaving => exact Or.inl (leaving.resume s .poll)
  | bye _ _ _ _ _ _ leaves => exact Or.inl leaves
  | poll socket stdin _ =>
    refine Or.inr ?_
    rw [pollStep_client]
    exact seen
  | line text _ lined => cases lined <;> exact Or.inr seen
  | accept r _ _ handled => exact Or.inr (handled.mem_seenIds seen)
  | receive m k r _ _ _ handled => exact Or.inr (handled.mem_seenIds seen)
  | idle => exact Or.inr seen
  | resend => exact Or.inr seen
  | giveUp => exact Or.inr seen
  | awaited => exact Or.inr seen

/-! ### Acting settles the id -/

/-- What the handling of a REPLY or MSG comes to: its id is noted, the program leaves, or nothing
is shown and nothing changes. -/
theorem Handled.noted {c : UDPClient} {d : Str} {o : Outcome} (handled : Handled c d o)
    (chat : kind d = .reply ∨ kind d = .msg) :
    c.Leaving o ∨ msgId d ∈ o.client.seenIds ∨
      (o.effects.any Shown = false ∧ o.client = c) := by
  have notConfirm : kind d ≠ .confirm := by
    rcases chat with chat | chat <;> simp [chat]
  cases handled with
  | leaving _ _ leaving => exact Or.inl leaving
  | confirmed confirm => exact absurd confirm notConfirm
  | unmatched confirm => exact absurd confirm notConfirm
  | skipped seen => exact Or.inr (Or.inl seen.2)
  | reply => exact Or.inr (Or.inl (List.mem_append_right _ (List.mem_singleton_self _)))
  | msg => exact Or.inr (Or.inl (List.mem_append_right _ (List.mem_singleton_self _)))
  | dropped notices =>
    refine Or.inr (Or.inr ⟨?_, rfl⟩)
    simp [Outcome.done, printed, Shown, Output.isDisplay]

/-- **Acting on a datagram settles its id.** -/
theorem settled_of_actedOn {t : Transition State Event (Effect UInt16)} {id : UInt16}
    (made : step t.before t.input = some (t.after, t.out)) (acted : ActedOn t id) :
    Settled id t.after := by
  obtain ⟨s, e, s', out⟩ := t
  obtain ⟨d, received, chat, same⟩ := acted.1
  obtain ⟨r, rfl, rfl⟩ := received_eq received
  have known : kind r.buffer ≠ .invalid := by
    rcases chat with chat | chat <;> simp [chat]
  have nonempty : ¬ r.bytesRx ≤ 0 := fun empty => known (kind_of_bytesRx empty)
  replace made : UDPClient.step s (.recvfrom r) = some (s', out) := made
  cases step_moves made with
  | leave empty _ => exact absurd (empty r rfl) nonempty
  | bye _ _ _ _ _ _ leaves => exact Or.inl leaves
  | idle _ _ empty => exact absurd empty nonempty
  | resend _ _ _ _ empty => exact absurd empty nonempty
  | giveUp _ _ _ _ empty => exact absurd empty nonempty
  | awaited _ _ _ _ _ awaited => rcases chat with chat | chat <;> simp [awaited.2.1] at chat
  | accept _ _ _ handled =>
    rcases handled.noted chat with leaving | seen | ⟨silent, kept⟩
    · exact Or.inl (leaving.resume s .poll)
    · rw [same] at seen
      exact Or.inr seen
    · refine absurd acted (not_actedOn_of_quiet silent ?_)
      show Unmoved s.client _
      rw [Unmoved, show (s.resume .poll _).1.client = _ from kept]
  | receive m k _ _ _ _ handled =>
    rcases handled.noted chat with leaving | seen | ⟨silent, kept⟩
    · exact Or.inl (leaving.resume s (.handleTimeout m k))
    · rw [same] at seen
      exact Or.inr seen
    · refine absurd acted (not_actedOn_of_quiet silent ?_)
      show Unmoved s.client _
      rw [Unmoved, show (s.resume (.handleTimeout m k) _).1.client = _ from kept]

/-! ### A settled id is ignored -/

/-- A datagram whose id has been seen is skipped. -/
theorem Handled.of_seen {c : UDPClient} {d : Str} {o : Outcome} (handled : Handled c d o)
    (seen : c.Seen d) : o = .done c := by
  cases handled with
  | skipped => rfl
  | confirmed confirm => exact absurd seen (not_seen_of_confirm confirm)
  | unmatched confirm => exact absurd seen (not_seen_of_confirm confirm)
  | reply _ fresh => exact absurd seen fresh
  | msg _ fresh => exact absurd seen fresh
  | dropped _ fresh => exact absurd seen fresh
  | leaving fresh => exact absurd seen fresh

/-- The loop of `exit_program` prints nothing for a known kind of datagram. -/
theorem byeStep_quiet (s : State) (k : Nat) (ret : ExitCode) {r : Received}
    (known : kind r.buffer ≠ .invalid) :
    (byeStep s k ret r).2 = [] ∧ (byeStep s k ret r).1.client = s.client := by
  have nonempty : 0 < r.bytesRx := Int.not_le.mp fun empty => known (kind_of_bytesRx empty)
  rw [byeStep_datagram s k ret nonempty, classifiedNotices, if_neg known]
  exact ⟨rfl, rfl⟩

/-- **A datagram with a settled id changes and puts out nothing.** -/
theorem ignored_of_settled {t : Transition State Event (Effect UInt16)} {id : UInt16}
    (made : step t.before t.input = some (t.after, t.out)) (bears : Bears t id)
    (settled : Settled id t.before) : Ignored t := by
  obtain ⟨s, e, s', out⟩ := t
  obtain ⟨d, received, chat, rfl⟩ := bears
  obtain ⟨r, rfl, rfl⟩ := received_eq received
  have known : kind r.buffer ≠ .invalid := by
    rcases chat with chat | chat <;> simp [chat]
  have numbered : (kind r.buffer).numbered = true := by
    rcases chat with chat | chat <;> simp [chat, Kind.numbered]
  have nonempty : ¬ r.bytesRx ≤ 0 := fun empty => known (kind_of_bytesRx empty)
  replace made : UDPClient.step s (.recvfrom r) = some (s', out) := made
  by_cases leaving : s.control.leaving = true
  · cases step_calls made with
    | @byeStep k ret _ _ _ _ answer =>
      obtain ⟨silent, same⟩ := byeStep_quiet s k ret known
      rw [answer] at silent same
      refine ⟨silent, ?_⟩
      show Unmoved s.client s'.client
      rw [Unmoved, show s'.client = s.client from same]
    | _ control _ => rw [control] at leaving; cases leaving
  · have seen := settled.resolve_left leaving
    cases step_moves made with
    | leave empty _ => exact absurd (empty r rfl) nonempty
    | idle _ _ empty => exact absurd empty nonempty
    | resend _ _ _ _ empty => exact absurd empty nonempty
    | giveUp _ _ _ _ empty => exact absurd empty nonempty
    | awaited _ _ _ _ _ awaited => rcases chat with chat | chat <;> simp [awaited.2.1] at chat
    | bye _ _ _ _ _ control => exact absurd (by rw [control]; rfl) leaving
    | accept _ _ _ handled =>
      rw [handled.of_seen ⟨numbered, seen⟩]
      exact ⟨rfl, rfl⟩
    | receive m k _ _ _ _ handled =>
      rw [handled.of_seen ⟨numbered, seen⟩]
      exact ⟨rfl, rfl⟩

/-! ### Runs -/

/-- **At most once**: behind a REPLY or MSG that is acted on, every REPLY and MSG with the same
MessageID is ignored and so not acted on. -/
theorem at_most_once {port : UInt16} {s : State}
    {earlier middle later : List (Transition State Event (Effect UInt16))}
    {t u : Transition State Event (Effect UInt16)} {id : UInt16}
    (run : Run (machine port) (earlier ++ t :: (middle ++ u :: later)) s) (acted : ActedOn t id)
    (bears : Bears u id) : Ignored u ∧ ¬ ActedOn u id := by
  have whole : earlier ++ t :: (middle ++ u :: later) = (earlier ++ t :: middle) ++ u :: later := by
    simp
  obtain ⟨_, acting, _⟩ := run.transition
  rw [whole] at run
  obtain ⟨before, made, _⟩ := run.transition
  have settled : Settled id u.before :=
    before.stable (Settled id) (fun _ _ _ _ held made => held.step made)
      (settled_of_actedOn acting acted)
  have ignored := ignored_of_settled made bears settled
  exact ⟨ignored, ignored.not_actedOn id⟩

/-- A duplicate of the REPLY that opened the session, in the loop of `handle_timeout`. -/
def repeated : List Event := signIn ++ typed "hello" ++ [heardFrom 5000 (replyDatagram 0 1 0)]

/-- The transition made by input `i` of that run. -/
def repeatedAt (i : Nat) (e : Event) (out : List (Effect UInt16)) :
    Transition State Event (Effect UInt16) :=
  ⟨(machine 4567).reached booted (repeated.take i), e,
    (machine 4567).reached booted (repeated.take (i + 1)), out⟩

theorem at_most_once_repeated : ∃ earlier t middle u,
    (machine 4567).trace booted repeated = some (earlier ++ t :: (middle ++ u :: [])) ∧
      ActedOn t 0 ∧ Bears u 0 ∧ Ignored u := by
  have run : Run (machine 4567) (((machine 4567).trace booted repeated).getD [])
      ((machine 4567).reached booted repeated) := .reached booted_init rfl
  have acted : ActedOn (repeatedAt 4 (heardFrom 5000 (replyDatagram 0 1 0))
      (printed [.message .cerr (bytes "Success: hi")] ++ [.send (confirmDatagram 0) 5000])) 0 := by
    decide +kernel
  have bears : Bears (repeatedAt 7 (heardFrom 5000 (replyDatagram 0 1 0)) []) 0 := by
    decide +kernel
  have split : (machine 4567).trace booted repeated =
      some ((((machine 4567).trace booted repeated).getD []).take 4 ++
        repeatedAt 4 (heardFrom 5000 (replyDatagram 0 1 0))
          (printed [.message .cerr (bytes "Success: hi")] ++ [.send (confirmDatagram 0) 5000]) ::
        (((((machine 4567).trace booted repeated).getD []).drop 5).take 2 ++
          repeatedAt 7 (heardFrom 5000 (replyDatagram 0 1 0)) [] :: [])) := rfl
  refine ⟨_, _, _, _, split, acted, bears, ?_⟩
  rw [show ((machine 4567).trace booted repeated).getD [] = _ from
    congrArg (Option.getD · []) split] at run
  exact (at_most_once run acted bears).1

end UDPClient

end Ipk24Chat
