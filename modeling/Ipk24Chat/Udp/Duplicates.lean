/-
**A network that duplicates is not noticed.**

Further copies of a REPLY or MSG whose id is among the seen ones may arrive at any time: in the main loop
behind a `poll` of their own, in the loop of `handle_timeout`, in the loop of `exit_program`. A copy
leaves a trace in the port recorded by `accept_msg` and in `fds[1].revents`; by then the switch of the
server port has been made, and the next `poll` overwrites the other.

* `Unswitched`: until the first REPLY is handled no id has been seen, in every run;
* `Redelivers`: where a copy may arrive;
* `duplicates_unnoticed`: with any copies inserted into the events of a run, the client sends and prints
  the same.
-/

import Ipk24Chat.Udp.AtMostOnce
import Ipk24Chat.Udp.Coupled

namespace Ipk24Chat

namespace UDPClient

open Reactive
open List (Forall₂)

/-! ### Before the first REPLY -/

/-- Until the server port is switched no id is seen, and AUTH_STATE awaits the REPLY that switches it. -/
def Unswitched (c : UDPClient) : Prop :=
  c.changeServerPort = true → c.seenIds = [] ∧ c.clientState ≠ .openState ∧
    (c.clientState = .authState → c.replyMsgSent = true)

/-- The first REPLY switches the port. -/
theorem Unswitched.switches {c : UDPClient} (unswitched : c.Unswitched)
    (change : c.changeServerPort = true) (begun : c.clientState ≠ .startState) : c.switches = true := by
  obtain ⟨_, closed, awaits⟩ := unswitched change
  have auth : c.clientState = .authState := by
    cases state : c.clientState with
    | startState => exact absurd state begun
    | authState => rfl
    | openState => exact absurd state closed
  simp [UDPClient.switches, change, auth, awaits auth]

theorem Handled.unswitched {c : UDPClient} {d : Str} {o : Outcome} (handled : Handled c d o)
    (unswitched : c.Unswitched) : o.client.Unswitched := by
  cases handled with
  | leaving _ _ leaving => exact leaving.preserves unswitched unswitched
  | reply _ _ _ begun =>
    intro change
    obtain ⟨due, stays⟩ : c.changeServerPort = true ∧ c.switches = false := by
      simpa [replied] using change
    rw [unswitched.switches due begun] at stays
    cases stays
  | msg _ _ _ isOpen => exact fun change => absurd isOpen (unswitched change).2.1
  | skipped => exact unswitched
  | confirmed => exact unswitched
  | unmatched => exact unswitched
  | dropped => exact unswitched

theorem unswitched_step {s s' : State} {e : Event} {out : List (Effect UInt16)}
    (unswitched : s.client.Unswitched) (made : step s e = some (s', out)) : s'.client.Unswitched := by
  cases step_moves made with
  | leave _ leaving => exact leaving.preserves unswitched unswitched
  | poll socket stdin _ => rwa [pollStep_client]
  | accept _ _ _ handled => exact handled.unswitched unswitched
  | receive _ _ _ _ _ _ handled => exact handled.unswitched unswitched
  | line text _ lined =>
    cases lined with
    | kept => exact unswitched
    | sent name request next lines sendable =>
      intro change
      obtain ⟨none, closed, _⟩ := unswitched change
      rcases sendable with ⟨_, _, rfl, rfl⟩ | ⟨isOpen, _⟩
      · exact ⟨none, fun isOpen => (by cases isOpen), fun _ => rfl⟩
      · exact absurd isOpen closed
  | idle => exact unswitched
  | resend => exact unswitched
  | giveUp => exact unswitched
  | awaited => exact unswitched
  | bye => exact unswitched

/-- **An id is only seen behind the switch of the server port.** -/
theorem unswitched_reachable {port : UInt16} {s : State} (reachable : Reachable (machine port) s) :
    s.client.Unswitched := by
  refine reachable.invariant (fun s => s.client.Unswitched) ?_ fun s e s' out held made => ?_
  · rintro s ⟨limit, revents, rfl⟩
    exact fun _ => ⟨rfl, fun isOpen => (by cases isOpen), fun auth => by cases auth⟩
  · exact unswitched_step held made

/-! ### Copies -/

/-- A REPLY or MSG. -/
def Chat (d : Str) : Prop := kind d = .reply ∨ kind d = .msg

instance (d : Str) : Decidable (Chat d) := inferInstanceAs (Decidable (_ ∨ _))

/-- **Where a copy may arrive**: in any of the three loops. The program that leaves does not look at the
seen ids. -/
inductive Redelivers (s : State) : List Event → Prop
  | main (hangup : Bool) (stdin : Revents) (r : Received) : s.control = .poll → Chat r.buffer →
      msgId r.buffer ∈ s.client.seenIds →
      Redelivers s [.poll (.ready ⟨true, hangup⟩ stdin), .recvfrom r]
  | timeout (m : UDPMessage) (k : Nat) (r : Received) : s.control = .handleTimeout m k →
      Chat r.buffer → msgId r.buffer ∈ s.client.seenIds → Redelivers s [.recvfrom r]
  | bye (k : Nat) (ret : ExitCode) (r : Received) : s.control = .exitProgram k ret →
      Chat r.buffer → Redelivers s [.recvfrom r]

theorem Chat.numbered {d : Str} (chat : Chat d) : (kind d).numbered = true := by
  rcases chat with chat | chat
  · rw [chat]
    rfl
  · rw [chat]
    rfl

theorem Chat.not_confirm {d : Str} (chat : Chat d) : kind d ≠ .confirm := by
  rcases chat with chat | chat <;> simp [chat]

theorem Chat.nonempty {r : Received} (chat : Chat r.buffer) : 0 < r.bytesRx := by
  refine Int.not_le.mp fun empty => ?_
  have invalid := kind_of_bytesRx empty
  rcases chat with chat | chat
  · cases chat.symm.trans invalid
  · cases chat.symm.trans invalid

/-- Only the ports are recorded. -/
def exactly : Tolerance where
  port := Eq
  content := Eq
  content_refl _ := rfl

/-- The port of a copy is recorded in vain. -/
theorem Alike.overwritten {c c' : UDPClient} (alike : Alike exactly c c')
    (settled : c.changeServerPort = false) (port : UInt16) :
    Alike exactly c { c' with serverPort := port } := by
  cases alike with
  | redirected p _ same _ =>
    exact .redirected p port same fun change => by rw [settled] at change; cases change

/-- **A copy is absorbed**: nothing is put out, and what it changes is not looked at. -/
theorem redelivers_silent {port : UInt16} {s t : State} {segment : List Event}
    (alike : StateAlike exactly s t) (unswitched : s.client.Unswitched)
    (copy : Redelivers s segment) :
    ∃ t', Drive (machine port) t segment t' [] ∧ StateAlike exactly s t' := by
  cases copy with
  | main hangup stdin r polling chat seen =>
    have control := (alike.control.eq (by rw [polling]; rfl)).trans polling
    have seen' : t.client.seenIds = s.client.seenIds := alike.client.same (·.seenIds) fun _ _ => rfl
    have settled : s.client.changeServerPort = false := by
      by_contra change
      have none := (unswitched (by simpa using change)).1
      rw [none] at seen
      cases seen
    let polled := (pollStep t (.ready ⟨true, hangup⟩ stdin)).1
    have skipped : UDPClient.receiveInMain { polled.client with serverPort := r.port } r.buffer =
        .done { polled.client with serverPort := r.port } := by
      refine (receiveInMain_handled _ _).of_seen ⟨chat.numbered, ?_⟩
      show msgId r.buffer ∈ t.client.seenIds
      rwa [seen']
    have first : (machine port).step t (.poll (.ready ⟨true, hangup⟩ stdin)) = some (polled, []) :=
      step_polling control _
    have second : (machine port).step polled (.recvfrom r) = some ({ polled with
        client := { polled.client with serverPort := r.port }, control := .poll }, []) := by
      refine (step_accept (s := polled) rfl chat.nonempty).trans ?_
      rw [skipped]
      rfl
    have quiet := Drive.more first (.single second)
    refine ⟨_, quiet, alike.client.overwritten settled r.port, ?_, ?_⟩
    · rw [polling]
      exact .same .poll
    · -- with stdin left out of the `poll` nothing is written, otherwise the next one writes again
      have count := alike.client.pollCount
      by_cases both : s.client.pollCount = 2
      · exact Or.inr (Or.inl ⟨polling, both⟩)
      · left
        show s.revents = stdinRevents t.client.pollCount stdin t.revents
        rw [stdinRevents, if_neg (by rwa [count])]
        rcases alike.revents with same | ⟨_, both'⟩ | leaves
        · exact same
        · exact absurd both' both
        · rw [polling] at leaves
          cases leaves
  | timeout m k r waiting chat seen =>
    have control := alike.control
    rw [waiting] at control
    obtain ⟨m', control, msgs⟩ := control.waiting_inv
    have seen' : t.client.seenIds = s.client.seenIds := alike.client.same (·.seenIds) fun _ _ => rfl
    have skipped : t.client.handled r.buffer = .done t.client :=
      handled_seen ⟨chat.numbered, by rwa [seen']⟩
    have made := step_handled control chat.nonempty fun awaited => chat.not_confirm awaited.2.1
    rw [skipped] at made
    refine ⟨_, .single made, alike.client, ?_, ?_⟩
    · rw [waiting]
      exact .waiting k msgs
    · exact Or.inl (alike.steady (by simp [waiting]) (by rw [waiting]; rfl))
  | bye k ret r exits chat =>
    have control := (alike.control.eq (by rw [exits]; rfl)).trans exits
    have other : ¬ (kind r.buffer = .confirm ∧ (msgId r.buffer).toNat = t.client.msgCounter) :=
      fun confirm => chat.not_confirm confirm.1
    have known : kind r.buffer ≠ .invalid := by
      rcases chat with chat | chat <;> simp [chat]
    have made : step t (.recvfrom r) = some ({ t with control := .exitProgram k ret }, []) := by
      rw [step_exit control, byeStep_datagram t k ret chat.nonempty, if_neg other, classifiedNotices,
        if_neg known]
      rfl
    refine ⟨_, .single made, alike.client, ?_, Or.inr (Or.inr ?_)⟩
    · rw [exits]
      exact .same _
    · rw [exits]
      rfl

/-! ### Runs with copies -/

theorem Alike.refl {τ : Tolerance} (ports : ∀ p, τ.port p p) (c : UDPClient) : Alike τ c c :=
  .redirected c.aiPort c.serverPort (ports _) fun _ => ports _

theorem StateAlike.refl {τ : Tolerance} (ports : ∀ p, τ.port p p) (s : State) : StateAlike τ s s :=
  ⟨.refl ports s.client, .same _, Or.inl rfl⟩

/-- Effects that may only be the same are the same. -/
theorem EffectAlike.eq {effect effect' : Effect UInt16} (alike : EffectAlike exactly effect effect') :
    effect = effect' := by
  cases alike with
  | print => rfl
  | send content port => exact congr (congrArg Effect.send content) port

theorem EventAlike.refl {τ : Tolerance} (ports : ∀ p, τ.port p p) (e : Event) : EventAlike τ e e := by
  cases e with
  | recvfrom r =>
    cases r with
    | datagram => exact .datagram (ports _)
    | failed => exact .failed
  | _ => exact .same (by simp)

/-- The two clients are the same but for the recorded port, and have or have not exited alike. -/
structure SameSession (s t : State) : Prop where
  client : t.client = { s.client with serverPort := t.client.serverPort }
  exited : ∀ ret, s.control = .exited ret ↔ t.control = .exited ret

theorem StateAlike.sameSession {τ : Tolerance} (ports : ∀ {p p'}, τ.port p p' → p = p') {s t : State}
    (alike : StateAlike τ s t) : SameSession s t := by
  obtain ⟨client, control, _⟩ := alike
  refine ⟨?_, control.exited_iff⟩
  generalize s.client = c at client
  generalize t.client = c' at client
  cases client with
  | redirected p p' same _ =>
    obtain rfl := ports same
    rfl

/-- **Copies are not noticed**: from any reachable state, with copies of handled REPLYs and MSGs inserted
anywhere into the events to come, the client puts out the same and comes to the same session. -/
theorem duplicates_unnoticed {port : UInt16} {s s' : State} {events events' : List Event}
    {outs : List (Effect UInt16)} (reachable : Reachable (machine port) s)
    (inserted : Interleaved (machine port) Redelivers s events events')
    (driven : Drive (machine port) s events s' outs) :
    ∃ t, Drive (machine port) s events' t outs ∧ SameSession s' t := by
  -- the relation carries the reachability of the first run
  let R (s t : State) : Prop := StateAlike exactly s t ∧ Reachable (machine port) s
  have kept : Coupling (machine port) (machine port) R Eq Eq := by
    constructor
    rintro s s' t e _ out ⟨alike, reachable⟩ rfl made
    obtain ⟨t', out', answer, alike', effects⟩ :=
      (coupled exactly port port).step alike (.refl (fun _ => rfl) e) made
    exact ⟨t', out', answer, ⟨alike', reachable.next made⟩, effects.imp fun _ _ => EffectAlike.eq⟩
  have silent : ∀ {s t segment}, R s t → Redelivers s segment →
      ∃ t', Drive (machine port) t segment t' [] ∧ R s t' := by
    rintro s t segment ⟨alike, reachable⟩ copy
    obtain ⟨t', quiet, alike'⟩ := redelivers_silent alike (unswitched_reachable reachable) copy
    exact ⟨t', quiet, alike', reachable⟩
  obtain ⟨t, driven', alike, _⟩ :=
    kept.absorbs silent inserted driven ⟨.refl (fun _ => rfl) s, reachable⟩
  exact ⟨t, driven', alike.sameSession id⟩

/-- The client behind the sign-in, and the REPLY once more, from another port. -/
def signedIn : State := (machine 4567).reached booted signIn

def copy : Received := .datagram (replyDatagram 0 1 0) 6000 (.other 0)

/-- A message, with copies of the REPLY before it and while its CONFIRM is awaited. -/
theorem duplicates_unnoticed_hello : ∃ t, Drive (machine 4567) signedIn
    ([.poll (.ready ⟨true, false⟩ ⟨true, false⟩), .recvfrom copy] ++ stdinReady ::
      .getline (some (bytes "hello")) :: ([.recvfrom copy] ++ [])) t
    [.send (Request.udp 1 (.msg (bytes "d") (bytes "hello"))) 5000] ∧
      SameSession ((machine 4567).reached signedIn (typed "hello")) t := by
  have reachable : Reachable (machine 4567) signedIn := (Run.reached booted_init rfl).reachable
  have driven : Drive (machine 4567) signedIn (typed "hello")
      ((machine 4567).reached signedIn (typed "hello"))
      [.send (Request.udp 1 (.msg (bytes "d") (bytes "hello"))) 5000] := .reached rfl
  refine duplicates_unnoticed reachable (.extra ?_ (.same rfl (.same rfl (.extra ?_ .done)))) driven
  · exact .main false ⟨true, false⟩ copy rfl (by decide +kernel) (by decide +kernel)
  · exact .timeout _ 0 copy rfl (by decide +kernel) (by decide +kernel)

end UDPClient

end Ipk24Chat
