/-
**When a line is read from stdin.**

A client that has to answer for a line is to read it only when the `poll` of the same iteration has
asked for stdin and reported it (`Gated`, over an observer of the last `poll`). `fds[1].revents` keeps
its value while stdin is left out, so that a branch which falls through to the stdin branch in such an
iteration reads on an old report.

* `UDPClient.gated_run`: the UDP client reads gated lines only;
* `TCPClient.gated_run`, `TCPClient.not_gated_of_answersInOpen`: the TCP client does as long as no
  awaited REPLY comes in OPEN_STATE, and blocks on stdin behind every such REPLY;
* `stdin_gating_iff`: both clients together.
-/

import Ipk24Chat.Udp.Session
import Ipk24Chat.Tcp.Stepping

namespace Ipk24Chat

open Reactive

/-- The last `poll` has asked for two descriptors and reported stdin. -/
def Gated (last : Option (Nat × Revents)) : Prop :=
  ∃ stdin : Revents, last = some (2, stdin) ∧ stdin.readable = true

/-! ### The UDP client -/

namespace UDPClient

/-- The number of descriptors polled and the report for stdin. -/
def polled (t : Transition State Event (Effect UInt16)) : Option (Nat × Revents) :=
  match t.input with
  | .poll (.ready _ stdin) => some (t.before.client.pollCount, stdin)
  | _ => none

/-- The `poll` of the current iteration. -/
def lastPoll (history : List (Transition State Event (Effect UInt16))) : Option (Nat × Revents) :=
  observe (fun last t => (polled t).or last) none history

theorem pollStep_reads {s : State} {socket stdin : Revents}
    (reads : (pollStep s (.ready socket stdin)).1.control = .getline) :
    (stdinRevents s.client.pollCount stdin s.revents).readable = true := by
  unfold pollStep at reads
  simp only at reads
  split at reads
  · cases reads
  split at reads
  · rename_i readable
    exact readable
  · cases reads

/-- Only `poll` leads to `getline`. -/
theorem getline_of_poll {s s' : State} {e : Event} {out : List (Effect UInt16)}
    (made : step s e = some (s', out)) (reads : s'.control = .getline) :
    ∃ socket stdin, e = .poll (.ready socket stdin) ∧ s' = (pollStep s (.ready socket stdin)).1 := by
  cases step_moves made with
  | poll socket stdin _ => exact ⟨socket, stdin, rfl, rfl⟩
  | leave _ leaving => exact absurd reads (Control.ne_of_leaving (leaving.resume s .poll) rfl)
  | bye _ _ _ _ _ _ leaves => exact absurd reads (Control.ne_of_leaving leaves rfl)
  | idle => cases reads
  | resend => cases reads
  | giveUp => cases reads
  | awaited => cases reads
  | line text _ lined => cases lined <;> cases reads
  | accept r _ _ handled => exact absurd reads (handled.control_ne s (by decide))
  | receive m k r _ _ _ handled => exact absurd reads (handled.control_ne s (by simp))

/-- **The UDP client reads gated lines only.** -/
theorem gated_run {port : UInt16} {s : State}
    {history : List (Transition State Event (Effect UInt16))} (run : Run (machine port) history s)
    (contract : ∀ t ∈ history, PollContract t) (reads : s.control = .getline) :
    Gated (lastPoll history) := by
  refine run.observed_invariant_of PollContract (fun last t => (polled t).or last) none
    (fun last s => s.control = .getline → Gated last) ?_ ?_ contract reads
  · rintro s ⟨limit, revents, rfl⟩ reads
    cases reads
  · intro last s e s' out _ made contract reads
    obtain ⟨socket, stdin, rfl, rfl⟩ := getline_of_poll made reads
    have readable := pollStep_reads reads
    have both : s.client.pollCount = 2 := by
      rcases pollStep_control contract with accepts | ⟨_, reply, flag⟩
      · cases accepts.symm.trans reads
      · exact pollCount_of_idle reply flag
    rw [both] at readable
    refine ⟨stdin, ?_, readable⟩
    show some (s.client.pollCount, stdin) = some (2, stdin)
    rw [both]

end UDPClient

/-! ### The TCP client -/

namespace TCPClient

def polled (t : Transition State Event (Effect Unit)) : Option (Nat × Revents) :=
  match t.input with
  | .poll (.ready _ stdin) => some (pollCount t.before.client, stdin)
  | _ => none

def lastPoll (history : List (Transition State Event (Effect Unit))) : Option (Nat × Revents) :=
  observe (fun last t => (polled t).or last) none history

/-- `poll` returns without POLLIN on the socket. -/
def Event.socketSilent : Event → Bool
  | .poll (.ready socket _) => !socket.pollin
  | _ => false

/-- A `poll` of the socket alone returns with POLLIN on it. -/
def PollContract (t : Transition State Event (Effect Unit)) : Prop :=
  pollCount t.before.client = 1 → t.input.socketSilent = false

instance (t : Transition State Event (Effect Unit)) : Decidable (PollContract t) :=
  inferInstanceAs (Decidable (_ → _))

/-- The message a transition completes. -/
def completed (t : Transition State Event (Effect Unit)) : Option Str :=
  match t.before.control, t.input with
  | .acceptMsg buffer, .recv r =>
    (r.received buffer).bind fun value =>
      if accepted (buffer ++ [value]) = true then some (buffer ++ [value]) else none
  | _, _ => none

/-- What is decoded from a message, if the decoder returns. -/
def decodedMsg (d : Str) : Option TCPMessage :=
  match decoded d with
  | .ok m => some m.1
  | .error _ => none

/-- The awaited REPLY comes in OPEN_STATE. -/
def AnswersInOpen (t : Transition State Event (Effect Unit)) : Prop :=
  t.before.client.clientState = .openState ∧ t.before.client.replyMsgSent = true ∧
    ∃ d ∈ completed t, ∃ m ∈ decodedMsg d, IsReply m

instance (t : Transition State Event (Effect Unit)) : Decidable (AnswersInOpen t) :=
  inferInstanceAs (Decidable (_ ∧ _ ∧ ∃ d ∈ completed t, ∃ m ∈ decodedMsg d, IsReply m))

/-- What holds of the two descriptors in every run: an awaited reply was asked for on a readable
stdin, `accept_msg` is in the iteration of the last `poll`, and stdin is read on a readable report. -/
structure Reported (last : Option (Nat × Revents)) (s : State) : Prop where
  awaiting : s.client.replyMsgSent = true → s.revents.readable = true
  accepting : ∀ buffer, s.control = .acceptMsg buffer → ∃ stdin,
    last = some (pollCount s.client, stdin) ∧ (pollCount s.client = 2 → s.revents = stdin)
  reading : s.control = .getline → s.revents.readable = true

theorem pollCount_of_awaited {c : TCPClient} (awaited : c.replyMsgSent = true) : pollCount c = 1 :=
  if_pos awaited

theorem pollCount_of_idle {c : TCPClient} (idle : c.replyMsgSent = false) : pollCount c = 2 :=
  if_neg (by simp [idle])

/-- A message leads back to `poll`, falls through to the stdin branch, or ends the program. -/
theorem Heard.blocked {c : TCPClient} {d : Str} {o : Outcome} (heard : Heard c d o) :
    o.blocked = none ∨ o.blocked = some .poll ∨ ∃ k : Control, o.blocked = some k ∧
      k.leaving = true := by
  cases heard with
  | thrown => exact Or.inr (Or.inr ⟨_, rfl, rfl⟩)
  | leaving _ leaving => exact Or.inr (Or.inr leaving.blocked)
  | authenticated => exact Or.inr (Or.inl rfl)
  | joined => exact Or.inl rfl
  | stray => exact Or.inl rfl
  | msg => exact Or.inr (Or.inl rfl)

/-- A message does not make the client wait for a reply. -/
theorem Heard.awaited {c : TCPClient} {d : Str} {o : Outcome} (heard : Heard c d o)
    (awaited : o.client.replyMsgSent = true) : c.replyMsgSent = true := by
  cases heard with
  | thrown => exact awaited
  | leaving _ leaving => rwa [leaving.client] at awaited
  | authenticated => cases awaited
  | joined => cases awaited
  | stray => exact awaited
  | msg => exact awaited

/-- Behind a message the program is in `poll`, has ended, or has come to the stdin branch. -/
theorem Heard.control {c : TCPClient} {d : Str} {o : Outcome} (heard : Heard c d o) (s : State) :
    ((s.resume s.stdinBranch o).1.control = .poll ∨
      (s.resume s.stdinBranch o).1.control.leaving = true) ∨
    (o.blocked = none ∧ (s.resume s.stdinBranch o).1.control = .getline ∧
      s.revents.readable = true) := by
  rcases heard.blocked with falls | polls | ⟨k, stopped, leaves⟩
  · have control : (s.resume s.stdinBranch o).1.control = s.stdinBranch := by
      simp only [State.resume, falls, Option.getD_none]
    rw [control]
    unfold State.stdinBranch
    cases readable : s.revents.readable with
    | true => exact Or.inr ⟨falls, rfl, rfl⟩
    | false => exact Or.inl (Or.inl rfl)
  · exact Or.inl (Or.inl (by simp only [State.resume, polls, Option.getD_some]))
  · exact Or.inl (Or.inr (by simp only [State.resume, stopped, Option.getD_some, leaves]))

/-- What a poll reports and leads to. -/
theorem pollStep_fields (s : State) (socket stdin : Revents) :
    (pollStep s (.ready socket stdin)).1.revents =
        stdinRevents (pollCount s.client) stdin s.revents ∧
      ((pollStep s (.ready socket stdin)).1.control = .getline →
        (stdinRevents (pollCount s.client) stdin s.revents).readable = true ∧
          socket.pollin = false) := by
  unfold pollStep
  simp only
  by_cases pollin : socket.pollin = true
  · rw [if_pos pollin]
    exact ⟨rfl, fun reads => by cases reads⟩
  · rw [if_neg pollin]
    refine ⟨rfl, fun reads => ?_⟩
    simp only [State.stdinBranch] at reads
    split at reads
    · rename_i readable
      exact ⟨readable, by simpa using pollin⟩
    · cases reads

theorem Reported.of_control {last : Option (Nat × Revents)} {s : State}
    (awaiting : s.client.replyMsgSent = true → s.revents.readable = true)
    (control : s.control = .poll ∨ s.control.leaving = true) : Reported last s := by
  refine ⟨awaiting, fun buffer accepting => ?_, fun reading => ?_⟩
  · rw [accepting] at control
    simp [Control.leaving] at control
  · rw [reading] at control
    simp [Control.leaving] at control

theorem Reported.step {last : Option (Nat × Revents)} {s s' : State} {e : Event}
    {out : List (Effect Unit)} (held : Reported last s)
    (made : TCPClient.step s e = some (s', out)) :
    Reported ((polled ⟨s, e, s', out⟩).or last) s' := by
  cases step_moves made with
  | leave back leaving =>
    refine .of_control ?_ (Or.inr (leaving.resume s back))
    rw [show (s.resume back _).1.client = s.client from leaving.client]
    exact held.awaiting
  | poll socket stdin _ =>
    have client := pollStep_client s socket stdin
    obtain ⟨revents, reads⟩ := pollStep_fields s socket stdin
    refine ⟨fun awaited => ?_, fun buffer _ => ⟨stdin, ?_, fun both => ?_⟩, fun reading => ?_⟩
    · rw [client] at awaited
      rw [revents, pollCount_of_awaited awaited]
      exact held.awaiting awaited
    · rw [client]
      rfl
    · rw [client] at both
      rw [revents, both]
      rfl
    · rw [revents]
      exact (reads reading).1
  | byte buffer r value control _ _ =>
    exact ⟨held.awaiting, fun _ _ => held.accepting buffer control, fun reading => by cases reading⟩
  | message buffer r value control _ _ heard =>
    have awaiting : (s.resume s.stdinBranch _).1.client.replyMsgSent = true →
        s.revents.readable = true := fun awaited => held.awaiting (heard.awaited awaited)
    rcases heard.control s with control' | ⟨_, reads, readable⟩
    · exact .of_control awaiting control'
    · exact ⟨awaiting, fun _ accepting => (by cases reads.symm.trans accepting), fun _ => readable⟩
  | line text control lined =>
    have readable := held.reading control
    cases lined with
    | kept => exact .of_control (fun _ => readable) (Or.inl rfl)
    | sent => exact .of_control (fun _ => readable) (Or.inl rfl)

/-- The descriptors after every run. -/
theorem reported_run {s : State} {history : List (Transition State Event (Effect Unit))}
    (run : Run machine history s) : Reported (lastPoll history) s := by
  refine run.observed_invariant (fun last t => (polled t).or last) none Reported ?_ ?_
  · rintro s ⟨revents, rfl⟩
    exact .of_control (fun awaited => (by cases awaited)) (Or.inl rfl)
  · intro last s e s' out held made
    exact held.step made

/-- The two ways to `getline`. -/
theorem getline_of_step {s s' : State} {e : Event} {out : List (Effect Unit)}
    (made : step s e = some (s', out)) (reads : s'.control = .getline) :
    (∃ socket stdin, e = .poll (.ready socket stdin) ∧
      s' = (pollStep s (.ready socket stdin)).1) ∨
    ∃ buffer d o, s.control = .acceptMsg buffer ∧ completed ⟨s, e, s', out⟩ = some d ∧
      Heard s.client d o ∧ o.blocked = none ∧ s.revents.readable = true := by
  cases step_moves made with
  | poll socket stdin _ => exact Or.inl ⟨socket, stdin, rfl, rfl⟩
  | leave back leaving =>
    exact absurd reads (Control.ne_of_leaving (leaving.resume s back) rfl)
  | byte => cases reads
  | line text _ lined => cases lined <;> cases reads
  | message buffer r value control received complete heard =>
    rcases heard.control s with (polls | leaves) | ⟨falls, _, readable⟩
    · cases polls.symm.trans reads
    · rw [reads] at leaves
      cases leaves
    · refine Or.inr ⟨buffer, buffer ++ [value], _, control, ?_, heard, falls, readable⟩
      simp only [completed, control, received, Option.bind_some, if_pos complete]

/-- **A line that is read without an awaited REPLY in OPEN_STATE is gated.** -/
theorem gated_step {last : Option (Nat × Revents)} {s s' : State} {e : Event}
    {out : List (Effect Unit)} (held : Reported last s) (made : step s e = some (s', out))
    (contract : PollContract ⟨s, e, s', out⟩) (clear : ¬ AnswersInOpen ⟨s, e, s', out⟩)
    (reads : s'.control = .getline) : Gated ((polled ⟨s, e, s', out⟩).or last) := by
  have idle : s.client.replyMsgSent = false := by
    by_contra awaited
    have awaited : s.client.replyMsgSent = true := by simpa using awaited
    rcases getline_of_step made reads with ⟨socket, stdin, rfl, rfl⟩ | ⟨_, d, o, _, done, heard, falls, _⟩
    · have silent := contract (pollCount_of_awaited awaited)
      have heard := ((pollStep_fields s socket stdin).2 reads).2
      simp [Event.socketSilent, heard] at silent
    · cases heard with
      | thrown => cases falls
      | leaving _ leaving =>
        obtain ⟨k, stopped, _⟩ := leaving.blocked
        rw [falls] at stopped
        cases stopped
      | authenticated => cases falls
      | msg => cases falls
      | stray _ _ _ idle => simp [idle] at awaited
      | joined decode reply isOpen _ =>
        refine clear ⟨isOpen, awaited, d, done, _, ?_, reply⟩
        simp only [decodedMsg, decode]
        rfl
  have both := pollCount_of_idle idle
  rcases getline_of_step made reads with ⟨socket, stdin, rfl, rfl⟩ | ⟨buffer, d, o, control, done, _, _, readable⟩
  · have readable := ((pollStep_fields s socket stdin).2 reads).1
    rw [both] at readable
    refine ⟨stdin, ?_, readable⟩
    show some (pollCount s.client, stdin) = some (2, stdin)
    rw [both]
  · obtain ⟨stdin, polled', same⟩ := held.accepting buffer control
    have none : polled ⟨s, e, s', out⟩ = Option.none := by
      unfold completed at done
      unfold polled
      cases e with
      | poll result => simp [control] at done
      | _ => rfl
    rw [none, Option.none_or, polled', both]
    exact ⟨stdin, rfl, by rw [← same both]; exact readable⟩

/-- **The TCP client reads gated lines only**, until an awaited REPLY comes in OPEN_STATE. -/
theorem gated_run {s : State} {history : List (Transition State Event (Effect Unit))}
    (run : Run machine history s) (contract : ∀ t ∈ history, PollContract t)
    (clear : ∀ t ∈ history, ¬ AnswersInOpen t) (reads : s.control = .getline) :
    Gated (lastPoll history) := by
  refine (run.observed_invariant_of (fun t => PollContract t ∧ ¬ AnswersInOpen t)
    (fun last t => (polled t).or last) none
    (fun last s => Reported last s ∧ (s.control = .getline → Gated last)) ?_ ?_
    fun t member => ⟨contract t member, clear t member⟩).2 reads
  · rintro s ⟨revents, rfl⟩
    exact ⟨.of_control (fun awaited => (by cases awaited)) (Or.inl rfl), fun reads => by cases reads⟩
  · rintro last s e s' out ⟨held, _⟩ made ⟨contract, clear⟩
    exact ⟨held.step made, gated_step held made contract clear⟩

theorem decodedMsg_eq {d : Str} {m : TCPMessage} (decode : m ∈ decodedMsg d) :
    ∃ lines, decoded d = .ok (m, lines) := by
  unfold decodedMsg at decode
  cases result : decoded d with
  | error e =>
    rw [result] at decode
    cases decode
  | ok r =>
    rw [result] at decode
    cases decode
    exact ⟨r.2, rfl⟩

/-- A completed message is received in the same step. -/
theorem step_completed {s s' : State} {e : Event} {out : List (Effect Unit)} {d : Str}
    (done : d ∈ completed ⟨s, e, s', out⟩) (made : step s e = some (s', out)) :
    ∃ buffer r, s.control = .acceptMsg buffer ∧ e = .recv r ∧
      (s', out) = s.resume s.stdinBranch (s.client.receive d) := by
  cases control : s.control with
  | acceptMsg buffer =>
    cases e with
    | recv r =>
      simp only [completed, control] at done
      obtain ⟨value, received, complete⟩ := Option.bind_eq_some_iff.mp done
      split at complete
      · rename_i whole
        cases complete
        refine ⟨buffer, r, rfl, rfl, ?_⟩
        rw [step_accepting control, acceptStep_received received, acceptByte, if_pos whole] at made
        exact (Option.some.inj made).symm
      · cases complete
    | _ => simp [completed, control] at done
  | _ => simp [completed, control] at done

/-- **Behind an awaited REPLY in OPEN_STATE** the client blocks on stdin in an iteration that has not
asked for it. -/
theorem not_gated_of_answersInOpen {last : Option (Nat × Revents)} {s s' : State} {e : Event}
    {out : List (Effect Unit)} (held : Reported last s) (made : step s e = some (s', out))
    (answers : AnswersInOpen ⟨s, e, s', out⟩) :
    s'.control = .getline ∧ ¬ Gated ((polled ⟨s, e, s', out⟩).or last) := by
  obtain ⟨isOpen, awaited, d, done, m, decode, reply⟩ := answers
  obtain ⟨buffer, r, control, rfl, answer⟩ := step_completed done made
  obtain ⟨rfl, rfl⟩ := Prod.mk.inj answer
  obtain ⟨lines, decode⟩ := decodedMsg_eq decode
  obtain ⟨stdin, polled', _⟩ := held.accepting buffer control
  have falls : (s.client.receive d).blocked = Option.none := by
    have handler : s.client.handleInbound m = ⟨s.client.replied m, printed [m.printMessage], Option.none⟩ := by
      have isOpen : s.client.clientState = .openState := isOpen
      have awaited : s.client.replyMsgSent = true := awaited
      rcases reply with ok | nok
      · simp [handleInbound, handleOpenState, isOpen, awaited, ok, replied]
      · simp [handleInbound, handleOpenState, isOpen, awaited, nok, replied]
    simp only [receive_eq, decode, handler, Outcome.after_blocked]
  refine ⟨?_, ?_⟩
  · simp only [falls, Option.getD_none, State.stdinBranch, held.awaiting awaited,
      if_true]
  · rintro ⟨reported, same, _⟩
    have same : some (pollCount s.client, stdin) = some (2, reported) := polled'.symm.trans same
    rw [pollCount_of_awaited awaited] at same
    cases same

end TCPClient

/-! ### Both clients -/

/-- Every line of a run of the UDP client is gated. -/
def UDPClient.AllGated (port : UInt16)
    (history : List (Transition UDPClient.State UDPClient.Event (Effect UInt16))) : Prop :=
  ∀ earlier later s, history = earlier ++ later → Run (UDPClient.machine port) earlier s →
    s.control = .getline → Gated (UDPClient.lastPoll earlier)

/-- Every line of a run of the TCP client is gated. -/
def TCPClient.AllGated
    (history : List (Transition TCPClient.State TCPClient.Event (Effect Unit))) : Prop :=
  ∀ earlier later s, history = earlier ++ later → Run TCPClient.machine earlier s →
    s.control = .getline → Gated (TCPClient.lastPoll earlier)

/-- **Stdin gating**: in a run of each client lines are only read when the `poll` of the iteration has
reported stdin, exactly when the TCP client receives no awaited REPLY in OPEN_STATE. -/
theorem stdin_gating_iff {port : UInt16} {s : UDPClient.State} {s' : TCPClient.State}
    {history : List (Transition UDPClient.State UDPClient.Event (Effect UInt16))}
    {history' : List (Transition TCPClient.State TCPClient.Event (Effect Unit))}
    (run : Run (UDPClient.machine port) history s) (run' : Run TCPClient.machine history' s')
    (contract : ∀ t ∈ history, UDPClient.PollContract t)
    (contract' : ∀ t ∈ history', TCPClient.PollContract t) :
    (UDPClient.AllGated port history ∧ TCPClient.AllGated history') ↔
      ∀ t ∈ history', ¬ TCPClient.AnswersInOpen t := by
  constructor
  · rintro ⟨_, gated⟩ t member answers
    obtain ⟨earlier, later, rfl⟩ := List.append_of_mem member
    obtain ⟨before, made, after⟩ := run'.transition
    obtain ⟨reads, ungated⟩ :=
      TCPClient.not_gated_of_answersInOpen (TCPClient.reported_run before) made answers
    have gated' := gated (earlier ++ [t]) later t.after (by simp) after reads
    rw [TCPClient.lastPoll, observe_concat] at gated'
    exact ungated gated'
  · intro clear
    refine ⟨?_, ?_⟩
    · rintro earlier later s rfl run reads
      exact UDPClient.gated_run run (fun t member => contract t (List.mem_append_left _ member)) reads
    · rintro earlier later s rfl run reads
      exact TCPClient.gated_run run (fun t member => contract' t (List.mem_append_left _ member))
        (fun t member => clear t (List.mem_append_left _ member)) reads

/-- A sign-in and a message, in both clients. -/
theorem stdin_gating_signIn :
    UDPClient.AllGated 4567 (((UDPClient.machine 4567).trace UDPClient.booted
        (UDPClient.signIn ++ UDPClient.typed "hello")).getD []) ∧
      TCPClient.AllGated ((TCPClient.machine.trace TCPClient.booted
        (TCPClient.signIn ++ TCPClient.typed "hello")).getD []) := by
  refine (stdin_gating_iff (.reached UDPClient.booted_init rfl) (.reached TCPClient.booted_init rfl)
    ?_ ?_).mpr ?_
  · decide +kernel
  · decide +kernel
  · decide +kernel

/-- A JOIN and the REPLY to it. -/
def TCPClient.joinAnswered : List TCPClient.Event :=
  TCPClient.signIn ++ TCPClient.typed "/join room" ++ TCPClient.served "REPLY OK IS hi"

/-- **Behind the REPLY to a JOIN** the TCP client reads stdin in an iteration that polled the socket
alone. -/
theorem stdin_not_gated :
    Run TCPClient.machine ((TCPClient.machine.trace TCPClient.booted TCPClient.joinAnswered).getD [])
      (TCPClient.machine.reached TCPClient.booted TCPClient.joinAnswered) ∧
    (∀ t ∈ (TCPClient.machine.trace TCPClient.booted TCPClient.joinAnswered).getD [],
      TCPClient.PollContract t) ∧
    (TCPClient.machine.reached TCPClient.booted TCPClient.joinAnswered).control = .getline ∧
    ¬ Gated (TCPClient.lastPoll
      ((TCPClient.machine.trace TCPClient.booted TCPClient.joinAnswered).getD [])) := by
  have last : TCPClient.lastPoll ((TCPClient.machine.trace TCPClient.booted
      TCPClient.joinAnswered).getD []) = some (1, ⟨false, false⟩) := by
    decide +kernel
  refine ⟨.reached TCPClient.booted_init rfl, by decide +kernel, by decide +kernel, ?_⟩
  rw [last]
  rintro ⟨stdin, same, _⟩
  cases same

end Ipk24Chat
