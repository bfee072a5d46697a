/-
**When the decoder throws.**

The decoder cuts the text three places behind the first `is`, one for the blank. A message that ends
in a CRLF has room for them; a full buffer without one may end in `is`, and `substr` throws.

* `decoded_error_iff`: the decoder throws exactly when the cut lies outside what was received;
* `error_iff_overrun`: of what `accept_msg` returns, these are the full buffers that end in their first
  `is` (`Overrun`);
* `neverThrows_iff`: a run is free of the exception exactly when it completes no such buffer.
-/

import Ipk24Chat.Tcp.Grammar

namespace Ipk24Chat

open Scan TCPClient Reactive

/-! ### The cut -/

/-- The branches that cut out a text. -/
def Extracts (line : Str) : Prop :=
  4 ≤ wordCount line ∧
    ((Spells (word line 0) (bytes "REPLY") ∧
        (Spells (word line 1) (bytes "OK") ∨ Spells (word line 1) (bytes "NOK"))) ∨
      Spells (word line 0) (bytes "ERR") ∨ Spells (word line 0) (bytes "MSG"))

instance (line : Str) : Decidable (Extracts line) := inferInstanceAs (Decidable (_ ∧ _))

/-- In these branches the text is cut inside of what was received. -/
def InRange (line : Str) : Prop :=
  Extracts line → ∀ position, searchIs line = some position → position + 3 ≤ line.length

theorem extract_error_iff (line : Str) : extractMessage line = .error .outOfRange ↔
    ∃ position, searchIs line = some position ∧ line.length < position + 3 := by
  unfold extractMessage
  cases found : searchIs line with
  | none => exact iff_of_false (by simp) (by simp)
  | some position =>
    simp only [substr, Option.some.injEq, exists_eq_left']
    by_cases inside : position + 3 ≤ line.length
    · rw [if_pos inside]
      exact iff_of_false (by simp [Except.map]) (by omega)
    · rw [if_neg inside]
      exact iff_of_true rfl (by omega)

theorem map_error_iff {α β : Type} {f : α → β} {x : Except OutOfRange α} :
    x.map f = .error .outOfRange ↔ x = .error .outOfRange := by
  cases x with
  | error e => simp [Except.map]
  | ok a => simp [Except.map]

/-- The decoder throws in the branches that cut out a text, when the cut throws. -/
theorem decoded_error (line : Str) : decoded line = .error .outOfRange ↔
    Extracts line ∧ extractMessage line = .error .outOfRange := by
  have fewer : ∀ {P : Prop}, wordCount line < 4 → ¬ (Extracts line ∧ P) := by
    rintro P few ⟨⟨several, _⟩, _⟩
    omega
  unfold decoded TCPMessage.processInboundMsg
  simp only [NetworkMessage.new, List.take_length, if_true]
  by_cases empty : (words isspace line).length = 0
  · rw [if_pos empty]
    exact iff_of_false (by simp) (fewer (by unfold wordCount; omega))
  rw [if_neg empty]
  by_cases bye : (words isspace line).length = 1 ∧
      ((words isspace line).getD 0 []).map toupper = bytes "BYE"
  · rw [if_pos bye]
    exact iff_of_false (by simp) (fewer (by unfold wordCount; omega))
  rw [if_neg bye]
  by_cases ok : (words isspace line).length ≥ 4 ∧
      ((words isspace line).getD 0 []).map toupper = bytes "REPLY" ∧
      ((words isspace line).getD 1 []).map toupper = bytes "OK"
  · rw [if_pos ok, TCPMessage.replyBranch, map_error_iff]
    exact (and_iff_right ⟨ok.1, Or.inl ⟨ok.2.1, Or.inl ok.2.2⟩⟩).symm
  rw [if_neg ok]
  by_cases nok : (words isspace line).length ≥ 4 ∧
      ((words isspace line).getD 0 []).map toupper = bytes "REPLY" ∧
      ((words isspace line).getD 1 []).map toupper = bytes "NOK"
  · rw [if_pos nok, TCPMessage.replyBranch, map_error_iff]
    exact (and_iff_right ⟨nok.1, Or.inl ⟨nok.2.1, Or.inr nok.2.2⟩⟩).symm
  rw [if_neg nok]
  by_cases err : (words isspace line).length ≥ 4 ∧
      ((words isspace line).getD 0 []).map toupper = bytes "ERR"
  · rw [if_pos err, TCPMessage.chatBranch, map_error_iff]
    exact (and_iff_right ⟨err.1, Or.inr (Or.inl err.2)⟩).symm
  rw [if_neg err]
  by_cases msg : (words isspace line).length ≥ 4 ∧
      ((words isspace line).getD 0 []).map toupper = bytes "MSG"
  · rw [if_pos msg, TCPMessage.chatBranch, map_error_iff]
    exact (and_iff_right ⟨msg.1, Or.inr (Or.inr msg.2)⟩).symm
  rw [if_neg msg]
  refine iff_of_false (by simp) ?_
  rintro ⟨⟨several, ⟨reply, isOk | isNok⟩ | isErr | isMsg⟩, _⟩
  · exact ok ⟨several, reply, isOk⟩
  · exact nok ⟨several, reply, isNok⟩
  · exact err ⟨several, isErr⟩
  · exact msg ⟨several, isMsg⟩

/-- **The decoder throws** exactly when the cut lies outside of what was received. -/
theorem decoded_error_iff (line : Str) : decoded line = .error .outOfRange ↔ ¬ InRange line := by
  rw [decoded_error, extract_error_iff]
  unfold InRange
  constructor
  · rintro ⟨extracts, position, found, beyond⟩ inside
    have := inside extracts position found
    omega
  · intro outside
    by_contra never
    refine outside fun extracts position found => ?_
    by_contra beyond
    exact never ⟨extracts, position, found, by omega⟩

/-! ### Full buffers -/

/-- A full buffer that ends in its first `is`. -/
def Overrun (d : Str) : Prop :=
  d.length = BUFFER_SIZE ∧ searchIs d = some (BUFFER_SIZE - 2) ∧ Extracts d

instance (d : Str) : Decidable (Overrun d) := inferInstanceAs (Decidable (_ ∧ _ ∧ _))

/-- A message that ends in its only CRLF is decoded. -/
theorem inRange_of_framed {d : Str} (framed : Framed d) : InRange d := by
  by_contra outside
  have thrown := (decoded_error d).mp ((decoded_error_iff d).mpr outside)
  rcases extract_framed framed with ⟨_, extracted⟩ | ⟨_, text, extracted⟩
  · cases extracted.symm.trans thrown.2
  · cases extracted.symm.trans thrown.2

/-- **Of what `accept_msg` returns**, the cut leaves the full buffers that end in their first `is`. -/
theorem inRange_iff {d : Str} (stops : Framed d ∨ Unframed d) : InRange d ↔ ¬ Overrun d := by
  constructor
  · rintro inside ⟨full, found, extracts⟩
    have := inside extracts _ found
    rw [full] at this
    exact absurd this (by decide)
  · intro other
    rcases stops with framed | ⟨full, _⟩
    · exact inRange_of_framed framed
    · intro extracts position found
      have bound : position + 2 ≤ d.length := search_bound (by decide) found
      by_contra beyond
      refine other ⟨full, ?_, extracts⟩
      have place : position = BUFFER_SIZE - 2 := by omega
      rw [found, place]

theorem error_iff_overrun {d : Str} (stops : Framed d ∨ Unframed d) :
    decoded d = .error .outOfRange ↔ Overrun d := by
  rw [decoded_error_iff, inRange_iff stops, not_not]

/-! ### The end of the program -/

namespace TCPClient

/-- The handlers of a decoded message exit or return. -/
theorem handleInbound_blocked (c : TCPClient) (m : TCPMessage) :
    (c.handleInbound m).blocked ≠ some .aborted := by
  unfold handleInbound
  cases c.clientState with
  | startState =>
    simp only [handleStartState]
    split <;> simp [sendErr, exitProgram]
  | authState =>
    unfold handleAuthState
    simp only
    split
    · split <;> simp [toPoll]
    · split <;> simp [toPoll]
    · simp [exitProgram]
    · simp [sendErr, exitProgram]
    · simp [sendErr, exitProgram]
    · simp [sendErr, exitProgram]
    · simp
  | openState =>
    unfold handleOpenState
    simp only
    split
    · simp [exitProgram]
    · simp [exitProgram]
    · split <;> simp
    · split <;> simp
    · simp [toPoll]
    · simp [sendErr, exitProgram]

/-- `poll`, the user and a signal do not abort the program. -/
theorem recv_of_aborted {s s' : State} {e : Event} {out : List (Effect Unit)}
    (made : step s e = some (s', out)) (aborted : s'.control = .aborted) :
    ∃ buffer r, s.control = .acceptMsg buffer ∧ e = .recv r ∧ (s', out) = acceptStep s buffer r := by
  cases step_calls made with
  | @acceptStep buffer r _ _ accepting made => exact ⟨buffer, r, accepting, rfl, made.symm⟩
  | gracefulExit made =>
    unfold gracefulExit at made
    split at made
    · cases made
      cases aborted
    · cases made
      cases aborted
  | @pollStep result _ _ polling made =>
    cases result with
    | failed =>
      cases made
      cases aborted
    | ready socket stdin =>
      simp only [pollStep] at made
      split at made
      · cases made
        cases aborted
      · cases made
        unfold State.stdinBranch at aborted
        simp only at aborted
        split at aborted <;> cases aborted
  | @getlineStep line _ _ reading made =>
    cases line with
    | none =>
      cases made
      cases aborted
    | some text =>
      cases made
      have lined := userLine_lined s.client text
      generalize s.client.userLine text = o at aborted lined
      cases lined with
      | kept => cases aborted
      | sent => cases aborted

/-- A message aborts the program only when the decoder throws at it. -/
theorem receive_aborted {s : State} {d : Str}
    (aborted : (s.resume s.stdinBranch (s.client.receive d)).1.control = .aborted) :
    decoded d = .error .outOfRange := by
  cases decode : decoded d with
  | error e => cases e; rfl
  | ok m =>
    exfalso
    have blocked := handleInbound_blocked s.client m.1
    rw [receive_eq, decode] at aborted
    simp only [State.resume, Outcome.after_blocked] at aborted
    cases falls : (s.client.handleInbound m.1).blocked with
    | none =>
      rw [falls] at aborted
      unfold State.stdinBranch at aborted
      simp only [Option.getD_none] at aborted
      split at aborted
      · cases aborted
      · cases aborted
    | some k =>
      rw [falls] at aborted
      exact absurd (falls.trans (congrArg some aborted)) blocked

/-- **The program aborts** in the step that completes a message the decoder throws at, and in no
other. -/
theorem aborted_iff {s s' : State} {e : Event} {out : List (Effect Unit)}
    (made : step s e = some (s', out)) :
    s'.control = .aborted ↔ ∃ d ∈ completed ⟨s, e, s', out⟩, decoded d = .error .outOfRange := by
  constructor
  · intro aborted
    obtain ⟨buffer, r, control, rfl, accepts⟩ := recv_of_aborted made aborted
    cases received : r.received buffer with
    | none =>
      cases r with
      | closed =>
        cases accepts
        cases aborted
      | byte value => cases received
      | failed held => cases received
    | some value =>
      rw [acceptStep_received received, acceptByte] at accepts
      by_cases whole : accepted (buffer ++ [value]) = true
      · rw [if_pos whole] at accepts
        cases accepts
        exact ⟨buffer ++ [value], by simp [completed, control, received, whole], receive_aborted aborted⟩
      · rw [if_neg whole] at accepts
        cases accepts
        cases aborted
  · rintro ⟨d, done, thrown⟩
    obtain ⟨buffer, r, _, rfl, answer⟩ := step_completed done made
    rw [receive_eq, thrown] at answer
    exact congrArg (·.1.control) answer

/-- An aborted run has completed a message that the decoder throws at. -/
theorem thrown_of_aborted {s : State} {history : List (Transition State Event (Effect Unit))}
    (run : Run machine history s) (aborted : s.control = .aborted) :
    ∃ t ∈ history, ∃ d ∈ completed t, decoded d = .error .outOfRange := by
  cases run with
  | start initial =>
    obtain ⟨revents, rfl⟩ := initial
    cases aborted
  | next _ made =>
    exact ⟨_, List.mem_append_right _ (List.mem_singleton_self _), (aborted_iff made).mp aborted⟩

/-! ### Runs -/

/-- **The decoder does not throw** in a run: every message completed is decoded, with the cut inside,
and the program is not aborted. -/
def NeverThrows (history : List (Transition State Event (Effect Unit))) : Prop :=
  ∀ t ∈ history, t.after.control ≠ .aborted ∧ ∀ d ∈ completed t,
    InRange d ∧ ∃ m, decoded d = .ok m

/-- **The exception**: a run is free of it exactly when no message that it completes is a full buffer
that ends in its first `is`. -/
theorem neverThrows_iff {s : State} {history : List (Transition State Event (Effect Unit))}
    (run : Run machine history s) :
    NeverThrows history ↔ ∀ t ∈ history, ∀ d ∈ completed t, ¬ Overrun d := by
  constructor
  · intro never t member d done
    exact (inRange_iff (completed_stops run member done)).mp ((never t member).2 d done).1
  · intro clear t member
    have inside : ∀ d ∈ completed t, InRange d := fun d done =>
      (inRange_iff (completed_stops run member done)).mpr (clear t member d done)
    refine ⟨fun aborted => ?_, fun d done => ⟨inside d done, ?_⟩⟩
    · obtain ⟨earlier, later, rfl⟩ := List.append_of_mem member
      obtain ⟨d, done, thrown⟩ := (aborted_iff run.transition.2.1).mp aborted
      exact (decoded_error_iff d).mp thrown (inside d done)
    · cases decode : decoded d with
      | error e =>
        cases e
        exact absurd (inside d done) ((decoded_error_iff d).mp decode)
      | ok m => exact ⟨m, rfl⟩

/-- The sign-in: the REPLY ends in its CRLF. -/
theorem neverThrows_signIn : NeverThrows ((machine.trace booted signIn).getD []) := by
  refine (neverThrows_iff (.reached booted_init rfl)).mpr ?_
  decide +kernel

/-- 1500 bytes without a CRLF that end in `is`. -/
def overrun : Str := bytes "MSG FROM a " ++ List.replicate 1487 120 ++ bytes "is"

/-- **A server that sends them aborts the client.** -/
theorem overrun_throws : ∃ history s, Run machine history s ∧
    history.map Transition.input =
      .poll (.ready ⟨true, false⟩ ⟨false, false⟩) :: arrivals overrun ∧
    s.control = .aborted ∧ ¬ NeverThrows history := by
  have quiet : ¬ crlf <:+: overrun := by
    intro inside
    have member : (13 : UInt8) ∈ overrun := inside.subset (by decide)
    exact absurd member (by decide +kernel)
  have full : overrun.length = BUFFER_SIZE := by decide +kernel
  have thrown : decoded overrun = .error .outOfRange :=
    (error_iff_overrun (Or.inr ⟨full, quiet⟩)).mpr (by decide +kernel)
  have size : ([] : Str).length + (1499 + 1) = BUFFER_SIZE := rfl
  have polled : machine.step booted (.poll (.ready ⟨true, false⟩ ⟨false, false⟩)) =
      some ({ booted with control := .acceptMsg [] }, []) := rfl
  have received := drive_ends (s := { booted with control := .acceptMsg [] }) rfl size
    ((ends_iff overrun).mpr (Or.inr ⟨full, quiet⟩))
  obtain ⟨history, run, inputs, _⟩ := (Run.start booted_init).drive (.more polled received)
  have answer : booted.client.receive ([] ++ overrun) = ⟨booted.client, [], some .aborted⟩ := by
    rw [List.nil_append, receive_eq, thrown]
  rw [show State.client { booted with control := .acceptMsg [] } = booted.client from rfl, answer]
    at run
  refine ⟨history, _, run, inputs, rfl, fun never => ?_⟩
  obtain ⟨t, member, d, done, thrown⟩ := thrown_of_aborted run rfl
  obtain ⟨m, decode⟩ := ((never t member).2 d done).2
  cases decode.symm.trans thrown

end TCPClient

end Ipk24Chat
