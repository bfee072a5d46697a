/-
**The framing of the TCP stream.**

`acceptMsg` is the loop of `accept_msg` over any connection on which each `recv` yields one byte;
`drive_ends` says that the machine runs this loop.

* `crlfLoop_iff_index`: the rescan finds a CRLF anywhere in what has been received;
* `ends_iff`: a call is over behind the first CRLF, or behind 1500 bytes without one;
* `framing`: messages are taken off the stream one by one, and no byte is written past the buffer.
-/

import Ipk24Chat.Lib.Framing
import Ipk24Chat.Stdin.Gating

namespace Ipk24Chat

open Reactive Framing

namespace TCPClient

/-- The line ending. -/
def crlf : Str := [13, 10]

/-- The rescan of `accept_msg` over all that has been received. -/
def found (buffer : Str) : Bool := crlfLoop buffer (buffer.length - 1) 0

/-- `accept_msg` on a connection read with `recv`: the bytes received, and the connection left. -/
def acceptMsg {κ : Type} (recv : κ → Option (UInt8 × κ)) (k : κ) : Option (Str × κ) :=
  collect recv found BUFFER_SIZE [] k

/-- The results of a number of calls. -/
def acceptMsgs {κ : Type} (recv : κ → Option (UInt8 × κ)) (count : Nat) (k : κ) :
    Option (List Str × κ) :=
  frames recv found BUFFER_SIZE count k

/-! ### The rescan -/

theorem crlfLoop_iff_index (buffer : Str) (remaining i : Nat) :
    crlfLoop buffer remaining i = true ↔
      ∃ j, i ≤ j ∧ j < i + remaining ∧ buffer.getD j 0 = 13 ∧ buffer.getD (j + 1) 0 = 10 := by
  induction remaining generalizing i with
  | zero =>
    refine iff_of_false Bool.false_ne_true ?_
    rintro ⟨j, least, most, _⟩
    omega
  | succ remaining ih =>
    unfold crlfLoop
    by_cases here : buffer.getD i 0 = 13 ∧ buffer.getD (i + 1) 0 = 10
    · rw [if_pos here]
      exact iff_of_true rfl ⟨i, Nat.le_refl i, by omega, here⟩
    · rw [if_neg here, ih]
      constructor
      · rintro ⟨j, least, most, there⟩
        exact ⟨j, by omega, by omega, there⟩
      · rintro ⟨j, least, most, there⟩
        refine ⟨j, ?_, by omega, there⟩
        rcases Nat.eq_or_lt_of_le least with rfl | later
        · exact absurd there here
        · exact later

/-- **The rescan finds a CRLF** wherever it stands. -/
theorem found_iff (buffer : Str) : found buffer = true ↔ crlf <:+: buffer := by
  unfold found
  rw [crlfLoop_iff_index]
  constructor
  · rintro ⟨j, _, inside, cr, lf⟩
    have first : j < buffer.length := by omega
    have second : j + 1 < buffer.length := by omega
    rw [← List.getElem_eq_getD (h := first) 0] at cr
    rw [← List.getElem_eq_getD (h := second) 0] at lf
    have split : buffer.drop j = 13 :: 10 :: buffer.drop (j + 1 + 1) := by
      rw [List.drop_eq_getElem_cons first, List.drop_eq_getElem_cons second, cr, lf]
    refine ⟨buffer.take j, buffer.drop (j + 1 + 1), ?_⟩
    calc buffer.take j ++ crlf ++ buffer.drop (j + 1 + 1)
        = buffer.take j ++ (13 :: 10 :: buffer.drop (j + 1 + 1)) := by simp [crlf]
      _ = buffer := by rw [← split, List.take_append_drop]
  · rintro ⟨before, after, rfl⟩
    refine ⟨before.length, Nat.zero_le _, ?_, ?_, ?_⟩
    · simp only [crlf, List.length_append, List.length_cons, List.length_nil]
      omega
    · simp [crlf, List.getD]
    · simp [crlf, List.getD]

/-! ### The end of a call -/

/-- A message that fits: it ends in its first CRLF. -/
structure Framed (message : Str) : Prop where
  ends : crlf <:+ message
  first : ¬ crlf <:+: message.dropLast
  fits : message.length ≤ BUFFER_SIZE

/-- A full buffer without a CRLF. -/
def Unframed (message : Str) : Prop := message.length = BUFFER_SIZE ∧ ¬ crlf <:+: message

/-- A part that is not the whole is in all but the last byte. -/
theorem prefix_dropLast {before after : Str} (behind : after ≠ []) :
    before <+: (before ++ after).dropLast := by
  rw [List.dropLast_append_of_ne_nil behind]
  exact List.prefix_append before _

/-- A CRLF that is not in all but the last byte is at the end. -/
theorem ends_of_first {message : Str} (inside : crlf <:+: message)
    (first : ¬ crlf <:+: message.dropLast) : crlf <:+ message := by
  obtain ⟨before, after, rfl⟩ := inside
  by_cases behind : after = []
  · rw [behind, List.append_nil]
    exact List.suffix_append before crlf
  · have early : before ++ crlf <+: (before ++ crlf ++ after).dropLast := prefix_dropLast behind
    exact absurd ((List.suffix_append before crlf).isInfix.trans early.isInfix) first

/-- **Where a call stops.** -/
theorem ends_iff (message : Str) :
    Ends found BUFFER_SIZE [] message ↔ Framed message ∨ Unframed message := by
  constructor
  · intro done
    have first : ¬ crlf <:+: message.dropLast := by
      intro early
      have nonempty : message ≠ [] := done.ne_nil
      have clear := done.first message.dropLast [message.getLast nonempty]
        (List.dropLast_append_getLast nonempty).symm ?_ (List.cons_ne_nil _ _)
      · rw [List.nil_append, ← Bool.not_eq_true, found_iff] at clear
        exact clear early
      · intro empty
        rw [empty] at early
        exact absurd early (by decide)
    by_cases inside : crlf <:+: message
    · exact Or.inl ⟨ends_of_first inside first, first, done.fits⟩
    · refine Or.inr ⟨?_, inside⟩
      rcases done.ends with ⟨_, holds⟩ | full
      · exact absurd ((found_iff message).mp holds) inside
      · exact full
  · intro stops
    have clear : ¬ crlf <:+: message.dropLast := by
      rcases stops with framed | ⟨_, never⟩
      · exact framed.first
      · exact fun early => never (early.trans (List.dropLast_prefix message).isInfix)
    refine ⟨?_, ?_, ?_⟩
    · rcases stops with framed | ⟨full, _⟩
      · exact framed.fits
      · exact Nat.le_of_eq full
    · rcases stops with framed | ⟨full, _⟩
      · refine Or.inl ⟨?_, (found_iff _).mpr framed.ends.isInfix⟩
        rintro rfl
        exact absurd framed.ends (by decide)
      · exact Or.inr full
    · rintro before after rfl _ behind
      rw [List.nil_append, ← Bool.not_eq_true, found_iff]
      exact fun early => clear (early.trans (prefix_dropLast behind).isInfix)

/-! ### Calls -/

section Calls

variable {κ : Type} {recv : κ → Option (UInt8 × κ)}

/-- **What a call returns**: the bytes up to the first CRLF, or 1500 bytes without one. -/
theorem acceptMsg_iff {message : Str} {k k' : κ} :
    acceptMsg recv k = some (message, k') ↔
      Reads recv k message k' ∧ (Framed message ∨ Unframed message) := by
  unfold acceptMsg
  rw [collect_iff]
  constructor
  · rintro ⟨more, rfl, reads, done⟩
    exact ⟨reads, (ends_iff _).mp done⟩
  · rintro ⟨reads, stops⟩
    exact ⟨message, rfl, reads, (ends_iff _).mpr stops⟩

/-- **A call returns** when there is a CRLF or when 1500 bytes come. -/
theorem acceptMsg_returns {stream : Str} {k k' : κ} (reads : Reads recv k stream k')
    (enough : crlf <:+: stream ∨ BUFFER_SIZE ≤ stream.length) :
    ∃ message k'', acceptMsg recv k = some (message, k'') := by
  refine collect_of_reads reads ?_
  rcases enough with inside | long
  · refine Or.inr ⟨stream, [], (List.append_nil _).symm, ?_, (found_iff _).mpr inside⟩
    rintro rfl
    exact absurd inside (by decide)
  · exact Or.inl long

/-- **Calls take the messages off the stream.** -/
theorem acceptMsgs_flatten {messages : List Str} (framed : ∀ m ∈ messages, Framed m) {k k' : κ}
    (reads : Reads recv k messages.flatten k') :
    acceptMsgs recv messages.length k = some (messages, k') :=
  frames_flatten (fun m member => (ends_iff m).mpr (Or.inl (framed m member))) reads

end Calls

/-! ### The machine -/

/-- The answers of `recv` that deliver these bytes. -/
def arrivals (message : Str) : List Event := message.map fun b => .recv (.byte b)

theorem accepted_eq (buffer : Str) :
    accepted buffer = (found buffer || !decide (buffer.length ≤ BUFFER_SIZE - 1)) := rfl

/-- One byte that does not end the message. -/
theorem step_byte {s : State} {buffer : Str} {b : UInt8} (accepting : s.control = .acceptMsg buffer)
    (goes_on : accepted (buffer ++ [b]) = false) :
    machine.step s (.recv (.byte b)) = some ({ s with control := .acceptMsg (buffer ++ [b]) }, []) := by
  show step s _ = _
  rw [step_accepting accepting]
  simp only [acceptStep, acceptByte, goes_on]
  rfl

/-- The last byte of the message. -/
theorem step_last {s : State} {buffer : Str} {b : UInt8} (accepting : s.control = .acceptMsg buffer)
    (complete : accepted (buffer ++ [b]) = true) :
    machine.step s (.recv (.byte b)) =
      some (s.resume s.stdinBranch (s.client.receive (buffer ++ [b]))) := by
  show step s _ = _
  rw [step_accepting accepting]
  simp only [acceptStep, acceptByte, complete, if_true]

/-- The client handles a message and comes to its next blocking call, whose place in the program
does not depend on the bytes received before. -/
theorem resume_control (s : State) (control : Control) (o : Outcome) :
    State.resume { s with control := control } (State.stdinBranch { s with control := control }) o =
      s.resume s.stdinBranch o := rfl

/-- **The machine runs `accept_msg`**, byte by byte, and then handles what it has returned. -/
theorem drive_ends {more : Str} : ∀ {room : Nat} {buffer : Str} {s : State},
    s.control = .acceptMsg buffer → buffer.length + (room + 1) = BUFFER_SIZE →
    Ends found (room + 1) buffer more →
    Drive machine s (arrivals more)
      (s.resume s.stdinBranch (s.client.receive (buffer ++ more))).1
      (s.resume s.stdinBranch (s.client.receive (buffer ++ more))).2 := by
  induction more with
  | nil =>
    intro room buffer s _ _ done
    exact absurd rfl done.ne_nil
  | cons b rest ih =>
    intro room buffer s accepting size done
    have length : (buffer ++ [b]).length = buffer.length + 1 := by simp
    cases here : found (buffer ++ [b]) with
    | true =>
      obtain rfl := done.eq_single here
      have complete : accepted (buffer ++ [b]) = true := by rw [accepted_eq, here, Bool.true_or]
      exact .single (step_last accepting complete)
    | false =>
      have behind := (Ends.cons_iff here).mp done
      cases room with
      | zero =>
        obtain rfl := behind.eq_nil
        have complete : accepted (buffer ++ [b]) = true := by
          have full : ¬ (buffer ++ [b]).length ≤ BUFFER_SIZE - 1 := by
            unfold BUFFER_SIZE at size ⊢
            omega
          rw [accepted_eq, decide_eq_false full]
          simp
        exact .single (step_last accepting complete)
      | succ room =>
        have goes_on : accepted (buffer ++ [b]) = false := by
          have space : (buffer ++ [b]).length ≤ BUFFER_SIZE - 1 := by
            unfold BUFFER_SIZE at size ⊢
            omega
          rw [accepted_eq, here, decide_eq_true space]
          rfl
        have later := ih (s := { s with control := .acceptMsg (buffer ++ [b]) }) rfl
          (by omega) behind
        rw [resume_control, List.append_assoc] at later
        exact .more (step_byte accepting goes_on) later

/-- **The two ways to a `recv`**: `accept_msg` is entered, or has received a byte that does not end the
message. -/
theorem accepting_of_step {s s' : State} {e : Event} {out : List (Effect Unit)} {buffer' : Str}
    (made : step s e = some (s', out)) (accepting : s'.control = .acceptMsg buffer') :
    (∃ result, e = .poll result ∧ buffer' = []) ∨
      ∃ buffer r value, e = .recv r ∧ s.control = .acceptMsg buffer ∧ r.received buffer = some value ∧
        accepted (buffer ++ [value]) = false ∧ buffer' = buffer ++ [value] := by
  cases step_moves made with
  | leave back leaving =>
    exact absurd accepting (Control.ne_of_leaving (leaving.resume s back) rfl)
  | poll socket stdin _ =>
    unfold pollStep at accepting
    simp only at accepting
    split at accepting
    · cases accepting
      exact Or.inl ⟨_, rfl, rfl⟩
    · unfold State.stdinBranch at accepting
      split at accepting <;> cases accepting
  | byte buffer r value control received more =>
    cases accepting
    exact Or.inr ⟨buffer, r, value, rfl, control, received, more, rfl⟩
  | message buffer r value control received complete heard =>
    rcases heard.control s with (polls | leaves) | ⟨_, reads, _⟩
    · cases polls.symm.trans accepting
    · exact absurd accepting (Control.ne_of_leaving leaves rfl)
    · cases reads.symm.trans accepting
  | line text control lined => cases lined <;> cases accepting

/-- The message that is being received is not complete. -/
def Unfinished (s : State) : Prop := ∀ buffer, s.control = .acceptMsg buffer → accepted buffer = false

theorem unfinished_reachable {s : State} (reached : Reachable machine s) : Unfinished s := by
  refine reached.invariant Unfinished ?_ ?_
  · rintro s ⟨revents, rfl⟩ buffer accepting
    cases accepting
  · intro s e s' out _ made buffer accepting
    rcases accepting_of_step made accepting with ⟨_, _, rfl⟩ | ⟨_, _, _, _, _, _, more, rfl⟩
    · rfl
    · exact more

/-- What is not complete leaves room for a byte. -/
theorem room_of_unfinished {buffer : Str} (unfinished : accepted buffer = false) :
    buffer.length < BUFFER_SIZE ∧ ¬ crlf <:+: buffer := by
  rw [accepted_eq, Bool.or_eq_false_iff] at unfinished
  refine ⟨?_, fun inside => ?_⟩
  · have space : buffer.length ≤ BUFFER_SIZE - 1 := by simpa using unfinished.2
    unfold BUFFER_SIZE at space ⊢
    omega
  · rw [(found_iff buffer).mpr inside] at unfinished
    cases unfinished.1

/-- There is room for the byte that is waited for. -/
def Roomy (s : State) : Prop := ∀ buffer, s.control = .acceptMsg buffer → buffer.length < BUFFER_SIZE

/-- **No byte is written past the buffer.** -/
theorem roomy_reachable {s : State} (reached : Reachable machine s) : Roomy s :=
  fun buffer accepting => (room_of_unfinished (unfinished_reachable reached buffer accepting)).1

/-- The byte that completes a message ends it at its first CRLF, or fills the buffer. -/
theorem stops_of_accepted {buffer : Str} {value : UInt8} (unfinished : accepted buffer = false)
    (complete : accepted (buffer ++ [value]) = true) :
    Framed (buffer ++ [value]) ∨ Unframed (buffer ++ [value]) := by
  obtain ⟨room, clear⟩ := room_of_unfinished unfinished
  have length : (buffer ++ [value]).length = buffer.length + 1 := by simp
  have first : ¬ crlf <:+: (buffer ++ [value]).dropLast := by
    rw [List.dropLast_concat]
    exact clear
  by_cases inside : crlf <:+: buffer ++ [value]
  · exact Or.inl ⟨ends_of_first inside first, first, by omega⟩
  · refine Or.inr ⟨?_, inside⟩
    have silent : found (buffer ++ [value]) = false := by
      rw [← Bool.not_eq_true, found_iff]
      exact inside
    rw [accepted_eq, silent, Bool.false_or] at complete
    have full : ¬ (buffer ++ [value]).length ≤ BUFFER_SIZE - 1 := by simpa using complete
    unfold BUFFER_SIZE at full room ⊢
    omega

/-- **What a run completes** ends in its first CRLF, or fills the buffer. -/
theorem completed_stops {s : State} {history : List (Transition State Event (Effect Unit))}
    (run : Run machine history s) {t : Transition State Event (Effect Unit)} (member : t ∈ history)
    {d : Str} (done : d ∈ completed t) : Framed d ∨ Unframed d := by
  obtain ⟨earlier, later, rfl⟩ := List.append_of_mem member
  obtain ⟨before, _, _⟩ := run.transition
  obtain ⟨⟨client, nfds, revents, control⟩, e, s', out⟩ := t
  cases control with
  | acceptMsg buffer =>
    have unfinished := unfinished_reachable before.reachable buffer rfl
    cases e with
    | recv r =>
      obtain ⟨value, _, complete⟩ := Option.bind_eq_some_iff.mp done
      split at complete
      · rename_i whole
        cases complete
        exact stops_of_accepted unfinished whole
      · cases complete
    | _ => cases done
  | _ => cases e <;> cases done

/-! ### Framing -/

/-- **TCP framing**, on every connection: calls take the messages off the stream one by one; a call
returns the bytes up to the first CRLF, or 1500 bytes without one, once they come; the machine runs
this loop, and never receives past the buffer. -/
theorem framing {κ : Type} (recv : κ → Option (UInt8 × κ)) :
    (∀ {messages : List Str} {k k' : κ}, (∀ m ∈ messages, Framed m) →
      Reads recv k messages.flatten k' →
      acceptMsgs recv messages.length k = some (messages, k')) ∧
    (∀ {message : Str} {k k' : κ}, acceptMsg recv k = some (message, k') ↔
      Reads recv k message k' ∧ (Framed message ∨ Unframed message)) ∧
    (∀ {stream : Str} {k k' : κ}, Reads recv k stream k' →
      (crlf <:+: stream ∨ BUFFER_SIZE ≤ stream.length) → (acceptMsg recv k).isSome = true) ∧
    (∀ {s : State} {message : Str} {k k' : κ}, s.control = .acceptMsg [] →
      acceptMsg recv k = some (message, k') →
      Drive machine s (arrivals message) (s.resume s.stdinBranch (s.client.receive message)).1
        (s.resume s.stdinBranch (s.client.receive message)).2) ∧
    (∀ {s : State} {buffer : Str}, Reachable machine s → s.control = .acceptMsg buffer →
      buffer.length < BUFFER_SIZE) := by
  refine ⟨?_, acceptMsg_iff, ?_, ?_, ?_⟩
  · intro messages k k' framed reads
    exact acceptMsgs_flatten framed reads
  · intro stream k k' reads enough
    obtain ⟨message, k'', returned⟩ := acceptMsg_returns reads enough
    rw [returned]
    rfl
  · intro s message k k' accepting returned
    have stops := (acceptMsg_iff.mp returned).2
    have size : ([] : Str).length + (1499 + 1) = BUFFER_SIZE := rfl
    exact drive_ends accepting size ((ends_iff message).mpr stops)
  · intro s buffer reached accepting
    exact roomy_reachable reached buffer accepting

/-- `recv` of one byte when the stream arrives in segments. -/
def recvSegments : List Str → Option (UInt8 × List Str)
  | [] => none
  | [] :: rest => recvSegments rest
  | (b :: segment) :: rest => some (b, segment :: rest)

/-- An empty segment is passed over. -/
theorem Reads.behind_empty {segments left : List Str} {stream : Str}
    (reads : Reads recvSegments segments stream left) :
    ∃ left', Reads recvSegments ([] :: segments) stream left' := by
  cases reads with
  | nil => exact ⟨_, .nil⟩
  | cons yields behind => exact ⟨left, .cons yields behind⟩

/-- However it is cut, the stream is read. -/
theorem reads_segments (segments : List Str) :
    ∃ left, Reads recvSegments segments segments.flatten left := by
  induction segments with
  | nil => exact ⟨[], .nil⟩
  | cons segment rest ih =>
    induction segment with
    | nil =>
      obtain ⟨left, reads⟩ := ih
      exact Reads.behind_empty reads
    | cons b segment more =>
      obtain ⟨left, reads⟩ := more
      exact ⟨left, .cons rfl reads⟩

/-- Two messages in three segments, the first of which ends in a lone CR. -/
theorem framing_segments :
    ∃ left, acceptMsgs recvSegments 2
        [bytes "BYE" ++ [13], [10] ++ bytes "REPLY OK", bytes " IS x" ++ crlf] =
      some ([bytes "BYE" ++ crlf, bytes "REPLY OK IS x" ++ crlf], left) := by
  obtain ⟨left, reads⟩ := reads_segments
    [bytes "BYE" ++ [13], [10] ++ bytes "REPLY OK", bytes " IS x" ++ crlf]
  have stream : [bytes "BYE" ++ [13], [10] ++ bytes "REPLY OK", bytes " IS x" ++ crlf].flatten =
      [bytes "BYE" ++ crlf, bytes "REPLY OK IS x" ++ crlf].flatten := by
    decide +kernel
  rw [stream] at reads
  have framed : ∀ m ∈ [bytes "BYE" ++ crlf, bytes "REPLY OK IS x" ++ crlf], Framed m := by
    intro m member
    rcases List.mem_cons.mp member with rfl | member
    · exact ⟨by decide +kernel, by decide +kernel, by decide +kernel⟩
    · rw [List.mem_singleton.mp member]
      exact ⟨by decide +kernel, by decide +kernel, by decide +kernel⟩
  exact ⟨left, (framing recvSegments).1 framed reads⟩

end TCPClient

end Ipk24Chat
