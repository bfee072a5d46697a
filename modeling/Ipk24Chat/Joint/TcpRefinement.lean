/-
**The TCP client implements the dialogue.**

Whatever the bytes, the lines and the signals of a run, and in whichever order they come, they amount to
occurrences of the `Dialogue`: `occurrence` reads them off the steps. A byte is none, a complete message is
one or none.

* `heardAs`: what a message of the server is to the session;
* `receive_performs`, `step_occurs`: one step;
* `tcp_refines`: every run, also one that `SIGPIPE` ends.
-/

import Ipk24Chat.Joint.Machine
import Ipk24Chat.Joint.TcpTurns
import Ipk24Chat.Lib.Refinement
import Ipk24Chat.Tcp.Session

namespace Ipk24Chat

/-- What a message of this type is. -/
def MsgType.incoming : MsgType → Incoming
  | .replyOk => .reply true
  | .replyNok => .reply false
  | .msg => .msg
  | .err => .err
  | .bye => .bye
  | _ => .malformed

namespace TCPClient

open Reactive
open List (Forall₂)

theorem Decides.incoming_type {type : MsgType} (decides : Decides type) : type.incoming.type = type := by
  rcases decides with rfl | rfl | rfl | rfl | rfl | rfl <;> rfl

/-! ### What the events are -/

/-- What a message of the server is to the session. -/
def heardAs (c : TCPClient) (d : Str) : Option Occurrence :=
  match decoded d with
  | .error _ => some .crash
  | .ok m => c.dialogue.occurrence m.1.type.incoming

/-- What a transition is to the session. -/
def occurrence (t : Transition State Event (Effect Unit)) : Option Occurrence :=
  match t.input with
  | .sigint => some .interrupt
  | .poll .failed => some (.closed .failure)
  | .poll (.ready _ _) => none
  | .recv .closed => some (.closed .failure)
  | .recv (.byte _) | .recv (.failed _) => (completed t).bind t.before.client.heardAs
  | .getline none => some .failure
  | .getline (some text) => some (.line text)

/-- What has occurred in a history. -/
def occurrences (history : List (Transition State Event (Effect Unit))) : List Occurrence :=
  history.flatMap fun t => (occurrence t).toList

/-! ### Outcomes -/

/-- What a state is to the dialogue. -/
def State.stage (s : State) : Stage := ⟨s.client.dialogue, s.control.ended⟩

/-- What an outcome leads to. -/
def Outcome.stage (o : Outcome) : Stage := ⟨o.client.dialogue, o.blocked.bind Control.ended⟩

/-- **The outcome is the one of what has occurred.** -/
def Performs (c : TCPClient) (occurred : Option Occurrence) (o : Outcome) : Prop :=
  Dialogue.Leads LineOf ⟨c.dialogue, none⟩ occurred o.stage (sentIn o.effects)

theorem Plays.stage {t : Turn} {o : Outcome} (plays : Plays t o) : o.stage = t.stage := by
  have ended : o.blocked.bind Control.ended = t.ended.map some := by
    cases ended : t.ended with
    | some ret =>
      rw [plays.leaves ret ended]
      rfl
    | none =>
      rcases plays.stays ended with polls | ⟨falls, _⟩
      · rw [polls]
        rfl
      · rw [falls]
        rfl
  rw [Outcome.stage, Turn.stage, plays.dialogue, ended]

theorem Plays.performs {c : TCPClient} {t : Turn} {o : Outcome} (plays : Plays t o)
    {occurred : Occurrence} (occurs : c.dialogue.occur occurred = some t.made) :
    Performs c (some occurred) o := by
  rw [Performs, plays.stage]
  exact Dialogue.leads_occur occurs plays.sent

/-- A turn that is nothing to the session. -/
theorem Plays.performs_none {c : TCPClient} {o : Outcome} (plays : Plays ⟨c.dialogue, [], none⟩ o) :
    Performs c none o := by
  have silent : sentIn o.effects = [] := List.forall₂_nil_left_iff.mp plays.sent
  rw [Performs, plays.stage, silent]
  exact Dialogue.leads_none _

theorem resume_stage (s : State) {back : Control} (stays : back.ended = none) (o : Outcome) :
    (s.resume back o).1.stage = o.stage := by
  show (⟨o.client.dialogue, (o.blocked.getD back).ended⟩ : Stage) = _
  unfold Outcome.stage
  cases o.blocked with
  | none => rw [Option.getD_none, stays, Option.bind_none]
  | some k => rfl

/-! ### Messages of the server -/

/-- A REPLY that is not awaited. -/
theorem stray_plays {c : TCPClient} {d : Str} {r : TCPMessage} {lines : List Output}
    (decode : decoded d = .ok (r, lines)) (reply : IsReply r) (begun : c.clientState ≠ .startState)
    (idle : c.replyMsgSent = false) : Plays ⟨c.dialogue, [], none⟩ (c.receive d) := by
  obtain ⟨client, silent⟩ := receive_stray decode reply begun idle
  refine ⟨congrArg dialogue client, ?_, fun _ ended => (by cases ended), fun _ => ?_⟩
  · rw [silent]
    exact .nil
  · rcases (receive_reply decode reply begun).2 with falls | polls
    · exact Or.inr ⟨falls, by rw [client, idle]⟩
    · exact Or.inl polls

/-- **A message of the server.** -/
theorem receive_performs {c : TCPClient} (named : c.WellNamed) (d : Str) :
    Performs c (c.heardAs d) (c.receive d) := by
  unfold heardAs
  cases decode : decoded d with
  | error e =>
    have aborts : c.receive d = ⟨c, [], some .aborted⟩ := by rw [receive_eq, decode]
    rw [aborts]
    exact ⟨[], .single rfl, .nil⟩
  | ok decoding =>
    obtain ⟨r, lines⟩ := decoding
    have type : r.type = r.type.incoming.type := (decoded_decides decode).incoming_type.symm
    simp only
    generalize r.type.incoming = m at type
    by_cases start : c.clientState = .startState
    · have plays : Plays (c.dialogue.hear m) (c.receive d) := by
        rw [receive_eq, decode]
        refine Plays.after ?_ lines
        simp only [handleInbound, start]
        exact start_plays named type start
      rw [Dialogue.hear_start start] at plays
      rw [Dialogue.occurrence_start start]
      exact plays.performs rfl
    cases what : c.dialogue.occurrence m with
    | some occurred =>
      obtain ⟨occurs, awaits⟩ := Dialogue.occurs_of_some start what
      exact (receive_plays named decode type fun _ => awaits).performs occurs
    | none =>
      obtain ⟨_, ⟨⟨ok, rfl⟩, idle⟩ | ⟨rfl, isOpen⟩⟩ := Dialogue.cases_of_none what
      · refine (stray_plays decode ?_ start idle).performs_none
        cases ok with
        | true => exact Or.inl type
        | false => exact Or.inr type
      · have plays := receive_plays named decode type fun _ _ reply => by cases reply
        rw [Dialogue.hear_msg isOpen] at plays
        exact plays.performs_none

/-! ### Leaving -/

theorem gracefulExit_performs (c : TCPClient) : Performs c (some .interrupt) c.gracefulExit := by
  refine Plays.performs (t := c.dialogue.interrupted) ?_ rfl
  unfold gracefulExit Dialogue.interrupted
  by_cases start : c.clientState = .startState
  · rw [if_pos start, if_pos (show c.dialogue.state = .startState from start)]
    exact exitProgram_plays c false .success
  · rw [if_neg start, if_neg (show ¬ c.dialogue.state = .startState from start)]
    exact exitProgram_plays c true .success

/-- The connection is lost, or `poll` fails. -/
theorem closed_performs (c : TCPClient) (lines : List Output) :
    Performs c (some (.closed .failure)) ((c.exitProgram false .failure).after (printed lines)) :=
  ((exitProgram_plays c false .failure).after lines).performs rfl

/-! ### Steps and runs -/

theorem Control.ended_of_staying {k : Control} (stays : k.leaving = false) : k.ended = none := by
  cases k with
  | exited ret => cases stays
  | aborted => cases stays
  | _ => rfl

theorem stdinBranch_ended (s : State) : s.stdinBranch.ended = none :=
  Control.ended_of_staying (stdinBranch_stays s)

/-- What has occurred in a transition leads from stage to stage. -/
def Occurs (t : Transition State Event (Effect Unit)) : Prop :=
  Dialogue.Leads LineOf t.before.stage (occurrence t) t.after.stage (sentIn t.out)

/-- The step of an outcome. -/
theorem Performs.occurs {s : State} {e : Event} {o : Outcome} {back : Control}
    (performs : Performs s.client (occurrence ⟨s, e, (s.resume back o).1, (s.resume back o).2⟩) o)
    (running : s.control.ended = none) (stays : back.ended = none) :
    Occurs ⟨s, e, (s.resume back o).1, (s.resume back o).2⟩ := by
  unfold Occurs
  rw [resume_stage s stays, State.stage, running]
  exact performs

/-- `poll` returns. -/
theorem ready_occurs (s : State) (running : s.control.ended = none) (socket stdin : Revents) :
    Occurs ⟨s, .poll (.ready socket stdin), (pollStep s (.ready socket stdin)).1,
      (pollStep s (.ready socket stdin)).2⟩ := by
  have quiet : (pollStep s (.ready socket stdin)).1.stage = s.stage ∧
      (pollStep s (.ready socket stdin)).2 = [] := by
    unfold pollStep State.stage
    simp only [running]
    split
    · exact ⟨rfl, rfl⟩
    · simp only [stdinBranch_ended, and_self]
  unfold Occurs
  simp only [occurrence, quiet.1, quiet.2]
  exact Dialogue.leads_none s.stage

/-- A byte that is counted as received. -/
theorem received_occurs {s : State} (named : s.client.WellNamed) {buffer : Str} {r : Recv}
    (accepting : s.control = .acceptMsg buffer) {value : UInt8}
    (received : r.received buffer = some value) :
    Occurs ⟨s, .recv r, (acceptStep s buffer r).1, (acceptStep s buffer r).2⟩ := by
  have running : s.control.ended = none := by
    rw [accepting]
    rfl
  have what (s' : State) (out : List (Effect Unit)) : occurrence ⟨s, .recv r, s', out⟩ =
      if accepted (buffer ++ [value]) = true then s.client.heardAs (buffer ++ [value]) else none := by
    have byte : occurrence ⟨s, .recv r, s', out⟩ =
        (completed ⟨s, .recv r, s', out⟩).bind s.client.heardAs := by
      cases r with
      | closed => cases received
      | byte _ => rfl
      | failed _ => rfl
    rw [byte]
    simp only [completed, accepting, received, Option.bind_some]
    split
    · rfl
    · rfl
  rw [acceptStep_received received, acceptByte]
  split
  next complete =>
    refine Performs.occurs ?_ running (stdinBranch_ended s)
    rw [what, if_pos complete]
    exact receive_performs named _
  next incomplete =>
    unfold Occurs
    rw [what, if_neg incomplete, State.stage, running]
    exact Dialogue.leads_none _

/-- **One step** is what has occurred in it. -/
theorem step_occurs {s s' : State} {e : Event} {out : List (Effect Unit)} (named : s.client.WellNamed)
    (made : step s e = some (s', out)) : Occurs ⟨s, e, s', out⟩ := by
  have running := Control.ended_of_staying (staying_of_step made)
  cases step_calls made with
  | gracefulExit made =>
    obtain ⟨rfl, rfl⟩ := Prod.ext_iff.mp made.symm
    exact Performs.occurs (gracefulExit_performs s.client) running rfl
  | @pollStep result _ _ polling made =>
    obtain ⟨rfl, rfl⟩ := Prod.ext_iff.mp made.symm
    cases result with
    | failed => exact Performs.occurs (closed_performs s.client _) running rfl
    | ready socket stdin => exact ready_occurs s running socket stdin
  | @acceptStep buffer r _ _ accepting made =>
    obtain ⟨rfl, rfl⟩ := Prod.ext_iff.mp made.symm
    cases r with
    | closed => exact Performs.occurs (closed_performs s.client _) running rfl
    | byte value => exact received_occurs named accepting rfl
    | failed held => exact received_occurs named accepting rfl
  | @getlineStep line _ _ reading made =>
    obtain ⟨rfl, rfl⟩ := Prod.ext_iff.mp made.symm
    cases line with
    | none => exact Performs.occurs ((exitProgram_plays s.client true .failure).performs rfl) running rfl
    | some text => exact Performs.occurs ((userLine_plays named text).1.performs rfl) running rfl

/-- **The client implements the dialogue.** -/
theorem implements_dialogue : Implements machine Dialogue.machine State.stage
    (fun t => (occurrence t).toList) (fun t => sentIn t.out) LineOf where
  start := by
    rintro s ⟨revents, rfl⟩
    rfl
  step := fun reachable made => step_occurs (wellNamed_reachable reachable) made

/-- The lines of a history. -/
theorem sentIn_flatMap (history : List (Transition State Event (Effect Unit))) :
    (history.flatMap fun t => sentIn t.out) = sentIn (history.flatMap Transition.out) := by
  unfold sentIn
  rw [List.filterMap_flatMap]

/-- Every run of the program, while the server takes what is sent. -/
theorem machine_refines {history : List (Transition State Event (Effect Unit))} {s : State}
    (run : Run machine history s) : ∃ letters,
      Drive Dialogue.machine ⟨.begun, none⟩ (occurrences history) s.stage letters ∧
      Forall₂ LineOf letters (sentIn (history.flatMap Transition.out)) := by
  obtain ⟨_, letters, rfl, driven, sent⟩ := implements_dialogue.run run
  rw [sentIn_flatMap] at sent
  exact ⟨letters, driven, sent⟩

/-- **Every run of the TCP client is a run of the dialogue** on what has occurred in it: the client is where
the dialogue is, its lines are the letters, and it has ended as the dialogue has. When `SIGPIPE` has killed
it, the lines are the letters up to a place among those of the last step. -/
theorem tcp_refines {history : List (Transition (Option State) (Mortal Event) (Effect Unit))}
    {state : Option State} (run : Run process history state) :
    (∃ lived s letters, state = some s ∧ history = lived.map Transition.survived ∧
      Drive Dialogue.machine ⟨.begun, none⟩ (occurrences lived) s.stage letters ∧
      Forall₂ LineOf letters (sentIn (history.flatMap Transition.out))) ∨
    (∃ lived t place letters uttered silenced, state = none ∧
      history = lived.map Transition.survived ++ [t.broken place] ∧
      machine.step t.before t.input = some (t.after, t.out) ∧
      Drive Dialogue.machine ⟨.begun, none⟩ (occurrences lived) t.before.stage letters ∧
      Drive Dialogue.machine t.before.stage (occurrence t).toList t.after.stage (uttered ++ silenced) ∧
      Forall₂ LineOf (letters ++ uttered) (sentIn (history.flatMap Transition.out))) := by
  cases run.lived with
  | @alive lived s lives =>
    obtain ⟨letters, driven, sent⟩ := machine_refines lives
    exact Or.inl ⟨lived, s, letters, rfl, rfl, driven, by rwa [flatMap_survived]⟩
  | @killed lived t place lives made _ =>
    obtain ⟨letters, driven, sent⟩ := machine_refines lives
    obtain ⟨more, step, said⟩ := step_occurs (wellNamed_reachable lives.reachable) made
    -- the lines of the last step: those before the place, and those the program did not live to send
    have parts : sentIn t.out = sentIn (t.out.take place) ++ sentIn (t.out.drop place) := by
      rw [← sentIn_append, List.take_append_drop]
    rw [parts] at said
    let count := (sentIn (t.out.take place)).length
    refine Or.inr ⟨lived, t, place, letters, more.take count, more.drop count, rfl, rfl, made, driven,
      ?_, ?_⟩
    · rw [List.take_append_drop]
      exact step
    · rw [List.flatMap_append, flatMap_survived, List.flatMap_singleton, sentIn_append]
      exact List.rel_append sent (List.forall₂_take_append _ _ _ said)

/-- A sign-in; then the server says something that is no message, and takes the ERR but not the BYE. -/
def hungUp : List (Mortal Event) :=
  (typed "/auth u s d" ++ (served "HELLO").dropLast).map .lives ++ [.dies (.recv (.byte 10)) 2]

def hungUpHistory : List (Transition (Option State) (Mortal Event) (Effect Unit)) :=
  (process.trace (some booted) hungUp).getD []

theorem tcp_refines_hungUp : ∃ lived t place letters uttered silenced,
    hungUpHistory = lived.map Transition.survived ++ [t.broken place] ∧
    machine.step t.before t.input = some (t.after, t.out) ∧
    Drive Dialogue.machine ⟨.begun, none⟩ (occurrences lived) t.before.stage letters ∧
    Drive Dialogue.machine t.before.stage (occurrence t).toList t.after.stage (uttered ++ silenced) ∧
    Forall₂ LineOf (letters ++ uttered) (sentIn (hungUpHistory.flatMap Transition.out)) := by
  have run : Run process hungUpHistory (process.reached (some booted) hungUp) :=
    .reached ⟨booted, booted_init, rfl⟩ (by decide +kernel)
  have died : process.reached (some booted) hungUp = none := by decide +kernel
  rcases tcp_refines run with ⟨_, _, _, lives, _⟩ | ⟨lived, t, place, letters, uttered, silenced, _, rest⟩
  · rw [died] at lives
    cases lives
  · exact ⟨lived, t, place, letters, uttered, silenced, rest⟩

end TCPClient

end Ipk24Chat
