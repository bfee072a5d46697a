/-
**The dialogue as a machine**, over everything that may happen to a client.

An `Occurrence` is what an event means for the session, whatever the transport and whatever it takes to
notice it. The machine takes a REPLY only when one is awaited, and nothing behind its end but a SIGINT on
the way out of a failure.

* `Dialogue.machine`: what each occurrence changes, says and ends.
-/

import Ipk24Chat.Joint.Dialogue
import Ipk24Chat.Lib.Reactive

namespace Ipk24Chat

inductive Occurrence
  | line (text : Str)
  /-- The REPLY to the request that is outstanding. -/
  | reply (ok : Bool)
  /-- A message that is not expected in the state, or of no known form. -/
  | unexpected
  /-- An ERR of the server, the end of the input, or a message that is never confirmed. -/
  | failure
  /-- There is no one left to talk to. -/
  | closed (ret : ExitCode)
  | interrupt
  /-- The decoder throws. -/
  | crash
  deriving DecidableEq, Repr

/-- How the program has ended, without an exit status when it has been aborted. -/
abbrev Ending := Option ExitCode

/-- The dialogue, and the end of the program. -/
structure Stage where
  dialogue : Dialogue
  ended : Option Ending
  deriving DecidableEq, Repr

/-- Where a turn leads. -/
def Turn.stage (t : Turn) : Stage := ⟨t.dialogue, t.ended.map some⟩

/-- The turn as a step. -/
def Turn.made (t : Turn) : Stage × List Letter := (t.stage, t.sent)

namespace Dialogue

open Reactive
open List (Forall₂)

def begun : Dialogue := ⟨.startState, false, []⟩

/-- `Signal_handler::graceful_exit`. -/
def interrupted (d : Dialogue) : Turn :=
  ⟨d, if d.state = .startState then [] else [.bye], some .success⟩

/-- What an occurrence means while the program runs. -/
def occur (d : Dialogue) : Occurrence → Option (Stage × List Letter)
  | .line text => some (d.line text).made
  | .reply ok =>
    if d.awaited = true ∧ d.state ≠ .startState then some (d.hear (.reply ok)).made else none
  | .unexpected => some d.reject.made
  | .failure => some (Turn.made ⟨d, [.bye], some .failure⟩)
  | .closed ret => some (Turn.made ⟨d, [], some ret⟩)
  | .interrupt => some d.interrupted.made
  | .crash => some (⟨d, some none⟩, [])

/-- The machine; on the way out a SIGINT takes leave once more, unless one has been the cause. -/
def machine : Machine Stage Occurrence Letter where
  init σ := σ = ⟨begun, none⟩
  step σ o :=
    match σ.ended, o with
    | none, o => σ.dialogue.occur o
    | some (some .failure), .interrupt => some σ.dialogue.interrupted.made
    | _, _ => none

/-- **What has occurred leads from one stage to another**, with letters that have been carried so. -/
def Leads (carries : Letter → Str → Prop) (σ : Stage) (occurred : Option Occurrence) (σ' : Stage)
    (sent : List Str) : Prop :=
  ∃ letters, Drive machine σ occurred.toList σ' letters ∧ Forall₂ carries letters sent

variable {carries : Letter → Str → Prop} {d : Dialogue} {sent : List Str}

/-- Nothing occurs. -/
theorem leads_none (σ : Stage) : Leads carries σ none σ [] := ⟨[], .done, .nil⟩

/-- Something occurs while the program runs, and it is a turn. -/
theorem leads_occur {o : Occurrence} {t : Turn} (occurs : d.occur o = some t.made)
    (carried : Forall₂ carries t.sent sent) : Leads carries ⟨d, none⟩ (some o) t.stage sent :=
  ⟨t.sent, .single occurs, carried⟩

/-- A SIGINT, before the end and on the way out of a failure. -/
theorem leads_interrupt {ended : Option Ending} (free : ended = none ∨ ended = some (some .failure))
    (carried : Forall₂ carries d.interrupted.sent sent) :
    Leads carries ⟨d, ended⟩ (some .interrupt) d.interrupted.stage sent := by
  refine ⟨d.interrupted.sent, .single ?_, carried⟩
  rcases free with rfl | rfl
  · rfl
  · rfl

/-! ### Messages -/

/-- What a message of the server is to the session; a REPLY that is not awaited is nothing. -/
def occurrence (d : Dialogue) (m : Incoming) : Option Occurrence :=
  match d.state, m with
  | .startState, _ => some .unexpected
  | _, .reply ok => if d.awaited then some (.reply ok) else none
  | _, .err => some .failure
  | .openState, .msg => none
  | .openState, .bye => some (.closed .success)
  | _, _ => some .unexpected

theorem occurrence_start {d : Dialogue} (start : d.state = .startState) (m : Incoming) :
    d.occurrence m = some .unexpected := by
  unfold occurrence
  rw [start]

/-- **The machine and `hear`**: what is something to the session is heard, a REPLY when it is awaited. -/
theorem occurs_of_some {d : Dialogue} {m : Incoming} {o : Occurrence}
    (begun : d.state ≠ .startState) (what : d.occurrence m = some o) :
    d.occur o = some (d.hear m).made ∧ ∀ ok, m = .reply ok → d.awaited = true := by
  obtain ⟨state, awaited, name⟩ := d
  cases state with
  | startState => exact absurd rfl begun
  | authState =>
    cases m with
    | reply ok =>
      cases awaited <;> cases what
      exact ⟨by cases ok <;> rfl, fun _ _ => rfl⟩
    | _ =>
      cases what
      exact ⟨rfl, fun _ reply => by cases reply⟩
  | openState =>
    cases m with
    | reply ok =>
      cases awaited <;> cases what
      exact ⟨rfl, fun _ _ => rfl⟩
    | msg => cases what
    | _ =>
      cases what
      exact ⟨rfl, fun _ reply => by cases reply⟩

/-- What is nothing to the session: a REPLY that is not awaited, and a MSG in OPEN_STATE. -/
theorem cases_of_none {d : Dialogue} {m : Incoming} (what : d.occurrence m = none) :
    d.state ≠ .startState ∧
      ((∃ ok, m = .reply ok) ∧ d.awaited = false ∨ m = .msg ∧ d.state = .openState) := by
  obtain ⟨state, awaited, name⟩ := d
  cases state with
  | startState => cases what
  | authState =>
    cases m with
    | reply ok =>
      cases awaited <;> cases what
      exact ⟨FsmState.noConfusion, Or.inl ⟨⟨ok, rfl⟩, rfl⟩⟩
    | _ => cases what
  | openState =>
    cases m with
    | reply ok =>
      cases awaited <;> cases what
      exact ⟨FsmState.noConfusion, Or.inl ⟨⟨ok, rfl⟩, rfl⟩⟩
    | msg => exact ⟨FsmState.noConfusion, Or.inr ⟨rfl, rfl⟩⟩
    | _ => cases what

end Dialogue

end Ipk24Chat
