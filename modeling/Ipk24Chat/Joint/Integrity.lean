/-
**Nothing is said for the user that has not been typed.**

What a client sends on behalf of the user is part of what the lines ask for, in their order and at most once
each, under the display name that was in force when the line was typed; and this name is a matter of the
lines alone. Shown for the `Dialogue`, and so for both clients.

* `asks_of_drive`: the dialogue;
* `tcp_integrity`, `udp_integrity`: every run of either client.
-/

import Ipk24Chat.Joint.UdpRefinement

namespace Ipk24Chat

open Reactive
open List (Forall₂ Sublist)

/-! ### What is typed and what is said -/

/-- The line that has been typed. -/
def Occurrence.typed : Occurrence → Option Str
  | .line text => some text
  | _ => none

/-- The message of the user. -/
def Letter.asks : Letter → Option Request
  | .request r => some r
  | _ => none

/-- The display name behind some lines. -/
def renamed (name : Str) (lines : List Str) : Str :=
  lines.foldl (fun name line => (command line).name name) name

/-- What some lines ask for, each under the name in force. -/
def asked : Str → List Str → List Request
  | _, [] => []
  | name, line :: lines => ((command line).request name line).toList ++ asked ((command line).name name) lines

theorem renamed_append (name : Str) (lines more : List Str) :
    renamed name (lines ++ more) = renamed (renamed name lines) more := List.foldl_append

theorem asked_append (name : Str) (lines more : List Str) :
    asked name (lines ++ more) = asked name lines ++ asked (renamed name lines) more := by
  induction lines generalizing name with
  | nil => rfl
  | cons line lines ih =>
    simp only [List.cons_append, asked, ih, List.append_assoc]
    rfl

/-! ### The dialogue -/

namespace Dialogue

/-- A line says what it asks for, or nothing. -/
theorem line_asks (d : Dialogue) (text : Str) :
    Sublist ((d.line text).sent.filterMap Letter.asks) ((command text).request d.name text).toList ∧
      (d.line text).dialogue.name = (command text).name d.name := by
  have requests (requests : List Request) :
      (requests.map Letter.request).filterMap Letter.asks = requests := by
    simp [List.filterMap_map, Function.comp_def, Letter.asks]
  by_cases typed : text = []
  · subst typed
    exact ⟨List.nil_sublist _, rfl⟩
  by_cases kept : (command text).ready = false ∨ Admits d.state (command text).type = false
  · rw [line_kept typed kept]
    exact ⟨List.nil_sublist _, rfl⟩
  · obtain ⟨ready, admits⟩ := not_or.mp kept
    rw [Bool.not_eq_false] at ready admits
    rw [line_admitted typed ready admits]
    refine ⟨?_, rfl⟩
    simp only [requests]
    exact .refl _

/-- A message of the server changes no name. -/
theorem hear_name (d : Dialogue) (m : Incoming) : (d.hear m).dialogue.name = d.name := by
  unfold hear
  split <;> rfl

/-- A SIGINT says nothing for the user. -/
theorem interrupted_asks (d : Dialogue) :
    Sublist (d.interrupted.sent.filterMap Letter.asks) (asked d.name []) := by
  unfold interrupted
  split
  · exact List.nil_sublist _
  · exact List.nil_sublist _

/-- What is said while the program runs. -/
theorem asks_of_occur {d : Dialogue} {σ' : Stage} {o : Occurrence} {letters : List Letter}
    (occurs : d.occur o = some (σ', letters)) :
    Sublist (letters.filterMap Letter.asks) (asked d.name o.typed.toList) ∧
      σ'.dialogue.name = renamed d.name o.typed.toList := by
  cases o with
  | line text =>
    cases occurs
    obtain ⟨said, name⟩ := d.line_asks text
    refine ⟨?_, name⟩
    show Sublist _ (((command text).request d.name text).toList ++ [])
    rw [List.append_nil]
    exact said
  | reply ok =>
    simp only [occur] at occurs
    split at occurs
    next awaited =>
      cases occurs
      have silent : (d.hear (.reply ok)).sent = [] := by
        cases state : d.state with
        | startState => exact absurd state awaited.2
        | authState => simp only [hear, state]
        | openState => simp only [hear, state]
      refine ⟨?_, d.hear_name _⟩
      rw [silent]
      exact List.nil_sublist _
    next => cases occurs
  | interrupt =>
    cases occurs
    exact ⟨interrupted_asks d, rfl⟩
  | _ =>
    cases occurs
    exact ⟨List.nil_sublist _, rfl⟩

/-- **One step** says nothing that has not been asked for. -/
theorem asks_of_step {σ σ' : Stage} {o : Occurrence} {letters : List Letter}
    (made : machine.step σ o = some (σ', letters)) :
    Sublist (letters.filterMap Letter.asks) (asked σ.dialogue.name o.typed.toList) ∧
      σ'.dialogue.name = renamed σ.dialogue.name o.typed.toList := by
  obtain ⟨d, ended⟩ := σ
  cases ended with
  | none => exact asks_of_occur made
  | some ending =>
    cases ending with
    | none => cases made
    | some ret =>
      cases ret with
      | success => cases made
      | failure =>
        cases o with
        | interrupt =>
          cases made
          exact ⟨interrupted_asks d, rfl⟩
        | _ => cases made

/-- **A drive of the dialogue** says what has been asked for, in order and at most once. -/
theorem asks_of_drive {σ σ' : Stage} {occurred : List Occurrence} {letters : List Letter}
    (driven : Drive machine σ occurred σ' letters) :
    Sublist (letters.filterMap Letter.asks)
        (asked σ.dialogue.name (occurred.filterMap Occurrence.typed)) ∧
      σ'.dialogue.name = renamed σ.dialogue.name (occurred.filterMap Occurrence.typed) := by
  induction driven with
  | done => exact ⟨List.nil_sublist _, rfl⟩
  | @more σ σ₁ σ' o occurred letters more made _ ih =>
    obtain ⟨said, name⟩ := asks_of_step made
    obtain ⟨later, name'⟩ := ih
    have typed : (o :: occurred).filterMap Occurrence.typed =
        o.typed.toList ++ occurred.filterMap Occurrence.typed := by
      rw [List.filterMap_cons]
      cases o.typed <;> rfl
    rw [typed, asked_append, renamed_append, ← name, List.filterMap_append]
    exact ⟨said.append later, name'⟩

end Dialogue

/-! ### Both clients -/

/-- What has been typed of what has occurred. -/
theorem typed_of_occurrences {α : Type} {occurred : α → Option Occurrence} {typed : α → Option Str}
    (history : List α) (same : ∀ t, (occurred t).bind Occurrence.typed = typed t) :
    (history.flatMap fun t => (occurred t).toList).filterMap Occurrence.typed =
      history.filterMap typed := by
  rw [List.filterMap_flatMap, List.filterMap_eq_flatMap_toList]
  refine List.flatMap_congr fun t _ => ?_
  rw [← same]
  cases occurred t with
  | none => rfl
  | some o =>
    rw [Option.toList_some, Option.bind_some, List.filterMap_cons]
    cases o.typed <;> rfl

namespace TCPClient

/-- The lines that have been read. -/
def typedIn (history : List (Transition State Event (Effect Unit))) : List Str :=
  history.filterMap fun t =>
    match t.input with
    | .getline line => line
    | _ => none

theorem heardAs_typed (c : TCPClient) (d : Str) : (c.heardAs d).bind Occurrence.typed = none := by
  unfold heardAs
  split
  · rfl
  · unfold Dialogue.occurrence
    split
    · rfl
    · split <;> rfl
    all_goals rfl

theorem occurrence_typed (t : Transition State Event (Effect Unit)) :
    (occurrence t).bind Occurrence.typed = match t.input with
      | .getline line => line
      | _ => none := by
  obtain ⟨s, e, s', out⟩ := t
  cases e with
  | sigint => rfl
  | poll result => cases result <;> rfl
  | recv r =>
    have message : ((completed ⟨s, .recv r, s', out⟩).bind s.client.heardAs).bind Occurrence.typed =
        none := by
      simp only [Option.bind_assoc, heardAs_typed, Option.bind_fun_none]
    cases r with
    | closed => rfl
    | byte value => exact message
    | failed held => exact message
  | getline line => cases line <;> rfl

/-- **Every run of the TCP client**: the requests on the wire are part of what the lines read ask for, in
order and at most once each, and the display name is the one of the last line that sets one. -/
theorem tcp_integrity {history : List (Transition State Event (Effect Unit))} {s : State}
    (run : Run machine history s) : ∃ letters,
      Forall₂ LineOf letters (sentIn (history.flatMap Transition.out)) ∧
      Sublist (letters.filterMap Letter.asks) (asked [] (typedIn history)) ∧
      s.client.dname = renamed [] (typedIn history) := by
  obtain ⟨letters, driven, sent⟩ := machine_refines run
  obtain ⟨said, name⟩ := Dialogue.asks_of_drive driven
  rw [occurrences, typed_of_occurrences history occurrence_typed] at said name
  exact ⟨letters, sent, said, name⟩

/-- A sign-in, a message of the server, and a line. -/
def welcomed : List Event := signIn ++ served "MSG FROM x IS hi" ++ typed "hello"

def welcomedHistory : List (Transition State Event (Effect Unit)) :=
  (machine.trace booted welcomed).getD []

theorem tcp_integrity_welcomed : ∃ letters,
    Forall₂ LineOf letters (sentIn (welcomedHistory.flatMap Transition.out)) ∧
    Sublist (letters.filterMap Letter.asks) (asked [] (typedIn welcomedHistory)) ∧
    (machine.reached booted welcomed).client.dname = renamed [] (typedIn welcomedHistory) :=
  tcp_integrity (.reached booted_init rfl)

end TCPClient

namespace UDPClient

/-- The lines that have been read. -/
def typedIn (history : List (Transition State Event (Effect UInt16))) : List Str :=
  history.filterMap fun t =>
    match t.input with
    | .getline line => line
    | _ => none

theorem handledAs_typed (c : UDPClient) (d : Str) : (c.handledAs d).bind Occurrence.typed = none := by
  have reply : (c.replyAs d).bind Occurrence.typed = none := by
    unfold replyAs
    split <;> rfl
  have chat : (some (if 7 ≤ d.length then Occurrence.unexpected else .failure)).bind
      Occurrence.typed = none := by
    split <;> rfl
  unfold handledAs
  split
  · rfl
  cases c.clientState with
  | startState => rfl
  | authState =>
    cases kind d with
    | reply =>
      dsimp only
      split
      · exact reply
      · rfl
    | msg => exact chat
    | _ => rfl
  | openState =>
    cases kind d with
    | reply =>
      dsimp only
      split
      · exact reply
      · rfl
    | msg =>
      dsimp only
      split
      · rfl
      · rfl
    | _ => rfl

theorem heardAs_typed (c : UDPClient) (d : Str) : (c.heardAs d).bind Occurrence.typed = none := by
  unfold heardAs
  split
  · split
    · rfl
    · rfl
  · exact handledAs_typed c d

theorem occurrence_typed (t : Transition State Event (Effect UInt16)) :
    (occurrence t).bind Occurrence.typed = match t.input with
      | .getline line => line
      | _ => none := by
  obtain ⟨⟨client, nfds, revents, control⟩, e, s', out⟩ := t
  cases e with
  | sigint => cases control <;> rfl
  | poll result =>
    cases result with
    | failed => cases control <;> rfl
    | ready socket stdin => cases control <;> rfl
  | getline line =>
    cases line with
    | none => cases control <;> rfl
    | some text => cases control <;> rfl
  | recvfrom r =>
    cases control with
    | acceptMsg =>
      simp only [occurrence]
      split
      · split
        · rfl
        · rfl
      · exact heardAs_typed client r.buffer
    | handleTimeout m k =>
      simp only [occurrence]
      split
      · split
        · rfl
        · rfl
      · split
        · rfl
        · exact handledAs_typed client r.buffer
    | _ => rfl

/-- **Every run of the UDP client**, over any network: what is sent for the first time is part of what the
lines read ask for, in order and at most once each, and the display name is the one of the last line
that sets one. -/
theorem udp_integrity {port : UInt16} {history : List (Transition State Event (Effect UInt16))}
    {s : State} (run : Run (machine port) history s) : ∃ letters,
      Forall₂ DatagramOf letters (history.flatMap spokenIn) ∧
      Sublist (letters.filterMap Letter.asks) (asked [] (typedIn history)) ∧
      s.client.dname = renamed [] (typedIn history) := by
  obtain ⟨_, letters, rfl, driven, sent⟩ := (implements_dialogue port).run run
  obtain ⟨said, name⟩ := Dialogue.asks_of_drive driven
  rw [typed_of_occurrences history occurrence_typed] at said name
  exact ⟨letters, sent, said, name⟩

theorem udp_integrity_lossy : ∃ letters,
    Forall₂ DatagramOf letters (lossyHistory.flatMap spokenIn) ∧
    Sublist (letters.filterMap Letter.asks) (asked [] (typedIn lossyHistory)) ∧
    ((machine 4567).reached booted lossy).client.dname = renamed [] (typedIn lossyHistory) :=
  udp_integrity (.reached booted_init rfl)

end UDPClient

end Ipk24Chat
