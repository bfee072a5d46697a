/-
**What a refused line changes.**

A line that is refused with an error is to leave the session as it was, and the display name is to
change only with a `/rename` or with an `/auth` that is sent. Both clients take the name over from the
message before the state decides whether it is sent, and the UDP client waits for the CONFIRM of a text
that it has refused.

* `keepsSession_iff`: the law for a line of any fate, in terms of what else a client changes;
* `refusal_iff`: both clients keep it except for a valid `/auth` with another name in OPEN_STATE, and
  the UDP client except for a refused text in OPEN_STATE as well.
-/

import Ipk24Chat.Stdin.UserInput

namespace Ipk24Chat

open Reactive

/-! ### The law -/

/-- The line is a valid `/auth` with this display name. -/
def AuthAs (name line : Str) : Prop := ∃ u s, command line = .auth u s name

/-- **A line keeps the session**: the name changes by a valid `/rename` or a valid `/auth` that is sent,
and nothing changes when an error is printed. -/
structure KeepsSession {φ dest : Type} (line name name' : Str) (fields fields' : φ)
    (out : List (Effect dest)) : Prop where
  renames : name' ≠ name → command line = .rename name' ∨ (AuthAs name' line ∧ ¬ Silent out)
  refused : Rejected out → name' = name ∧ fields' = fields

/-- A second `/auth`, with another name. -/
def AuthAgain (state : FsmState) (name line : Str) : Prop :=
  state = .openState ∧ ∃ name', name' ≠ name ∧ AuthAs name' line

theorem KeepsSession.refl {φ dest : Type} (line name : Str) (fields : φ) (out : List (Effect dest)) :
    KeepsSession line name name fields fields out :=
  ⟨fun other => absurd rfl other, fun _ => ⟨rfl, rfl⟩⟩

theorem not_authAgain_nil (state : FsmState) (name : Str) : ¬ AuthAgain state name [] := by
  rintro ⟨_, name', _, u, s, auth⟩
  cases auth

/-! ### Lines of any fate -/

/-- Only a `/rename` and an `/auth` bring a name. -/
theorem Command.name_cases {c : Command} {name : Str} (other : c.name name ≠ name) :
    c = .rename (c.name name) ∨ ∃ u s, c = .auth u s (c.name name) := by
  cases c with
  | auth u s d => exact Or.inr ⟨u, s, rfl⟩
  | rename d => exact Or.inl rfl
  | _ => exact absurd rfl other

/-- A `/rename` prints nothing and is not sent. -/
theorem fate_of_rename {name' line : Str} (rename : command line = .rename name') (state : FsmState)
    (awaited : Bool) (name : Str) : fate state awaited name line = ⟨[], none⟩ := by
  unfold fate
  rw [rename]
  rfl

/-- The first `/auth` is sent. -/
theorem fate_of_auth {name' line : Str} (auth : AuthAs name' line) {state : FsmState}
    (closed : state ≠ .openState) (awaited : Bool) (name : Str) :
    fate state awaited name line = ⟨[], some ((command line).request name line)⟩ := by
  obtain ⟨u, s, auth⟩ := auth
  unfold fate
  rw [auth]
  cases state with
  | openState => exact absurd rfl closed
  | startState => rfl
  | authState => rfl

/-- A second `/auth` is refused. -/
theorem fate_of_authAgain {name' line : Str} (auth : AuthAs name' line) (awaited : Bool) (name : Str) :
    fate .openState awaited name line = ⟨[.notice .alreadyAuthorized], none⟩ := by
  obtain ⟨u, s, auth⟩ := auth
  unfold fate
  rw [auth]
  rfl

theorem not_rejects_nil : ¬ Rejects [] := by
  rintro ⟨n, member, _⟩
  cases member

theorem rejects_of_error {n : Notice} (error : n.stream = .cerr) : Rejects [.notice n] :=
  ⟨n, List.mem_singleton_self _, error⟩

/-- **The law for a line of any fate**: a refused line may change nothing else, and no `/auth` with
another name may be refused. -/
theorem keepsSession_iff {φ dest : Type} {line name : Str} {state : FsmState} {awaited : Bool}
    {fields fields' : φ} {out : List (Effect dest)}
    (rejected : Rejected out ↔ Rejects (fate state awaited name line).printed)
    (handed : (fate state awaited name line).handed ≠ none → ¬ Silent out) :
    KeepsSession line name ((command line).name name) fields fields' out ↔
      ¬ AuthAgain state name line ∧ (Rejected out → fields' = fields) := by
  constructor
  · refine fun keeps => ⟨?_, fun refused => (keeps.refused refused).2⟩
    rintro ⟨rfl, name', other, auth⟩
    have refused : Rejected out := by
      rw [rejected, fate_of_authAgain auth]
      exact rejects_of_error rfl
    have same := (keeps.refused refused).1
    obtain ⟨u, s, auth⟩ := auth
    rw [auth] at same
    exact other same
  · rintro ⟨once, unchanged⟩
    -- an `/auth` with another name is not the second one
    have closed : ∀ u s, (command line).name name ≠ name →
        command line = .auth u s ((command line).name name) → state ≠ .openState :=
      fun u s other auth isOpen => once ⟨isOpen, _, other, u, s, auth⟩
    refine ⟨fun other => ?_, fun refused => ⟨?_, unchanged refused⟩⟩
    · rcases Command.name_cases other with rename | ⟨u, s, auth⟩
      · exact Or.inl rename
      · refine Or.inr ⟨⟨u, s, auth⟩, handed ?_⟩
        rw [fate_of_auth ⟨u, s, auth⟩ (closed u s other auth)]
        exact Option.some_ne_none _
    · by_contra other
      rw [rejected] at refused
      rcases Command.name_cases other with rename | ⟨u, s, auth⟩
      · rw [fate_of_rename rename] at refused
        exact not_rejects_nil refused
      · rw [fate_of_auth ⟨u, s, auth⟩ (closed u s other auth)] at refused
        exact not_rejects_nil refused

/-- A command that may be sent is refused only if it is a text. -/
theorem badText_of_rejects {c : Command} (ready : c.ready = true) (rejects : Rejects c.printed) :
    c = .badText := by
  obtain ⟨n, member, error⟩ := rejects
  cases c with
  | badText => rfl
  | rename => cases ready
  | help => cases ready
  | refused => cases ready
  | _ => cases member

/-- A line that is refused and handed over is a text. -/
theorem handed_of_rejects {state : FsmState} {awaited : Bool} {name line : Str}
    (refused : Rejects (fate state awaited name line).printed) :
    (fate state awaited name line).handed = none ∨
      (state = .openState ∧ command line = .badText) := by
  unfold fate at refused ⊢
  cases ready : (command line).ready with
  | false => exact Or.inl rfl
  | true =>
    rw [ready, if_pos rfl] at refused
    cases admits : Admits state (command line).type with
    | false => exact Or.inl rfl
    | true =>
      rw [admits, if_pos rfl] at refused
      have text := badText_of_rejects ready refused
      refine Or.inr ⟨?_, text⟩
      by_contra closed
      have auth := auth_of_admits admits closed
      rw [text] at auth
      cases auth

/-- A refused text is handed over in OPEN_STATE. -/
theorem fate_of_badText {line : Str} (text : command line = .badText) (awaited : Bool) (name : Str) :
    fate .openState awaited name line =
      ⟨[.notice .wrongFormat], some ((command line).request name line)⟩ := by
  unfold fate
  rw [text]
  rfl

theorem Fate.not_silent {dest : Type} {layout : Request → Str} {f : Fate} {target : dest}
    (handed : f.handed ≠ none) : ¬ Silent (f.effects layout target) := by
  obtain ⟨message, some⟩ := Option.ne_none_iff_exists'.mp handed
  intro silent
  exact silent _ target (Fate.mem_send.mpr ⟨message, some, rfl, rfl⟩)

/-! ### The TCP client -/

namespace TCPClient

/-- What a refused line is to leave alone, besides the name. -/
def sessionFields (c : TCPClient) : FsmState × Bool := (c.clientState, c.replyMsgSent)

/-- The client behind a line: it takes the name over, and what a message that is sent changes. -/
theorem userLine_client (c : TCPClient) {line : Str} (typed : line ≠ []) :
    (c.userLine line).client =
      if (fate c.clientState c.replyMsgSent c.dname line).handed = none then
        c.named ((command line).name c.dname)
      else (c.named ((command line).name c.dname)).requested (isRequest (command line).type)
        c.clientState.sent := by
  have type := (c.userMsg_describes line).type
  rw [userLine_eq c typed]
  unfold fate
  cases ready : (command line).ready with
  | false => rfl
  | true =>
    rw [if_pos rfl, if_pos rfl, dispatch_eq, type ready]
    have state : (c.named ((command line).name c.dname)).clientState = c.clientState := rfl
    rw [state]
    cases admits : Admits c.clientState (command line).type with
    | false => rfl
    | true => rfl

theorem userLine_dname (c : TCPClient) (line : Str) :
    (c.userLine line).client.dname = (command line).name c.dname := by
  by_cases typed : line = []
  · subst typed
    rfl
  rw [userLine_client c typed]
  split
  · rfl
  · rfl

/-- A refused line leaves the fields alone. -/
theorem sessionFields_of_rejects (c : TCPClient) {line : Str} (typed : line ≠ [])
    (refused : Rejects (fate c.clientState c.replyMsgSent c.dname line).printed) :
    (c.userLine line).client.sessionFields = c.sessionFields := by
  rw [userLine_client c typed]
  rcases handed_of_rejects refused with kept | ⟨isOpen, text⟩
  · rw [if_pos kept]
    rfl
  · rw [isOpen, fate_of_badText text, if_neg (Option.some_ne_none _), text, sessionFields, sessionFields,
      isOpen]
    rfl

/-- **A line in a run of the TCP client.** -/
theorem keepsSession_iff {s s' : State} {line : Str} {out : List (Effect Unit)}
    (reachable : Reachable machine s) (made : step s (.getline (some line)) = some (s', out)) :
    KeepsSession line s.client.dname s'.client.dname s.client.sessionFields s'.client.sessionFields out
      ↔ ¬ AuthAgain s.client.clientState s.client.dname line := by
  obtain ⟨rfl, rfl⟩ := step_getline made
  show KeepsSession line s.client.dname (s.client.userLine line).client.dname _
    (s.client.userLine line).client.sessionFields _ ↔ _
  by_cases typed : line = []
  · subst typed
    exact iff_of_true (.refl [] _ _ _) (not_authAgain_nil _ _)
  obtain ⟨c', _, follows⟩ := userLine_fate (wellNamed_reachable reachable) typed
  have effects : (s.client.userLine line).effects =
      (fate s.client.clientState s.client.replyMsgSent s.client.dname line).effects Request.tcp () := by
    rw [follows]
    rfl
  rw [effects, userLine_dname s.client line, Ipk24Chat.keepsSession_iff Fate.rejected_iff Fate.not_silent,
    Fate.rejected_iff]
  exact and_iff_left (sessionFields_of_rejects s.client typed)

end TCPClient

/-! ### The UDP client -/

namespace UDPClient

/-- What a refused line is to leave alone, besides the name. -/
def sessionFields (c : UDPClient) : FsmState × Bool × Bool × List UInt16 × List UInt16 :=
  (c.clientState, c.replyMsgSent, c.confirmMsgSent, c.confirmIdVector, c.replyIdVector)

/-- The client behind a line: it takes the name over, and what a message that is sent changes. -/
theorem userLine_client (c : UDPClient) {line : Str} (typed : line ≠ []) :
    ∃ counter, (c.userLine line).client =
      if (fate c.clientState c.replyMsgSent c.dname line).handed = none then
        c.named ((command line).name c.dname) counter
      else ((c.named ((command line).name c.dname) counter).sendUserMsg (c.userMsg line).1
        (isRequest (command line).type) c.clientState.sent).client := by
  have type := (c.userMsg_describes line).type
  rw [userLine_eq c typed]
  unfold fate
  cases ready : (command line).ready with
  | false => exact ⟨c.msgCounter, rfl⟩
  | true =>
    rw [if_pos rfl, if_pos rfl, dispatch_eq, type ready]
    have state : (c.named ((command line).name c.dname) c.msgCounter).clientState = c.clientState := rfl
    rw [state]
    refine ⟨c.msgCounter + 1, ?_⟩
    cases admits : Admits c.clientState (command line).type with
    | false => rfl
    | true => rfl

theorem userLine_dname (c : UDPClient) (line : Str) :
    (c.userLine line).client.dname = (command line).name c.dname := by
  by_cases typed : line = []
  · subst typed
    rfl
  obtain ⟨counter, client⟩ := userLine_client c typed
  rw [client]
  split
  · rfl
  · rfl

/-- A refused line leaves the fields alone, unless it is a text in OPEN_STATE. -/
theorem sessionFields_iff (c : UDPClient) {line : Str} (typed : line ≠ []) :
    (Rejects (fate c.clientState c.replyMsgSent c.dname line).printed →
        (c.userLine line).client.sessionFields = c.sessionFields) ↔
      ¬ (c.clientState = .openState ∧ RefusedText line) := by
  obtain ⟨counter, client⟩ := userLine_client c typed
  rw [client, ← command_eq_badText_iff]
  constructor
  · rintro unchanged ⟨isOpen, text⟩
    rw [isOpen, fate_of_badText text, if_neg (Option.some_ne_none _)] at unchanged
    have same := unchanged (rejects_of_error rfl)
    have ids : c.confirmIdVector ++ [(c.userMsg line).1.messageId] = c.confirmIdVector :=
      congrArg (fun fields => fields.2.2.2.1) same
    simp at ids
  · intro clear refused
    rcases handed_of_rejects refused with kept | text
    · rw [if_pos kept]
      rfl
    · exact absurd text clear

/-- **A line in a run of the UDP client.** -/
theorem keepsSession_iff {port : UInt16} {s s' : State} {line : Str} {out : List (Effect UInt16)}
    (reachable : Reachable (machine port) s)
    (made : step s (.getline (some line)) = some (s', out)) :
    KeepsSession line s.client.dname s'.client.dname s.client.sessionFields s'.client.sessionFields out
      ↔ ¬ AuthAgain s.client.clientState s.client.dname line ∧
        ¬ (s.client.clientState = .openState ∧ RefusedText line) := by
  obtain ⟨rfl, rfl⟩ := step_getline made
  show KeepsSession line s.client.dname (s.client.userLine line).client.dname _
    (s.client.userLine line).client.sessionFields _ ↔ _
  by_cases typed : line = []
  · subst typed
    refine iff_of_true (.refl [] _ _ _) ⟨not_authAgain_nil _ _, ?_⟩
    rintro ⟨_, word, member, _⟩
    cases member
  have follows := userLine_fate (wellNamed_reachable reachable) typed
  rw [follows.effects, userLine_dname s.client line,
    Ipk24Chat.keepsSession_iff Fate.rejected_iff Fate.not_silent, Fate.rejected_iff,
    sessionFields_iff s.client typed]

end UDPClient

/-! ### Both clients -/

/-- **What a refused line changes**: in both clients nothing, except that a valid `/auth` with another
name in OPEN_STATE changes the name, and that the UDP client in OPEN_STATE waits for the CONFIRM of a
text that it has refused. -/
theorem refusal_iff (port : UInt16) (line : Str) :
    (∀ (s s' : TCPClient.State) (out : List (Effect Unit)),
      Reachable TCPClient.machine s → TCPClient.step s (.getline (some line)) = some (s', out) →
      (KeepsSession line s.client.dname s'.client.dname s.client.sessionFields
          s'.client.sessionFields out ↔
        ¬ AuthAgain s.client.clientState s.client.dname line)) ∧
    (∀ (s s' : UDPClient.State) (out : List (Effect UInt16)),
      Reachable (UDPClient.machine port) s →
      UDPClient.step s (.getline (some line)) = some (s', out) →
      (KeepsSession line s.client.dname s'.client.dname s.client.sessionFields
          s'.client.sessionFields out ↔
        ¬ AuthAgain s.client.clientState s.client.dname line ∧
          ¬ (s.client.clientState = .openState ∧ RefusedText line))) :=
  ⟨fun _ _ _ reachable made => TCPClient.keepsSession_iff reachable made,
    fun _ _ _ reachable made => UDPClient.keepsSession_iff reachable made⟩

/-- An unknown command at the start of a session, in both clients. -/
theorem refusal_unknown :
    KeepsSession (bytes "/prikaz") [] [] TCPClient.booted.client.sessionFields
        TCPClient.booted.client.sessionFields [(.print (.notice .wrongCommand) : Effect Unit)] ∧
      KeepsSession (bytes "/prikaz") [] [] UDPClient.booted.client.sessionFields
        UDPClient.booted.client.sessionFields [(.print (.notice .wrongCommand) : Effect UInt16)] := by
  obtain ⟨tcp, udp⟩ := refusal_iff 4567 (bytes "/prikaz")
  refine ⟨(tcp (TCPClient.machine.reached TCPClient.booted [TCPClient.stdinReady])
      (TCPClient.machine.reached TCPClient.booted (TCPClient.typed "/prikaz")) _
      (Run.reached TCPClient.booted_init rfl).reachable ?_).mpr fun again => absurd again.1 ?_,
    (udp ((UDPClient.machine 4567).reached UDPClient.booted [UDPClient.stdinReady])
      ((UDPClient.machine 4567).reached UDPClient.booted (UDPClient.typed "/prikaz")) _
      (Run.reached UDPClient.booted_init rfl).reachable ?_).mpr
      ⟨fun again => absurd again.1 ?_, fun text => absurd text.1 ?_⟩⟩
  · decide +kernel
  · decide +kernel
  · decide +kernel
  · decide +kernel
  · decide +kernel

/-- `std::getline` waits for a line behind a sign-in. -/
def TCPClient.prompted : TCPClient.State :=
  TCPClient.machine.reached TCPClient.booted (TCPClient.signIn ++ [TCPClient.stdinReady])

/-- A second `/auth`. -/
def TCPClient.authAgain : TCPClient.State :=
  TCPClient.machine.reached TCPClient.booted (TCPClient.signIn ++ TCPClient.typed "/auth u s other")

def UDPClient.prompted : UDPClient.State :=
  (UDPClient.machine 4567).reached UDPClient.booted (UDPClient.signIn ++ [UDPClient.stdinReady])

/-- A text with a tab. -/
def UDPClient.tabTyped : UDPClient.State :=
  (UDPClient.machine 4567).reached UDPClient.booted (UDPClient.signIn ++ UDPClient.typed "a\tb")

/-- **A second `/auth`** is refused and changes the name, and the UDP client waits for the CONFIRM of a
text that it has refused. -/
theorem refusal_authAgain :
    Reachable TCPClient.machine TCPClient.prompted ∧
    TCPClient.step TCPClient.prompted (.getline (some (bytes "/auth u s other"))) =
      some (TCPClient.authAgain, [.print (.notice .alreadyAuthorized)]) ∧
    ¬ KeepsSession (bytes "/auth u s other") TCPClient.prompted.client.dname
      TCPClient.authAgain.client.dname TCPClient.prompted.client.sessionFields
      TCPClient.authAgain.client.sessionFields
      [(.print (.notice .alreadyAuthorized) : Effect Unit)] ∧
    Reachable (UDPClient.machine 4567) UDPClient.prompted ∧
    UDPClient.step UDPClient.prompted (.getline (some (bytes "a\tb"))) =
      some (UDPClient.tabTyped, [.print (.notice .wrongFormat), .send [] 5000]) ∧
    ¬ KeepsSession (bytes "a\tb") UDPClient.prompted.client.dname UDPClient.tabTyped.client.dname
      UDPClient.prompted.client.sessionFields UDPClient.tabTyped.client.sessionFields
      [(.print (.notice .wrongFormat) : Effect UInt16), .send [] 5000] := by
  refine ⟨(Run.reached TCPClient.booted_init rfl).reachable, by decide +kernel, fun keeps => ?_,
    (Run.reached UDPClient.booted_init rfl).reachable, by decide +kernel, fun keeps => ?_⟩
  · have same := (keeps.refused ⟨.alreadyAuthorized, List.mem_cons_self, rfl⟩).1
    revert same
    decide +kernel
  · have same := (keeps.refused ⟨.wrongFormat, List.mem_cons_self, rfl⟩).2
    revert same
    decide +kernel

end Ipk24Chat
