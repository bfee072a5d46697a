/-
**The exit status of both clients.**

`exit_program` is called in many places, each with its own status. Over whole runs the status comes down to
two causes: the user has interrupted the program, or, over TCP, `accept_msg` has completed a BYE in an open
session. Over UDP that BYE is a failure, and `send_confim_exit` is never reached with one. A TCP client that
`SIGPIPE` kills has no exit status.

* `receive_success_iff`: the messages of the server that end the TCP client with success;
* `tcp_succeeds_iff`, `udp_succeeds_iff`: the runs that end with success;
* `interrupted_once`: the handler of SIGINT, which ends so, runs once.
-/

import Ipk24Chat.Stdin.Gating
import Ipk24Chat.Udp.Stepping

namespace Ipk24Chat

open Reactive

namespace TCPClient

/-- `accept_msg` has completed a BYE in OPEN_STATE; a `recv` that fails counts the byte left in the buffer. -/
def Dismissed (t : Transition State Event (Effect Unit)) : Prop :=
  t.before.client.clientState = .openState ∧ ∃ m, (completed t).bind decodedMsg = some m ∧ m.type = .bye

/-- The control behind an outcome is that of the outcome when it is not the one to go back to. -/
theorem resume_control_iff (s : State) {back k : Control} (other : back ≠ k) (o : Outcome) :
    (s.resume back o).1.control = k ↔ o.blocked = some k := by
  show o.blocked.getD back = k ↔ _
  cases o.blocked with
  | none => exact iff_of_false other (by simp)
  | some k' => simp

/-- **The branches of the socket that end the program with success.** -/
theorem handleInbound_success_iff (c : TCPClient) (m : TCPMessage) :
    (c.handleInbound m).blocked = some (.exited .success) ↔
      c.clientState = .openState ∧ m.type = .bye := by
  unfold handleInbound
  cases state : c.clientState with
  | startState =>
    refine iff_of_false ?_ (by simp)
    show (c.handleStartState m).blocked ≠ _
    unfold handleStartState
    split <;> simp [sendErr, exitProgram]
  | authState =>
    refine iff_of_false ?_ (by simp)
    show (c.handleAuthState m).blocked ≠ _
    unfold handleAuthState
    split
    · split <;> simp [toPoll]
    · split <;> simp [toPoll]
    all_goals simp [sendErr, exitProgram]
  | openState =>
    show (c.handleOpenState m).blocked = _ ↔ _
    unfold handleOpenState
    split
    next type => simp [exitProgram, type]
    next type => simp [exitProgram, type]
    next type => split <;> simp [type]
    next type => split <;> simp [type]
    next type => simp [toPoll, type]
    next other _ _ _ => exact iff_of_false (by simp [sendErr, exitProgram]) fun bye => other bye.2

/-- A message of the server ends the program with success when it is a BYE in OPEN_STATE. -/
theorem receive_success_iff (s : State) (d : Str) :
    (s.resume s.stdinBranch (s.client.receive d)).1.control = .exited .success ↔
      s.client.clientState = .openState ∧ ∃ m, decodedMsg d = some m ∧ m.type = .bye := by
  have back : s.stdinBranch ≠ .exited .success := by
    unfold State.stdinBranch
    split <;> simp
  rw [resume_control_iff s back, receive_eq]
  unfold decodedMsg
  cases decoded d with
  | error e => simp
  | ok r =>
    simp only [Outcome.after_blocked, handleInbound_success_iff, Option.some.injEq, exists_eq_left']

/-- **One step**: the program ends with success by a SIGINT or by a BYE in OPEN_STATE. -/
theorem step_success_iff {s s' : State} {e : Event} {out : List (Effect Unit)}
    (made : step s e = some (s', out)) : s'.control = .exited .success ↔
      e = .sigint ∨ Dismissed ⟨s, e, s', out⟩ := by
  by_cases heard : ∃ d, completed ⟨s, e, s', out⟩ = some d
  · obtain ⟨d, done⟩ := heard
    obtain ⟨buffer, r, _, rfl, answer⟩ := step_completed done made
    have control : s'.control = (s.resume s.stdinBranch (s.client.receive d)).1.control :=
      congrArg (·.1.control) answer
    rw [control, receive_success_iff, Dismissed, done]
    simp
  · have quiet : ¬ Dismissed ⟨s, e, s', out⟩ := by
      rintro ⟨_, m, found, _⟩
      obtain ⟨d, done, _⟩ := Option.bind_eq_some_iff.mp found
      exact heard ⟨d, done⟩
    rw [or_iff_left quiet]
    cases step_calls made with
    | gracefulExit made =>
      obtain ⟨rfl, rfl⟩ := Prod.ext_iff.mp made.symm
      refine iff_of_true ?_ rfl
      rw [resume_control_iff s (by simp)]
      unfold gracefulExit
      split <;> rfl
    | @pollStep result _ _ _ made =>
      obtain ⟨rfl, rfl⟩ := Prod.ext_iff.mp made.symm
      refine iff_of_false ?_ (by simp)
      cases result with
      | failed => simp [pollStep, State.resume, exitProgram]
      | ready socket stdin =>
        simp only [pollStep]
        split
        · simp
        · unfold State.stdinBranch
          split <;> simp
    | @acceptStep buffer r _ _ accepting made =>
      refine iff_of_false ?_ (by simp)
      cases received : r.received buffer with
      | none =>
        cases r with
        | closed =>
          obtain ⟨rfl, rfl⟩ := Prod.ext_iff.mp made.symm
          simp [acceptStep, State.resume, exitProgram, Outcome.after]
        | byte value => cases received
        | failed held => cases received
      | some value =>
        by_cases whole : accepted (buffer ++ [value]) = true
        · exact absurd ⟨buffer ++ [value], by simp [completed, accepting, received, whole]⟩ heard
        · rw [acceptStep_received received, acceptByte, if_neg whole] at made
          obtain ⟨rfl, rfl⟩ := Prod.ext_iff.mp made.symm
          simp
    | @getlineStep line _ _ _ made =>
      obtain ⟨rfl, rfl⟩ := Prod.ext_iff.mp made.symm
      refine iff_of_false ?_ (by simp)
      cases line with
      | none => simp [getlineStep, State.resume, exitProgram]
      | some text =>
        show (s.resume .poll (s.client.userLine text)).1.control ≠ _
        have lined := userLine_lined s.client text
        generalize s.client.userLine text = o at lined
        cases lined <;> simp [State.resume, toPoll]

/-- A run of the program, while the server takes what is sent. -/
theorem machine_succeeds_iff {history : List (Transition State Event (Effect Unit))} {s : State}
    (run : Run machine history s) : s.control = .exited .success ↔
      ∃ t ∈ history, t.input = .sigint ∨ Dismissed t := by
  refine run.brought_by_iff (fun s => s.control = .exited .success) _ ?_ ?_
  · rintro s ⟨revents, rfl⟩ ended
    cases ended
  · intro s e s' out _ made
    have running : s.control ≠ .exited .success :=
      (Control.ne_of_leaving rfl (staying_of_step made)).symm
    rw [step_success_iff made]
    exact (or_iff_right running).symm

/-- **A TCP client has ended with success** exactly when, without being killed, it has been interrupted by
the user or dismissed by the server. -/
theorem tcp_succeeds_iff {history : List (Transition (Option State) (Mortal Event) (Effect Unit))}
    {state : Option State} (run : Run process history state) :
    state.map State.control = some (.exited .success) ↔
      ∃ t : Transition State Event (Effect Unit), t.survived ∈ history ∧
        (t.input = .sigint ∨ Dismissed t) := by
  cases run.lived with
  | @alive lived s lives =>
    rw [Option.map_some, Option.some.injEq, machine_succeeds_iff lives]
    refine exists_congr fun t => and_congr_left fun _ => ?_
    exact (List.mem_map_of_injective survived_injective).symm
  | @killed lived t₀ place lives made _ =>
    -- what ends the program with success is its last step
    refine iff_of_false (by simp) ?_
    rintro ⟨t, member, ends⟩
    rcases List.mem_append.mp member with earlier | last
    · have inside : t ∈ lived := (List.mem_map_of_injective survived_injective).mp earlier
      have ended := (machine_succeeds_iff lives).mpr ⟨t, inside, ends⟩
      exact Control.ne_of_leaving rfl (staying_of_step made) ended.symm
    · exact survived_ne_broken t t₀ place (List.mem_singleton.mp last)

/-- The server closes the session behind the sign-in. -/
def dismissed : List (Mortal Event) := (signIn ++ served "BYE").map .lives

theorem tcp_succeeds_dismissed : ∃ t : Transition State Event (Effect Unit),
    t.survived ∈ (process.trace (some booted) dismissed).getD [] ∧
      (t.input = .sigint ∨ Dismissed t) := by
  have run : Run process ((process.trace (some booted) dismissed).getD [])
      (process.reached (some booted) dismissed) :=
    .reached ⟨booted, booted_init, rfl⟩ (by decide +kernel)
  exact (tcp_succeeds_iff run).mp (by decide +kernel)

end TCPClient

namespace UDPClient

/-- The program goes on, or it leaves with a failure. -/
def Fails (o : Outcome) : Prop := ∀ k, o.blocked = some k → ¬ k.LeavesWith .success

theorem Fails.of_returns {o : Outcome} (returns : o.blocked = none) : Fails o := by
  intro k stopped
  rw [returns] at stopped
  cases stopped

theorem Fails.after {o : Outcome} (fails : Fails o) (effects : List (Effect UInt16)) :
    Fails (o.after effects) := fails

theorem Fails.of_waits {o : Outcome} {m : UDPMessage} {k : Nat}
    (waits : o.blocked = some (.handleTimeout m k)) : Fails o := by
  intro k' stopped
  rw [waits] at stopped
  cases stopped
  rintro (⟨_, leaving⟩ | ended)
  · cases leaving
  · cases ended

theorem exitProgram_fails (c : UDPClient) (sendBye : Bool) : Fails (c.exitProgram sendBye .failure) := by
  intro k stopped
  cases sendBye with
  | true =>
    cases stopped
    rintro (⟨_, leaving⟩ | ended)
    · cases leaving
    · cases ended
  | false =>
    cases stopped
    rintro (⟨_, leaving⟩ | ended)
    · cases leaving
    · cases ended

theorem sendErrorExit_fails (c : UDPClient) : Fails c.sendErrorExit := exitProgram_fails c.erred true

/-- `send_confim_exit` leaves with success behind a BYE only. -/
theorem sendConfimExit_fails (c : UDPClient) (m : UDPMessage) {exit : Bool}
    (other : exit = true → m.type ≠ .bye) : Fails (c.sendConfimExit m exit) := by
  unfold sendConfimExit
  rw [sendConfirm_andThen]
  refine Fails.after ?_ _
  cases exit with
  | true =>
    rw [if_pos rfl, if_neg (other rfl)]
    exact exitProgram_fails c true
  | false => exact .of_returns rfl

theorem handleReply_fails (c : UDPClient) (m : UDPMessage) (switchPort : Bool) (next : FsmState) :
    Fails (c.handleReply m switchPort next) := by
  have confirmed (c : UDPClient) : Fails (c.sendConfimExit m false) :=
    sendConfimExit_fails c m fun exit => by cases exit
  unfold handleReply
  simp only
  split
  · generalize (if switchPort then _ else _ : UDPClient) = c
    split
    · exact (confirmed _).after _
    · exact confirmed c
  · exact confirmed _

theorem handleConfirm_fails (c : UDPClient) (m : UDPMessage) : Fails (c.handleConfirm m) := by
  unfold handleConfirm
  split
  · exact .of_returns rfl
  · exact .of_returns rfl

theorem handleAuthState_fails (c : UDPClient) (m : UDPMessage) : Fails (c.handleAuthState m) := by
  unfold handleAuthState
  split
  · exact handleConfirm_fails c m
  · exact handleReply_fails c m _ _
  · exact handleReply_fails c m _ _
  next err =>
    -- the only call that may leave, and not behind a BYE
    refine sendConfimExit_fails c m fun _ bye => ?_
    cases err.symm.trans bye
  · exact (sendErrorExit_fails c).after _
  · exact .of_returns rfl

theorem handleOpenState_fails (c : UDPClient) (m : UDPMessage) (bytesRx : Nat) :
    Fails (c.handleOpenState m bytesRx) := by
  unfold handleOpenState
  split
  · exact ((exitProgram_fails c true).after _).after _
  · exact ((exitProgram_fails c false).after _).after _
  · exact handleConfirm_fails c m
  · exact handleReply_fails c m _ _
  · exact handleReply_fails c m _ _
  · exact sendConfimExit_fails _ m fun exit => by cases exit
  · exact ((sendErrorExit_fails c).after _).after _

theorem handled_fails (c : UDPClient) (d : Str) : Fails (c.handled d) := by
  by_cases seen : c.Seen d
  · rw [handled_seen seen]
    exact .of_returns rfl
  rw [handled_fresh seen]
  refine Fails.after ?_ _
  cases c.clientState with
  | startState => exact (exitProgram_fails c true).after _
  | authState => exact handleAuthState_fails c _
  | openState => exact handleOpenState_fails c _ _

theorem preHandle_fails (c : UDPClient) (m : UDPMessage) (bytesRx : Nat) :
    Fails (c.preHandle m bytesRx) := by
  unfold preHandle
  simp only [sendConfirm_andThen]
  split
  · exact ((exitProgram_fails c true).after _).after _
  split
  · exact ((sendErrorExit_fails c).after _).after _
  split
  · exact (sendErrorExit_fails c).after _
  split
  · exact (sendErrorExit_fails c).after _
  · exact .of_returns rfl

/-- **A datagram is no success**: whatever the server sends, the program goes on or fails. -/
theorem receiveInMain_fails (c : UDPClient) (d : Str) : Fails (c.receiveInMain d) := by
  by_cases early : c.PreHandled d
  · rw [receiveInMain_eq_preHandle early]
    exact (preHandle_fails c _ _).after _
  · rw [receiveInMain_eq_handled early]
    exact handled_fails c d

theorem userLine_fails (c : UDPClient) (line : Str) : Fails (c.userLine line) := by
  have lined := userLine_lined c line
  generalize c.userLine line = o at lined
  cases lined with
  | kept => exact .of_returns rfl
  | sent => exact .of_waits rfl

theorem Fails.resume {o : Outcome} (fails : Fails o) (s : State) {back : Control}
    (stays : ¬ back.LeavesWith .success) : ¬ (s.resume back o).1.control.LeavesWith .success := by
  show ¬ (o.blocked.getD back).LeavesWith .success
  cases stopped : o.blocked with
  | none => exact stays
  | some k => exact fails k stopped

/-- The loop of `exit_program` keeps the status. -/
theorem byeStep_leavesWith (s : State) (k : Nat) (ret : ExitCode) (r : Received) :
    (byeStep s k ret r).1.control.LeavesWith .success ↔ ret = .success := by
  obtain ⟨control, notices, leaves, spec⟩ := byeStep_spec s k ret r
  rw [spec]
  rcases leaves with ⟨_, rfl⟩ | rfl
  · simp [Control.LeavesWith]
  · simp [Control.LeavesWith]

/-- **One step**: the program begins to leave with success by a SIGINT, and what has begun so ends so. -/
theorem step_success_iff {s s' : State} {e : Event} {out : List (Effect UInt16)}
    (made : step s e = some (s', out)) : s'.control.LeavesWith .success ↔
      s.control.LeavesWith .success ∨ e = .sigint := by
  have goes_on {k : Control} (stays : k.leaving = false) : ¬ k.LeavesWith .success := by
    rintro (⟨_, rfl⟩ | rfl)
    · cases stays
    · cases stays
  cases step_calls made with
  | gracefulExit _ made =>
    obtain ⟨rfl, rfl⟩ := Prod.ext_iff.mp made.symm
    refine iff_of_true ?_ (Or.inr rfl)
    unfold gracefulExit
    split
    · exact Or.inr rfl
    · exact Or.inl ⟨0, rfl⟩
  | @pollStep result _ _ polling made =>
    obtain ⟨rfl, rfl⟩ := Prod.ext_iff.mp made.symm
    refine iff_of_false ?_ (not_or.mpr ⟨goes_on (by rw [polling]; rfl), by simp⟩)
    cases result with
    | failed => exact (exitProgram_fails s.client false).resume s (goes_on rfl)
    | ready socket stdin =>
      simp only [pollStep]
      split
      · exact goes_on rfl
      split
      · exact goes_on rfl
      · exact goes_on rfl
  | @acceptStep r _ _ accepting made =>
    obtain ⟨rfl, rfl⟩ := Prod.ext_iff.mp made.symm
    refine iff_of_false ?_ (not_or.mpr ⟨goes_on (by rw [accepting]; rfl), by simp⟩)
    unfold acceptStep
    split
    · split
      · exact goes_on rfl
      · exact (exitProgram_fails s.client false).resume s (goes_on rfl)
    · exact (receiveInMain_fails _ _).resume s (goes_on rfl)
  | @getlineStep line _ _ reading made =>
    obtain ⟨rfl, rfl⟩ := Prod.ext_iff.mp made.symm
    refine iff_of_false ?_ (not_or.mpr ⟨goes_on (by rw [reading]; rfl), by simp⟩)
    cases line with
    | none => exact (exitProgram_fails s.client true).resume s (goes_on rfl)
    | some text => exact (userLine_fails s.client text).resume s (goes_on rfl)
  | @timeoutStep m k r _ _ waiting made =>
    obtain ⟨rfl, rfl⟩ := Prod.ext_iff.mp made.symm
    refine iff_of_false ?_ (not_or.mpr ⟨goes_on (by rw [waiting]; rfl), by simp⟩)
    unfold timeoutStep
    simp only
    split
    · split
      · split
        · exact (exitProgram_fails s.client true).resume s (goes_on rfl)
        · exact goes_on rfl
      · exact goes_on rfl
    · rw [receiveInTimeout_eq]
      split
      · exact goes_on rfl
      · exact (handled_fails s.client r.buffer).resume s (goes_on rfl)
  | @byeStep k ret r _ _ exits made =>
    obtain ⟨rfl, rfl⟩ := Prod.ext_iff.mp made.symm
    rw [byeStep_leavesWith, exits]
    simp [Control.LeavesWith]

/-- **A UDP client leaves with success** exactly when the user has interrupted it. -/
theorem udp_succeeds_iff {port : UInt16} {history : List (Transition State Event (Effect UInt16))}
    {s : State} (run : Run (machine port) history s) :
    s.control.LeavesWith .success ↔ ∃ t ∈ history, t.input = .sigint := by
  refine run.brought_iff (fun s => s.control.LeavesWith .success) (fun e => e = .sigint) ?_ ?_
  · rintro s ⟨limit, revents, rfl⟩ (⟨_, leaving⟩ | ended)
    · cases leaving
    · cases ended
  · intro s e s' out made
    exact step_success_iff made

/-- A program that leaves with success takes no SIGINT. -/
theorem Control.LeavesWith.uninterruptible {k : Control} (leaves : k.LeavesWith .success) :
    k.interruptible = false := by
  rcases leaves with ⟨_, rfl⟩ | rfl
  · rfl
  · rfl

/-- **A run is interrupted once**: the handler of SIGINT does not return, and SIGINT is blocked meanwhile. -/
theorem interrupted_once {port : UInt16} {s : State}
    {earlier later : List (Transition State Event (Effect UInt16))}
    {t : Transition State Event (Effect UInt16)} (run : Run (machine port) (earlier ++ t :: later) s)
    (interrupts : t.input = .sigint) : ∀ u ∈ later, u.input ≠ .sigint := by
  intro u member again
  obtain ⟨between, rest, rfl⟩ := List.append_of_mem member
  obtain ⟨_, made, _⟩ := run.transition
  have behind : t.after.control.LeavesWith .success := (step_success_iff made).mpr (Or.inr interrupts)
  rw [← List.cons_append, ← List.append_assoc] at run
  obtain ⟨reached, made', _⟩ := run.transition
  have leaving := reached.stable (fun s => s.control.LeavesWith .success)
    (fun s e s' out leaves step => (step_success_iff step).mpr (Or.inl leaves)) behind
  rw [again] at made'
  have made' : step u.before .sigint = some (u.after, u.out) := made'
  cases step_calls made' with
  | gracefulExit free => cases leaving.uninterruptible.symm.trans free

/-- A session that is interrupted. -/
theorem udp_succeeds_interrupted :
    ((machine 4567).reached booted (signIn ++ [.sigint])).control.LeavesWith .success := by
  have run : Run (machine 4567) (((machine 4567).trace booted (signIn ++ [.sigint])).getD [])
      ((machine 4567).reached booted (signIn ++ [.sigint])) := .reached booted_init rfl
  exact (udp_succeeds_iff run).mpr (by decide +kernel)

end UDPClient

end Ipk24Chat
