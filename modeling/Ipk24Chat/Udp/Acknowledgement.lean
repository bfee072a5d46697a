/-
**Which CONFIRM the client sends for a datagram.**

`confirmsIn` are the RefMessageIDs of the CONFIRM datagrams among some effects. Nine places of the
source build one, from the decoded id, from the `-1` of the constructor or from `msg_counter`;
`handlerAck` and `mainAck` are the tables of both receive paths.

* `confirmsIn_handled`, `confirmsIn_receiveInMain`: the tables are what the code sends;
* `step_confirms`: a step sends a CONFIRM for the datagram it hands to the message logic only;
* `truthful_iff`: every CONFIRM of a run names the datagram it reacts to exactly when no datagram of
  the run meets `Misleads`.
-/

import Ipk24Chat.Udp.AtMostOnce
import Ipk24Chat.Udp.Encoding

namespace Ipk24Chat

namespace UDPClient

open Reactive

/-! ### CONFIRM datagrams -/

/-- The RefMessageID of a datagram that is a CONFIRM. -/
def confirmRef (datagram : Str) : Option UInt16 :=
  if kind datagram = .confirm then some (msgId datagram) else none

/-- The RefMessageIDs of the CONFIRM datagrams sent, in order. -/
def confirmsIn (effects : List (Effect UInt16)) : List UInt16 :=
  effects.filterMap fun
    | .send datagram _ => confirmRef datagram
    | .print _ => none

@[simp] theorem confirmsIn_nil : confirmsIn [] = [] := rfl

@[simp] theorem confirmsIn_append (first second : List (Effect UInt16)) :
    confirmsIn (first ++ second) = confirmsIn first ++ confirmsIn second := by
  simp [confirmsIn]

@[simp] theorem confirmsIn_printed (lines : List Output) : confirmsIn (printed lines) = [] := by
  simp [confirmsIn, printed]

theorem confirmsIn_sendMsg (c : UDPClient) (m : UDPMessage) :
    confirmsIn (c.sendMsg m) = (confirmRef m.udpBuffer).toList := by
  unfold confirmsIn sendMsg
  cases found : confirmRef m.udpBuffer <;> simp [found]

theorem mem_confirmsIn {effects : List (Effect UInt16)} {ref : UInt16} :
    ref ∈ confirmsIn effects ↔
      ∃ datagram target, .send datagram target ∈ effects ∧ kind datagram = .confirm ∧
        msgId datagram = ref := by
  unfold confirmsIn
  rw [List.mem_filterMap]
  constructor
  · rintro ⟨effect, member, found⟩
    cases effect with
    | print line => cases found
    | send datagram target =>
      simp only [confirmRef, Option.ite_none_right_eq_some, Option.some.injEq] at found
      exact ⟨datagram, target, member, found⟩
  · rintro ⟨datagram, target, member, confirm, same⟩
    exact ⟨.send datagram target, member, by simp [confirmRef, confirm, same]⟩

/-- A datagram with another first byte is no CONFIRM. -/
theorem confirmRef_cons {first : UInt8} (other : first ≠ UDP_CONFIRM) (rest : Str) :
    confirmRef (first :: rest) = none := by
  refine if_neg ?_
  unfold kind
  rw [List.getD_cons_zero, if_neg other]
  repeat' split
  all_goals decide

/-- The CONFIRM that is built for an id. -/
theorem confirmRef_confirmMsg (id : UInt16) : confirmRef (confirmMsg id).udpBuffer = some id := by
  have ref : msgId (confirmMsg id).udpBuffer = id := readU16_idBytes [UDP_CONFIRM] id []
  have isConfirm : kind (confirmMsg id).udpBuffer = .confirm := rfl
  rw [confirmRef, if_pos isConfirm, ref]

@[simp] theorem confirmsIn_confirmMsg (c : UDPClient) (id : UInt16) :
    confirmsIn (c.sendMsg (confirmMsg id)) = [id] := by
  rw [confirmsIn_sendMsg, confirmRef_confirmMsg]
  rfl

/-! ### The ways out -/

@[simp] theorem confirmsIn_exitProgram (c : UDPClient) (sendBye : Bool) (ret : ExitCode) :
    confirmsIn (c.exitProgram sendBye ret).effects = [] := by
  cases sendBye with
  | false => rfl
  | true =>
    show confirmsIn (c.sendMsg c.byeMsg) = []
    rw [confirmsIn_sendMsg]
    exact congrArg Option.toList (confirmRef_cons (show UDP_BYE ≠ UDP_CONFIRM by decide) _)

@[simp] theorem confirmsIn_gracefulExit (c : UDPClient) :
    confirmsIn c.gracefulExit.effects = [] := by
  unfold gracefulExit
  split
  · exact confirmsIn_exitProgram c _ _
  · exact confirmsIn_exitProgram c _ _

@[simp] theorem confirmsIn_sendErrorExit (c : UDPClient) :
    confirmsIn c.sendErrorExit.effects = [] := by
  show confirmsIn (c.erred.sendMsg c.errMsg ++ (c.erred.exitProgram true .failure).effects) = []
  rw [confirmsIn_append, confirmsIn_exitProgram, List.append_nil, confirmsIn_sendMsg]
  exact congrArg Option.toList (confirmRef_cons (show UDP_ERR ≠ UDP_CONFIRM by decide) _)

/-! ### The tables -/

/-- The CONFIRM that `fsm_logic_handler` sends for a datagram. -/
def handlerAck (c : UDPClient) (d : Str) : Option UInt16 :=
  if c.Seen d then none
  else match c.clientState, kind d with
    | .startState, _ => none
    | .authState, .reply => if 8 ≤ d.length then some (msgId d) else none
    | .authState, .err | .authState, .msg => some (msgId d)
    | .authState, _ => none
    | .openState, .confirm => none
    -- what is not known is answered with the counter
    | .openState, .invalid => some c.nextId
    | .openState, .reply => if 8 ≤ d.length then some (msgId d) else some c.nextId
    | .openState, _ => some (msgId d)

instance (c : UDPClient) (d : Str) : Decidable (c.PreHandled d) :=
  inferInstanceAs (Decidable (_ ∧ (_ ∨ _ ∨ _ ∨ (_ ∧ (_ ∨ _)))))

/-- The CONFIRM that the main loop sends for a datagram. -/
def mainAck (c : UDPClient) (d : Str) : Option UInt16 :=
  if c.PreHandled d then
    match kind d with
    | .invalid => some c.nextId
    -- the id of the constructor
    | .confirm => some 65535
    | _ => some (msgId d)
  else c.handlerAck d

theorem confirmsIn_auth {c : UDPClient} {d : Str} (fresh : ¬ c.Seen d)
    (auth : c.clientState = .authState) :
    confirmsIn (c.handleAuthState ((heard d).processInboundMsg d.length).1).effects =
      (c.handlerAck d).toList := by
  unfold handlerAck
  rw [if_neg fresh, auth]
  cases isKind : kind d with
  | confirm =>
    rw [decode_plain (Or.inl isKind)]
    simp only [handleAuthState, heard_type, isKind, Kind.type, handleConfirm]
    split
    · rfl
    · rfl
  | reply =>
    by_cases long : 8 ≤ d.length
    · rw [decode_reply isKind long, handleAuthState_reply isKind auth, if_pos long]
      simp only [repliedEffects]
      split
      · simp
      · simp
    · rw [decode_reply_short isKind (by omega), if_neg long]
      rfl
  | msg =>
    have id : (heard d).messageId = msgId d := heard_messageId (by rw [isKind]; rfl)
    by_cases long : 7 ≤ d.length
    · rw [decode_msg isKind long]
      simp [handleAuthState, isKind, Kind.type, id]
    · rw [decode_short (Or.inl isKind) (by omega)]
      simp [handleAuthState, sendConfimExit, id]
  | err =>
    have id : (heard d).messageId = msgId d := heard_messageId (by rw [isKind]; rfl)
    rw [decoded_err isKind]
    simp [handleAuthState, isKind, Kind.type, sendConfimExit, id]
  | bye =>
    rw [decode_plain (Or.inr (Or.inl isKind))]
    simp only [handleAuthState, heard_type, isKind, Kind.type]
    rfl
  | invalid =>
    rw [decode_plain (Or.inr (Or.inr isKind))]
    simp only [handleAuthState, heard_type, isKind, Kind.type]
    rfl

theorem confirmsIn_open {c : UDPClient} {d : Str} (fresh : ¬ c.Seen d)
    (isOpen : c.clientState = .openState) :
    confirmsIn (c.handleOpenState ((heard d).processInboundMsg d.length).1 d.length).effects =
      (c.handlerAck d).toList := by
  unfold handlerAck
  rw [if_neg fresh, isOpen]
  cases isKind : kind d with
  | confirm =>
    rw [decode_plain (Or.inl isKind)]
    simp only [handleOpenState, heard_type, isKind, Kind.type, handleConfirm]
    split
    · rfl
    · rfl
  | reply =>
    by_cases long : 8 ≤ d.length
    · rw [decode_reply isKind long, handleOpenState_reply isKind isOpen, if_pos long]
      simp only [repliedEffects]
      split
      · simp
      · simp
    · rw [decode_reply_short isKind (by omega)]
      simp [handleOpenState, long]
  | msg =>
    have id : (heard d).messageId = msgId d := heard_messageId (by rw [isKind]; rfl)
    by_cases long : 7 ≤ d.length
    · rw [decode_msg isKind long]
      simp [handleOpenState, isKind, Kind.type, sendConfimExit_false, id]
    · rw [decode_short (Or.inl isKind) (by omega)]
      have again : (({ heard d with type := .err } : UDPMessage).processInboundMsg d.length).1.messageId =
          msgId d := by
        simp [UDPMessage.processInboundMsg, show d.length < 7 by omega, id]
      simp [handleOpenState, again]
  | err =>
    have id : (heard d).messageId = msgId d := heard_messageId (by rw [isKind]; rfl)
    rw [decoded_err isKind]
    simp [handleOpenState, isKind, Kind.type, decoded_err isKind, id]
  | bye =>
    have id : (heard d).messageId = msgId d := heard_messageId (by rw [isKind]; rfl)
    have plain := decode_plain (d := d) (Or.inr (Or.inl isKind))
    rw [plain]
    simp [handleOpenState, isKind, Kind.type, plain, id]
  | invalid =>
    rw [decode_plain (Or.inr (Or.inr isKind))]
    simp [handleOpenState, isKind, Kind.type]

/-- **The handler sends what its table says.** -/
theorem confirmsIn_handled (c : UDPClient) (d : Str) :
    confirmsIn (c.handled d).effects = (c.handlerAck d).toList := by
  by_cases seen : c.Seen d
  · rw [handled_seen seen, handlerAck, if_pos seen]
    rfl
  rw [handled_fresh seen, Outcome.after_effects, confirmsIn_append, confirmsIn_printed,
    List.nil_append]
  cases state : c.clientState with
  | startState =>
    rw [handlerAck, if_neg seen, state]
    simp
  | authState => exact confirmsIn_auth seen state
  | openState => exact confirmsIn_open seen state

/-- **The main loop sends what its table says.** -/
theorem confirmsIn_receiveInMain (c : UDPClient) (d : Str) :
    confirmsIn (c.receiveInMain d).effects = (c.mainAck d).toList := by
  unfold mainAck
  by_cases early : c.PreHandled d
  · rw [if_pos early, receiveInMain_eq_preHandle early, Outcome.after_effects, confirmsIn_append,
      confirmsIn_printed, List.nil_append]
    have numbered : (kind d).numbered = true → (heard d).messageId = msgId d := heard_messageId
    obtain ⟨_, causes⟩ := early
    cases isKind : kind d with
    | err => simp [preHandle, isKind, Kind.type, decoded_err isKind, numbered (by rw [isKind]; rfl)]
    | invalid => simp [preHandle, isKind, Kind.type]
    | confirm =>
      have start : c.clientState = .startState := by simpa [isKind] using causes
      simp [preHandle, isKind, Kind.type, start, heard, Kind.numbered]
    | reply =>
      have start : c.clientState = .startState := by simpa [isKind] using causes
      simp [preHandle, isKind, Kind.type, start, numbered (by rw [isKind]; rfl)]
    | msg =>
      have begins : c.clientState = .startState ∨ c.clientState = .authState := by
        simpa [isKind] using causes
      rcases begins with start | auth
      · simp [preHandle, isKind, Kind.type, start, numbered (by rw [isKind]; rfl)]
      · simp [preHandle, isKind, Kind.type, auth, numbered (by rw [isKind]; rfl)]
    | bye =>
      have begins : c.clientState = .startState ∨ c.clientState = .authState := by
        simpa [isKind] using causes
      rcases begins with start | auth
      · simp [preHandle, isKind, Kind.type, start, numbered (by rw [isKind]; rfl)]
      · simp [preHandle, isKind, Kind.type, auth, numbered (by rw [isKind]; rfl)]
  · rw [if_neg early, receiveInMain_eq_handled early]
    exact confirmsIn_handled c d

/-! ### Steps -/

/-- The datagram a transition hands to the message logic, and whether the main loop does. -/
def handed (t : Transition State Event (Effect UInt16)) : Option (Bool × Str) :=
  match t.before.control, t.input with
  | .acceptMsg, .recvfrom r => if 0 < r.bytesRx then some (true, r.buffer) else none
  | .handleTimeout _ _, .recvfrom r => if 0 < r.bytesRx then some (false, r.buffer) else none
  | _, _ => none

/-- The CONFIRM a client sends for a datagram handed to the message logic. -/
def ackFor (c : UDPClient) (h : Bool × Str) : Option UInt16 :=
  if h.1 = true then c.mainAck h.2 else c.handlerAck h.2

/-- The CONFIRM that `handle_timeout` waits for is not confirmed. -/
theorem handlerAck_confirm {c : UDPClient} {d : Str} (confirm : kind d = .confirm) :
    c.handlerAck d = none := by
  unfold handlerAck
  rw [if_neg (not_seen_of_confirm confirm), confirm]
  cases c.clientState <;> rfl

/-- The message that `handle_timeout` repeats is no CONFIRM. -/
def Repeats (s : State) : Prop := ∀ m k, s.control = .handleTimeout m k → confirmRef m.udpBuffer = none

theorem confirmRef_udp (id : UInt16) (r : Request) : confirmRef (r.udp id) = none := by
  cases r with
  | auth u d s => exact confirmRef_cons (show UDP_AUTH ≠ UDP_CONFIRM by decide) _
  | join c d => exact confirmRef_cons (show UDP_JOIN ≠ UDP_CONFIRM by decide) _
  | msg d t => exact confirmRef_cons (show UDP_MSG ≠ UDP_CONFIRM by decide) _

theorem confirmRef_userMsg (c : UDPClient) (line : Str) :
    confirmRef (c.userMsg line).1.udpBuffer = none := by
  have layout := UDPMessage.udpBuffer_userCmd c.dname line c.nextId
  rw [show (c.userMsg line).1.udpBuffer = _ from layout]
  cases (command line).request c.dname line with
  | none => rfl
  | some r => exact confirmRef_udp c.nextId r

theorem repeats_run {port : UInt16} {s : State}
    {history : List (Transition State Event (Effect UInt16))} (run : Run (machine port) history s) :
    Repeats s :=
  carries_reachable (fun s _ line => confirmRef_userMsg s.client line) run.reachable

theorem handed_empty {s s' : State} {r : Received} {out : List (Effect UInt16)}
    (empty : r.bytesRx ≤ 0) : handed ⟨s, .recvfrom r, s', out⟩ = none := by
  have short : ¬ 0 < r.bytesRx := by omega
  cases control : s.control <;> simp [handed, control, short]

theorem confirmsIn_pollStep (s : State) (result : PollResult) :
    confirmsIn (pollStep s result).2 = [] := by
  cases result with
  | failed =>
    show confirmsIn (printed _ ++ (s.client.exitProgram false .failure).effects) = []
    simp
  | ready socket stdin =>
    simp only [pollStep]
    split
    · rfl
    · split <;> rfl

theorem confirmsIn_getlineStep (s : State) (line : Option Str) :
    confirmsIn (getlineStep s line).2 = [] := by
  cases line with
  | none => exact confirmsIn_exitProgram s.client true .failure
  | some text =>
    show confirmsIn (s.client.userLine text).effects = []
    have lined := userLine_lined s.client text
    generalize s.client.userLine text = o at lined
    cases lined with
    | kept dname counter lines => simp [Outcome.done]
    | sent dname request next lines =>
      show confirmsIn (printed lines ++ (sendMsg _ (s.client.userMsg text).1 ++ [])) = []
      rw [confirmsIn_append, confirmsIn_append, confirmsIn_sendMsg, confirmRef_userMsg]
      simp

theorem confirmsIn_timeoutStep_empty {s : State} {m : UDPMessage} {k : Nat} {r : Received}
    (quiet : confirmRef m.udpBuffer = none) (empty : r.bytesRx ≤ 0) :
    confirmsIn (timeoutStep s m k r).2 = [] := by
  simp only [timeoutStep, if_pos empty]
  split
  · split
    · show confirmsIn (printed _ ++ (s.client.exitProgram true .failure).effects) = []
      simp
    · rw [confirmsIn_sendMsg, quiet]
      rfl
  · simp

theorem confirmsIn_acceptStep_empty {s : State} {r : Received} (empty : r.bytesRx ≤ 0) :
    confirmsIn (acceptStep s r).2 = [] := by
  simp only [acceptStep, if_pos empty]
  split
  · simp
  · show confirmsIn (printed _ ++ (s.client.exitProgram false .failure).effects) = []
    simp

/-- **A step confirms the datagram it hands to the message logic**, as the tables say, and nothing
else. -/
theorem step_confirms {s s' : State} {e : Event} {out : List (Effect UInt16)} (held : Repeats s)
    (made : UDPClient.step s e = some (s', out)) :
    confirmsIn out = ((handed ⟨s, e, s', out⟩).bind s.client.ackFor).toList := by
  cases step_calls made with
  | gracefulExit _ answer =>
    cases answer
    simp [handed]
  | @pollStep result _ _ polling answer =>
    have quiet := confirmsIn_pollStep s result
    rw [answer] at quiet
    rw [quiet]
    simp [handed, polling]
  | @getlineStep line _ _ reading answer =>
    have quiet := confirmsIn_getlineStep s line
    rw [answer] at quiet
    rw [quiet]
    simp [handed, reading]
  | @acceptStep r _ _ accepting answer =>
    by_cases empty : r.bytesRx ≤ 0
    · have quiet := confirmsIn_acceptStep_empty (s := s) empty
      rw [answer] at quiet
      rw [handed_empty empty, quiet]
      rfl
    · have nonempty : 0 < r.bytesRx := by omega
      simp only [handed, accepting, if_pos nonempty, Option.bind_some, ackFor, if_true]
      cases made.symm.trans (step_accept accepting nonempty)
      exact confirmsIn_receiveInMain _ _
  | @timeoutStep m k r _ _ waiting answer =>
    by_cases empty : r.bytesRx ≤ 0
    · have quiet := confirmsIn_timeoutStep_empty (s := s) (k := k) (held m k waiting) empty
      rw [answer] at quiet
      rw [handed_empty empty, quiet]
      rfl
    · have nonempty : 0 < r.bytesRx := by omega
      simp only [handed, waiting, if_pos nonempty, Option.bind_some, ackFor, Bool.false_eq_true,
        if_false]
      by_cases awaited : s.client.Awaited m r.buffer
      · cases made.symm.trans (awaited_step waiting awaited)
        rw [handlerAck_confirm awaited.2.1]
        rfl
      · cases made.symm.trans (step_handled waiting nonempty awaited)
        exact confirmsIn_handled _ _
  | @byeStep k ret r _ _ leaving answer =>
    obtain ⟨control, notices, _, spec⟩ := byeStep_spec s k ret r
    cases answer.symm.trans spec
    rw [confirmsIn_printed]
    simp [handed, leaving]

/-! ### Truth -/

/-- Every CONFIRM sent is sent for a received datagram that is no CONFIRM, and carries the id in its
bytes 1 and 2. -/
def Truthful (t : Transition State Event (Effect UInt16)) : Prop :=
  ∀ datagram target, .send datagram target ∈ t.out → kind datagram = .confirm →
    ∃ r, t.input = .recvfrom r ∧ kind r.buffer ≠ .confirm ∧ 3 ≤ r.buffer.length ∧
      msgId datagram = msgId r.buffer

/-- A datagram that is answered with `msg_counter`: one of an unknown type in the main loop or in
OPEN_STATE, and in OPEN_STATE a REPLY that is cut short. -/
def CounterAcked (c : UDPClient) (main : Bool) (d : Str) : Prop :=
  (kind d = .invalid ∧ (main = true ∨ c.clientState = .openState)) ∨
    (c.clientState = .openState ∧ kind d = .reply ∧ d.length < 8 ∧ ¬ c.Seen d)

/-- A datagram whose CONFIRM is wrong: a CONFIRM in START_STATE, or one answered with a counter that is
not its id. -/
def Misleads (c : UDPClient) (h : Bool × Str) : Prop :=
  (h.1 = true ∧ c.clientState = .startState ∧ kind h.2 = .confirm) ∨
    (c.CounterAcked h.1 h.2 ∧ ¬ (3 ≤ h.2.length ∧ msgId h.2 = c.nextId))

instance (c : UDPClient) (main : Bool) (d : Str) : Decidable (c.CounterAcked main d) :=
  inferInstanceAs (Decidable ((_ ∧ (_ ∨ _)) ∨ (_ ∧ _ ∧ _ ∧ _)))

instance (c : UDPClient) (h : Bool × Str) : Decidable (c.Misleads h) :=
  inferInstanceAs (Decidable ((_ ∧ _ ∧ _) ∨ (_ ∧ ¬ (_ ∧ _))))

/-- The transition hands such a datagram to the message logic. -/
def Misled (t : Transition State Event (Effect UInt16)) : Prop :=
  ∃ h ∈ handed t, t.before.client.Misleads h

instance (t : Transition State Event (Effect UInt16)) : Decidable (Misled t) :=
  inferInstanceAs (Decidable (∃ h ∈ handed t, _))

theorem handed_eq {s s' : State} {e : Event} {out : List (Effect UInt16)} {h : Bool × Str}
    (some : handed ⟨s, e, s', out⟩ = some h) : ∃ r, e = .recvfrom r ∧ h.2 = r.buffer := by
  unfold handed at some
  split at some
  · rename_i r _ input
    split at some
    · cases some
      exact ⟨r, input, rfl⟩
    · cases some
  · rename_i r _ input
    split at some
    · cases some
      exact ⟨r, input, rfl⟩
    · cases some
  · cases some

/-- The CONFIRM for a datagram names it. -/
def Names (d : Str) (ref : UInt16) : Prop := kind d ≠ .confirm ∧ 3 ≤ d.length ∧ ref = msgId d

/-- The main loop has received a CONFIRM in START_STATE. -/
def ConfirmedEarly (c : UDPClient) (main : Bool) (d : Str) : Prop :=
  main = true ∧ c.clientState = .startState ∧ kind d = .confirm

/-- **What a table holds for a datagram.** -/
inductive Acks (c : UDPClient) (main : Bool) (d : Str) : Option UInt16 → Prop
  | silent : ¬ c.CounterAcked main d → ¬ c.ConfirmedEarly main d → Acks c main d none
  | named : kind d ≠ .invalid → kind d ≠ .confirm → ¬ c.CounterAcked main d →
      Acks c main d (some (msgId d))
  | counter : c.CounterAcked main d → Acks c main d (some c.nextId)
  | early : c.ConfirmedEarly main d → Acks c main d (some 65535)

theorem CounterAcked.other {c : UDPClient} {main : Bool} {d : Str}
    (counter : c.CounterAcked main d) : kind d ≠ .confirm := by
  rcases counter with ⟨invalid, _⟩ | ⟨_, reply, _⟩
  · simp [invalid]
  · simp [reply]

theorem handlerAck_acks (c : UDPClient) (d : Str) : Acks c false d (c.handlerAck d) := by
  have late : ¬ c.ConfirmedEarly false d := fun early => by cases early.1
  unfold handlerAck
  by_cases seen : c.Seen d
  · rw [if_pos seen]
    have known : kind d ≠ .invalid := fun invalid => by
      simpa [invalid, Kind.numbered] using seen.1
    exact .silent (by simp [CounterAcked, known, seen]) late
  rw [if_neg seen]
  cases state : c.clientState with
  | startState => exact .silent (by simp [CounterAcked, state]) late
  | authState =>
    have still : ¬ c.CounterAcked false d := by simp [CounterAcked, state]
    cases isKind : kind d with
    | reply =>
      by_cases long : 8 ≤ d.length
      · simp only [if_pos long]
        exact .named (by simp [isKind]) (by simp [isKind]) still
      · simp only [if_neg long]
        exact .silent still late
    | msg => exact .named (by simp [isKind]) (by simp [isKind]) still
    | err => exact .named (by simp [isKind]) (by simp [isKind]) still
    | confirm => exact .silent still late
    | bye => exact .silent still late
    | invalid => exact .silent still late
  | openState =>
    cases isKind : kind d with
    | reply =>
      by_cases long : 8 ≤ d.length
      · simp only [if_pos long]
        have whole : ¬ d.length < 8 := by omega
        exact .named (by simp [isKind]) (by simp [isKind]) (by simp [CounterAcked, isKind, whole])
      · simp only [if_neg long]
        exact .counter (Or.inr ⟨state, isKind, by omega, seen⟩)
    | invalid => exact .counter (Or.inl ⟨isKind, Or.inr state⟩)
    | confirm => exact .silent (by simp [CounterAcked, isKind]) late
    | msg => exact .named (by simp [isKind]) (by simp [isKind]) (by simp [CounterAcked, isKind])
    | err => exact .named (by simp [isKind]) (by simp [isKind]) (by simp [CounterAcked, isKind])
    | bye => exact .named (by simp [isKind]) (by simp [isKind]) (by simp [CounterAcked, isKind])

/-- What the main loop does not answer itself is answered as in `handle_timeout`. -/
theorem Acks.of_shared {c : UDPClient} {d : Str} {ack : Option UInt16} (acks : Acks c false d ack)
    (shared : ¬ c.PreHandled d) : Acks c true d ack := by
  have fresh_of_invalid : kind d = .invalid → ¬ c.Seen d := fun invalid seen => by
    simpa [invalid, Kind.numbered] using seen.1
  have known : kind d ≠ .invalid := fun invalid =>
    shared ⟨fresh_of_invalid invalid, Or.inr (Or.inl invalid)⟩
  have begun : ¬ c.ConfirmedEarly true d := fun early =>
    shared ⟨not_seen_of_confirm early.2.2, Or.inr (Or.inr (Or.inl early.2.1))⟩
  have counter : c.CounterAcked true d ↔ c.CounterAcked false d := by simp [CounterAcked, known]
  cases acks with
  | silent still _ => exact .silent (mt counter.mp still) begun
  | named known other still => exact .named known other (mt counter.mp still)
  | counter acked => exact .counter (counter.mpr acked)
  | early early => cases early.1

theorem mainAck_acks (c : UDPClient) (d : Str) : Acks c true d (c.mainAck d) := by
  unfold mainAck
  by_cases early : c.PreHandled d
  · rw [if_pos early]
    have causes := early.2
    cases isKind : kind d with
    | invalid => exact .counter (Or.inl ⟨isKind, Or.inl rfl⟩)
    | confirm => exact .early ⟨rfl, by simpa [isKind] using causes, isKind⟩
    | reply =>
      have start : c.clientState = .startState := by simpa [isKind] using causes
      exact .named (by simp [isKind]) (by simp [isKind]) (by simp [CounterAcked, isKind, start])
    | msg => exact .named (by simp [isKind]) (by simp [isKind]) (by simp [CounterAcked, isKind])
    | err => exact .named (by simp [isKind]) (by simp [isKind]) (by simp [CounterAcked, isKind])
    | bye => exact .named (by simp [isKind]) (by simp [isKind]) (by simp [CounterAcked, isKind])
  · rw [if_neg early]
    exact (handlerAck_acks c d).of_shared early

/-- **A CONFIRM names the datagram** unless the datagram misleads. -/
theorem Acks.names_iff {c : UDPClient} {main : Bool} {d : Str} {ack : Option UInt16}
    (acks : Acks c main d ack) : (∀ ref ∈ ack, Names d ref) ↔ ¬ c.Misleads (main, d) := by
  unfold Misleads
  cases acks with
  | silent still late =>
    refine iff_of_true (by simp) ?_
    rintro (early | ⟨acked, _⟩)
    · exact late early
    · exact still acked
  | named known other still =>
    refine iff_of_true ?_ ?_
    · rintro ref member
      cases member
      exact ⟨other, three_le_of_kind known, rfl⟩
    · rintro (early | ⟨acked, _⟩)
      · exact other early.2.2
      · exact still acked
  | counter acked =>
    have late : ¬ c.ConfirmedEarly main d := fun early => acked.other early.2.2
    constructor
    · rintro names (early | ⟨_, wrong⟩)
      · exact late early
      · obtain ⟨_, long, same⟩ := names _ rfl
        exact wrong ⟨long, same.symm⟩
    · intro right ref member
      cases member
      have same := not_not.mp fun wrong => right (Or.inr ⟨acked, wrong⟩)
      exact ⟨acked.other, same.1, same.2.symm⟩
  | early early =>
    refine iff_of_false (fun names => ?_) fun right => right (Or.inl early)
    exact (names _ rfl).1 early.2.2

theorem ackFor_names_iff (c : UDPClient) (h : Bool × Str) :
    (∀ ref ∈ c.ackFor h, Names h.2 ref) ↔ ¬ c.Misleads h := by
  obtain ⟨main, d⟩ := h
  cases main with
  | true => exact (mainAck_acks c d).names_iff
  | false => exact (handlerAck_acks c d).names_iff

/-- **A step is truthful** unless it hands a misleading datagram to the message logic. -/
theorem truthful_step_iff {s s' : State} {e : Event} {out : List (Effect UInt16)} (held : Repeats s)
    (made : UDPClient.step s e = some (s', out)) :
    Truthful ⟨s, e, s', out⟩ ↔ ¬ Misled ⟨s, e, s', out⟩ := by
  have sent := step_confirms held made
  have members : ∀ ref, ref ∈ confirmsIn out ↔
      ∃ h ∈ handed ⟨s, e, s', out⟩, ref ∈ s.client.ackFor h := by
    intro ref
    rw [sent, Option.mem_toList, Option.bind_eq_some_iff]
    rfl
  have named : Truthful ⟨s, e, s', out⟩ ↔
      ∀ h ∈ handed ⟨s, e, s', out⟩, ∀ ref ∈ s.client.ackFor h, Names h.2 ref := by
    constructor
    · intro truthful h some ref acked
      obtain ⟨datagram, target, member, confirm, same⟩ :=
        mem_confirmsIn.mp ((members ref).mpr ⟨h, some, acked⟩)
      obtain ⟨r, input, other, long, id⟩ := truthful datagram target member confirm
      obtain ⟨r', input', content⟩ := handed_eq some
      obtain rfl : r = r' := Event.recvfrom.inj (input.symm.trans input')
      rw [content]
      exact ⟨other, long, same.symm.trans id⟩
    · intro names datagram target member confirm
      obtain ⟨h, some, acked⟩ :=
        (members (msgId datagram)).mp (mem_confirmsIn.mpr ⟨datagram, target, member, confirm, rfl⟩)
      obtain ⟨r, input, content⟩ := handed_eq some
      obtain ⟨other, long, same⟩ := names h some _ acked
      rw [content] at other long same
      exact ⟨r, input, other, long, same⟩
  rw [named]
  constructor
  · rintro names ⟨h, some, misleads⟩
    exact (ackFor_names_iff s.client h).mp (names h some) misleads
  · intro right h some
    exact (ackFor_names_iff s.client h).mpr fun misleads => right ⟨h, some, misleads⟩

/-- **Truthful acknowledgements**: every CONFIRM of a run names the datagram it reacts to exactly when
no datagram of the run misleads. -/
theorem truthful_iff {port : UInt16} {s : State}
    {history : List (Transition State Event (Effect UInt16))} (run : Run (machine port) history s) :
    (∀ t ∈ history, Truthful t) ↔ ∀ t ∈ history, ¬ Misled t := by
  have each : ∀ t ∈ history, (Truthful t ↔ ¬ Misled t) := by
    intro t member
    obtain ⟨earlier, later, rfl⟩ := List.append_of_mem member
    obtain ⟨before, made, _⟩ := run.transition
    exact truthful_step_iff (repeats_run before) made
  exact forall₂_congr each

/-- A sign-in, a duplicate of its REPLY and a message of the server. -/
theorem truthful_signIn :
    (((machine 4567).trace booted (signIn ++ [socketReady,
      heardFrom 5000 (replyDatagram 0 1 0)])).getD []).any
        (fun t => confirmsIn t.out ≠ []) = true ∧
    ∀ t ∈ ((machine 4567).trace booted (signIn ++ [socketReady,
      heardFrom 5000 (replyDatagram 0 1 0)])).getD [], Truthful t :=
  ⟨by decide +kernel, (truthful_iff (.reached booted_init rfl)).mpr (by decide +kernel)⟩

/-- A datagram of an unknown type, with MessageID 7. -/
def unknownDatagram : Str := [0x55] ++ idBytes 7

/-- A sign-in and such a datagram. -/
def unknownReceived : List Event := signIn ++ [socketReady, heardFrom 5000 unknownDatagram]

/-- **A datagram of an unknown type** in OPEN_STATE is confirmed with the counter, here 1, instead of
its MessageID 7. -/
theorem not_truthful_unknown :
    Run (machine 4567) (((machine 4567).trace booted unknownReceived).getD [])
      ((machine 4567).reached booted unknownReceived) ∧
    ∃ t ∈ ((machine 4567).trace booted unknownReceived).getD [],
      t.input = heardFrom 5000 unknownDatagram ∧ msgId unknownDatagram = 7 ∧
        .send (confirmDatagram 1) 5000 ∈ t.out ∧ ¬ Truthful t := by
  have found : ∃ t ∈ ((machine 4567).trace booted unknownReceived).getD [],
      t.input = heardFrom 5000 unknownDatagram ∧ .send (confirmDatagram 1) 5000 ∈ t.out := by
    decide +kernel
  obtain ⟨t, member, input, sent⟩ := found
  refine ⟨.reached booted_init rfl, t, member, input, by decide, sent, fun truthful => ?_⟩
  obtain ⟨r, input', _, _, same⟩ := truthful _ _ sent (by decide)
  obtain rfl := Event.recvfrom.inj (input.symm.trans input')
  exact absurd same (by decide)

end UDPClient

end Ipk24Chat
