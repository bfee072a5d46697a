/-
**The counter and what is sent, at every point of a passage.**

The counter is read when a message is built and incremented before it is sent; the BYE of
`exit_program` reads it last. `Counted` says what the points of a passage have in common: the counter
is as at the start and nothing numbered has been sent, or it is one higher and at most the message with
the old number has been sent.

* `passage_counted`: so it is at every point of every passage that sends nothing again;
* `passage_again`: a passage that sends a message again changes nothing else.
-/

import Ipk24Chat.Udp.Interrupt
import Ipk24Chat.Udp.RoundTrip
import Ipk24Chat.Wire.Unambiguous

namespace Ipk24Chat

namespace UDPClient

/-! ### Numbered datagrams -/

/-- The datagrams among some effects that carry a number: they are not empty, and no CONFIRM. -/
def numberedIn (effects : List (Effect UInt16)) : List Str :=
  effects.filterMap fun
    | .send d _ => if d = [] ∨ d.head? = some UDP_CONFIRM then none else some d
    | .print _ => none

@[simp] theorem numberedIn_nil : numberedIn [] = [] := rfl

@[simp] theorem numberedIn_append (first second : List (Effect UInt16)) :
    numberedIn (first ++ second) = numberedIn first ++ numberedIn second :=
  List.filterMap_append

@[simp] theorem numberedIn_printed (lines : List Output) : numberedIn (printed lines) = [] := by
  induction lines with
  | nil => rfl
  | cons line lines ih => exact ih

/-- What `send_msg` sends carries a number, unless it is empty or a CONFIRM. -/
theorem numberedIn_sendMsg (c : UDPClient) (m : UDPMessage) :
    numberedIn (c.sendMsg m) =
      if m.udpBuffer = [] ∨ m.udpBuffer.head? = some UDP_CONFIRM then [] else [m.udpBuffer] := by
  rw [sendMsg, numberedIn, List.filterMap_cons, List.filterMap_nil]
  by_cases unnumbered : m.udpBuffer = [] ∨ m.udpBuffer.head? = some UDP_CONFIRM
  · simp only [if_pos unnumbered]
  · simp only [if_neg unnumbered]

@[simp] theorem numberedIn_confirm (c : UDPClient) (id : UInt16) :
    numberedIn (c.sendMsg (confirmMsg id)) = [] := rfl

/-- A message with a number. -/
def Numbered (m : UDPMessage) (id : UInt16) : Prop :=
  ∃ o : Outgoing, o ≠ .confirm ∧ m.udpBuffer = o.udp id

theorem Numbered.msgId {m : UDPMessage} {id : UInt16} (numbered : Numbered m id) :
    UDPClient.msgId m.udpBuffer = id := by
  obtain ⟨o, _, layout⟩ := numbered
  rw [layout, o.udp_eq]
  exact msgId_layout o.code id o.fields

theorem Outgoing.code_ne_confirm {o : Outgoing} (other : o ≠ .confirm) : o.code ≠ UDP_CONFIRM := by
  cases o with
  | request r => cases r with
    | auth => exact (show UDP_AUTH ≠ UDP_CONFIRM by decide)
    | join => exact (show UDP_JOIN ≠ UDP_CONFIRM by decide)
    | msg => exact (show UDP_MSG ≠ UDP_CONFIRM by decide)
  | err => exact (show UDP_ERR ≠ UDP_CONFIRM by decide)
  | bye => exact (show UDP_BYE ≠ UDP_CONFIRM by decide)
  | confirm => exact absurd rfl other

theorem Numbered.sent {m : UDPMessage} {id : UInt16} (numbered : Numbered m id) (c : UDPClient) :
    numberedIn (c.sendMsg m) = [m.udpBuffer] := by
  obtain ⟨o, other, layout⟩ := numbered
  have code := Outgoing.code_ne_confirm other
  rw [numberedIn_sendMsg, layout, o.udp_eq]
  simp [code]

/-- The id of the next message is the counter, while it fits. -/
theorem nextId_toNat {c : UDPClient} (bound : c.msgCounter < 65536) :
    c.nextId.toNat = c.msgCounter := by
  rw [nextId, UInt16.toNat_ofNat', Nat.mod_eq_of_lt bound]

theorem byeMsg_numbered (c : UDPClient) : Numbered c.byeMsg c.nextId :=
  ⟨.bye, Outgoing.noConfusion, rfl⟩

theorem errMsg_numbered (c : UDPClient) : Numbered c.errMsg c.nextId :=
  ⟨.err c.dname (bytes "Unknown or invalid message at current state."), Outgoing.noConfusion, rfl⟩

/-- The datagram of a line is empty, or it has the number of the counter. -/
theorem userMsg_numbered (c : UDPClient) (line : Str) :
    (c.userMsg line).1.udpBuffer = [] ∨ Numbered (c.userMsg line).1 c.nextId := by
  have layout : (c.userMsg line).1.udpBuffer = _ := UDPMessage.udpBuffer_userCmd c.dname line c.nextId
  cases request : (command line).request c.dname line with
  | none =>
    rw [request] at layout
    exact Or.inl layout
  | some r =>
    rw [request] at layout
    exact Or.inr ⟨.request r, Outgoing.noConfusion, layout⟩

/-! ### Points -/

/-- Nothing numbered has been sent, and the counter stands. -/
def Unchanged (c : UDPClient) (p : Point) : Prop :=
  p.1.msgCounter = c.msgCounter ∧ numberedIn p.2 = []

/-- The counter stands, and at most this message has been sent. -/
def Sending (m : UDPMessage) (c : UDPClient) (p : Point) : Prop :=
  p.1.msgCounter = c.msgCounter ∧
    (numberedIn p.2 = [] ∨ (m.udpBuffer ≠ [] ∧ numberedIn p.2 = [m.udpBuffer]))

/-- **The counter stands, or it has been incremented** and at most the message with its old value has
been sent. -/
def Counted (c : UDPClient) (p : Point) : Prop :=
  Unchanged c p ∨ (p.1.msgCounter = c.msgCounter + 1 ∧
    (numberedIn p.2 = [] ∨ ∃ d, numberedIn p.2 = [d] ∧ msgId d = c.nextId))

/-- A property of points that what is unchanged before does not spoil. -/
structure Stable (P : UDPClient → Point → Prop) : Prop where
  unchanged : ∀ {c p}, Unchanged c p → P c p
  behind : ∀ {c c' : UDPClient} {p : Point} {effects : List (Effect UInt16)},
    Unchanged c (c', effects) → P c' p → P c (p.1, effects ++ p.2)

theorem unchanged_stable : Stable Unchanged where
  unchanged same := same
  behind := by
    rintro c c' p effects ⟨counter, silent⟩ ⟨counter', silent'⟩
    exact ⟨counter'.trans counter, by rw [numberedIn_append, silent, silent', List.append_nil]⟩

theorem sending_stable (m : UDPMessage) : Stable (Sending m) where
  unchanged same := ⟨same.1, Or.inl same.2⟩
  behind := by
    rintro c c' p effects ⟨counter, silent⟩ ⟨counter', sent⟩
    refine ⟨counter'.trans counter, ?_⟩
    rw [numberedIn_append, silent, List.nil_append]
    exact sent

theorem counted_stable : Stable Counted where
  unchanged same := Or.inl same
  behind := by
    rintro c c' p effects ⟨counter, silent⟩ counted
    have counter : c'.msgCounter = c.msgCounter := counter
    rcases counted with ⟨counter', silent'⟩ | ⟨counter', sent⟩
    · exact Or.inl ⟨counter'.trans counter, by simp [numberedIn_append, silent, silent']⟩
    · have id : c'.nextId = c.nextId := by rw [nextId, nextId, counter]
      rw [id] at sent
      refine Or.inr ⟨by rw [counter', counter], ?_⟩
      rw [numberedIn_append, silent, List.nil_append]
      exact sent

/-! ### Passages -/

/-- How a passage ends: it returns, the program leaves, or it waits for the CONFIRM of what it has
sent. -/
inductive Closes (P : UDPClient → Point → Prop) (c : UDPClient) : Outcome → Prop
  | returns {o : Outcome} : o.blocked = none → P c (o.client, o.effects) → Closes P c o
  | leaves {c' : UDPClient} {effects : List (Effect UInt16)} (sendBye : Bool) (ret : ExitCode) :
      P c (c', effects) → Closes P c ((c'.exitProgram sendBye ret).after effects)
  | waits {c' : UDPClient} {effects : List (Effect UInt16)} (m : UDPMessage) :
      P c (c', effects) → (m.udpBuffer = [] ∨ numberedIn effects = [m.udpBuffer]) →
      Closes P c ⟨c', effects, some (.handleTimeout m 0)⟩

/-- The property holds at every point and at the end. -/
structure Passes (P : UDPClient → Point → Prop) (c : UDPClient) (p : Passage) : Prop where
  points : ∀ point ∈ p.points, P c point
  outcome : Closes P c p.outcome

section Combinators

variable {P : UDPClient → Point → Prop}

theorem Closes.behind {c c' : UDPClient} {o : Outcome} {effects : List (Effect UInt16)}
    (stable : Stable P) (same : Unchanged c (c', effects)) (closes : Closes P c' o) :
    Closes P c (o.after effects) := by
  cases closes with
  | returns returned holds => exact .returns returned (stable.behind same holds)
  | leaves sendBye ret holds =>
    rw [Outcome.after_after]
    exact .leaves sendBye ret (stable.behind same holds)
  | waits m holds sent =>
    refine .waits m (stable.behind same holds) (sent.imp_right fun sent => ?_)
    rw [numberedIn_append, same.2, List.nil_append]
    exact sent

/-- **One script and the next.** -/
theorem Passes.andThen {first next : Script} {c : UDPClient} (stable : Stable P)
    (one : Passes P c (first c))
    (calm : (first c).outcome.blocked = none →
      Unchanged c ((first c).outcome.client, (first c).outcome.effects))
    (two : ∀ c', c'.msgCounter = c.msgCounter → Passes P c' (next c')) :
    Passes P c (first.andThen next c) := by
  cases stops : (first c).outcome.blocked with
  | some k =>
    have points : (first.andThen next c).points = (first c).points := by
      simp only [Script.andThen, stops, List.append_nil]
    refine ⟨by rw [points]; exact one.points, ?_⟩
    rw [Script.andThen_outcome, Outcome.andThen_of_blocked stops]
    exact one.outcome
  | none =>
    have same := calm stops
    constructor
    · intro point member
      simp only [Script.andThen, stops, List.mem_append, List.mem_map] at member
      rcases member with member | ⟨point, member, rfl⟩
      · exact one.points point member
      · exact stable.behind same ((two _ same.1).points point member)
    · rw [Script.andThen_outcome, Outcome.andThen, stops]
      exact (two _ same.1).outcome.behind stable same

/-- A script that changes nothing numbered. -/
def Quietly (k : Script) : Prop := ∀ c, Passes Unchanged c (k c)

theorem Quietly.calm {k : Script} (quietly : Quietly k) {c : UDPClient}
    (returned : (k c).outcome.blocked = none) :
    Unchanged c ((k c).outcome.client, (k c).outcome.effects) := by
  have closes := (quietly c).outcome
  generalize (k c).outcome = o at closes returned
  cases closes with
  | returns _ same => exact same
  | leaves sendBye ret _ =>
    obtain ⟨k, blocked, _⟩ := (exitProgram_leaving ‹UDPClient› sendBye ret).blocked
    rw [Outcome.after_blocked, blocked] at returned
    cases returned
  | waits => cases returned

theorem Passes.of_quietly {k : Script} (stable : Stable P) (quietly : Quietly k) (c : UDPClient) :
    Passes P c (k c) := by
  refine ⟨fun point member => stable.unchanged ((quietly c).points point member), ?_⟩
  have closes := (quietly c).outcome
  generalize (k c).outcome = o at closes
  cases closes with
  | returns returned same => exact .returns returned (stable.unchanged same)
  | leaves sendBye ret same => exact .leaves sendBye ret (stable.unchanged same)
  | waits m same sent => exact .waits m (stable.unchanged same) sent

/-- **A quiet script and then the next**, which starts with the same counter. -/
theorem Quietly.andThen_same {first next : Script} (quietly : Quietly first) (stable : Stable P)
    {c : UDPClient} (two : ∀ c', c'.msgCounter = c.msgCounter → Passes P c' (next c')) :
    Passes P c (first.andThen next c) :=
  .andThen stable (.of_quietly stable quietly c) quietly.calm two

theorem Quietly.andThen_passes {first next : Script} (quietly : Quietly first) (stable : Stable P)
    (two : ∀ c, Passes P c (next c)) (c : UDPClient) : Passes P c (first.andThen next c) :=
  quietly.andThen_same stable fun c' _ => two c'

theorem Quietly.andThen {first next : Script} (quietly : Quietly first) (quietly' : Quietly next) :
    Quietly (first.andThen next) :=
  fun c => quietly.andThen_passes unchanged_stable quietly' c

end Combinators

/-! ### The scripts -/

section Scripts

open Script

theorem quietly_assign {f : UDPClient → UDPClient} (same : ∀ c, (f c).msgCounter = c.msgCounter) :
    Quietly (assign f) := by
  intro c
  refine ⟨fun point member => ?_, .returns rfl ⟨same c, rfl⟩⟩
  rw [List.mem_singleton.mp member]
  exact ⟨same c, rfl⟩

theorem quietly_print (lines : List Output) : Quietly (print lines) := by
  intro c
  refine ⟨fun point member => ?_, .returns rfl ⟨rfl, numberedIn_printed lines⟩⟩
  rw [List.mem_singleton.mp member]
  exact ⟨rfl, numberedIn_printed lines⟩

theorem quietly_done : Quietly done :=
  fun _ => ⟨fun _ member => absurd member List.not_mem_nil, .returns rfl ⟨rfl, rfl⟩⟩

theorem quietly_confirm (id : UInt16) : Quietly (Script.sendConfirm id) := by
  intro c
  refine ⟨fun point member => ?_, .returns rfl ⟨rfl, rfl⟩⟩
  rw [List.mem_singleton.mp member]
  exact ⟨rfl, rfl⟩

theorem quietly_exit (sendBye : Bool) (ret : ExitCode) :
    Quietly (block fun c => c.exitProgram sendBye ret) := by
  intro c
  have same : Unchanged c (c, []) := ⟨rfl, rfl⟩
  exact ⟨fun _ member => absurd member List.not_mem_nil, .leaves sendBye ret same⟩

theorem quietly_sendConfimExit (m : UDPMessage) (exit : Bool) :
    Quietly (Script.sendConfimExit m exit) := by
  refine (quietly_confirm m.messageId).andThen ?_
  cases exit with
  | false => exact quietly_done
  | true =>
    by_cases bye : m.type = .bye
    · simpa [bye] using quietly_exit true .success
    · simpa [bye] using quietly_exit true .failure

theorem quietly_handleConfirm (m : UDPMessage) : Quietly (Script.handleConfirm m) := by
  intro c
  unfold Script.handleConfirm
  split
  · exact (quietly_assign (by intro _; rfl)).andThen (quietly_assign (by intro _; rfl)) c
  · exact quietly_done c

theorem quietly_switchServerPort : Quietly Script.switchServerPort := by
  intro c
  unfold Script.switchServerPort
  split
  · exact (quietly_assign (by intro _; rfl)).andThen (quietly_assign (by intro _; rfl)) c
  · exact quietly_done c

theorem quietly_answered (m : UDPMessage) (next : FsmState) : Quietly (Script.answered m next) :=
  (quietly_assign (by intro _; rfl)).andThen <| (quietly_print _).andThen <|
    (quietly_assign (by intro _; rfl)).andThen (quietly_assign (by intro _; rfl))

theorem quietly_handleReply (m : UDPMessage) (switchPort : Bool) (next : FsmState) :
    Quietly (Script.handleReply m switchPort next) := by
  refine (quietly_assign (by intro _; rfl)).andThen (Quietly.andThen ?_ (quietly_sendConfimExit m false))
  intro c
  simp only
  split
  · have switches : Quietly (if switchPort then Script.switchServerPort else done) := by
      cases switchPort with
      | false => exact quietly_done
      | true => exact quietly_switchServerPort
    refine switches.andThen (fun c => ?_) c
    split
    · exact quietly_answered m next c
    · exact quietly_done c
  · exact quietly_done c

/-- **`send_error_exit`**: the ERR has the old number, and the BYE the new one. -/
theorem counted_sendErrorExit (c : UDPClient) : Passes Counted c (Script.sendErrorExit c) := by
  have numbered := errMsg_numbered c
  have sent : ∀ c' : UDPClient, c'.msgCounter = c.msgCounter + 1 →
      Counted c (c', c'.sendMsg c.errMsg) := fun c' counter =>
    Or.inr ⟨counter, Or.inr ⟨_, numbered.sent c', numbered.msgId⟩⟩
  constructor
  · intro point member
    have points : (Script.sendErrorExit c).points =
        [({ c with msgCounter := c.msgCounter + 1 }, []),
          ({ c with msgCounter := c.msgCounter + 1 },
            UDPClient.sendMsg { c with msgCounter := c.msgCounter + 1 } c.errMsg),
          (c.erred, UDPClient.sendMsg c.erred c.errMsg)] := rfl
    rw [points] at member
    simp only [List.mem_cons, List.not_mem_nil, or_false] at member
    rcases member with rfl | rfl | rfl
    · exact Or.inr ⟨rfl, Or.inl rfl⟩
    · exact sent _ rfl
    · exact sent _ rfl
  · have ends : (Script.sendErrorExit c).outcome =
        (c.erred.exitProgram true .failure).after (c.erred.sendMsg c.errMsg) := rfl
    rw [ends]
    exact .leaves true .failure (sent c.erred rfl)

theorem counted_handleAuthState (m : UDPMessage) (c : UDPClient) :
    Passes Counted c (Script.handleAuthState m c) := by
  unfold Script.handleAuthState
  cases m.type with
  | confirm => exact .of_quietly counted_stable (quietly_handleConfirm m) c
  | replyOk => exact .of_quietly counted_stable (quietly_handleReply m true .openState) c
  | replyNok => exact .of_quietly counted_stable (quietly_handleReply m true .authState) c
  | err => exact .of_quietly counted_stable (quietly_sendConfimExit m true) c
  | msg => exact (quietly_confirm _).andThen_passes counted_stable counted_sendErrorExit c
  | _ => exact .of_quietly counted_stable quietly_done c

theorem counted_handleOpenState (m : UDPMessage) (bytesRx : Nat) (c : UDPClient) :
    Passes Counted c (Script.handleOpenState m bytesRx c) := by
  have unknown : Passes Counted c ((print (m.processInboundMsg bytesRx).2).andThen
      (fun c => ((Script.sendConfirm c.nextId).andThen Script.sendErrorExit) c) c) :=
    (quietly_print _).andThen_passes counted_stable
      (fun c => (quietly_confirm _).andThen_passes counted_stable counted_sendErrorExit c) c
  unfold Script.handleOpenState
  cases m.type with
  | confirm => exact .of_quietly counted_stable (quietly_handleConfirm m) c
  | replyOk => exact .of_quietly counted_stable (quietly_handleReply m false .openState) c
  | replyNok => exact .of_quietly counted_stable (quietly_handleReply m false .openState) c
  | err =>
    exact .of_quietly counted_stable
      ((quietly_print _).andThen <| (quietly_confirm _).andThen <| quietly_exit true .failure) c
  | bye =>
    exact .of_quietly counted_stable
      ((quietly_print _).andThen <| (quietly_confirm _).andThen <| quietly_exit false .failure) c
  | msg =>
    exact .of_quietly counted_stable
      ((quietly_assign (by intro _; rfl)).andThen (quietly_sendConfimExit m false)) c
  | _ => exact unknown

theorem counted_fsmLogicHandler (skipMessage : Bool) (m : UDPMessage) (bytesRx : Nat)
    (c : UDPClient) : Passes Counted c (Script.fsmLogicHandler skipMessage m bytesRx c) := by
  unfold Script.fsmLogicHandler
  cases skipMessage with
  | true => exact .of_quietly counted_stable quietly_done c
  | false =>
    refine (quietly_print _).andThen_passes counted_stable ?_ c
    intro c
    cases c.clientState with
    | startState =>
      simp only
      split
      · exact .of_quietly counted_stable ((quietly_print _).andThen (quietly_exit true .failure)) c
      · exact .of_quietly counted_stable quietly_done c
    | authState => exact counted_handleAuthState _ c
    | openState => exact counted_handleOpenState _ bytesRx c

theorem counted_receiveInTimeout (m : UDPMessage) (buffer : Str) (c : UDPClient) :
    Passes Counted c (Script.receiveInTimeout m buffer c) := by
  unfold Script.receiveInTimeout
  refine (quietly_print _).andThen_passes counted_stable ?_ c
  split
  · exact .of_quietly counted_stable (quietly_assign (by intro _; rfl))
  · exact counted_fsmLogicHandler _ _ _

/-- What is done early returns only when it does nothing. -/
theorem preHandle_calm {m : UDPMessage} {bytesRx : Nat} {c : UDPClient}
    (returned : (Script.preHandle m bytesRx c).outcome.blocked = none) :
    Unchanged c ((Script.preHandle m bytesRx c).outcome.client,
      (Script.preHandle m bytesRx c).outcome.effects) := by
  unfold Script.preHandle at returned ⊢
  simp only at returned ⊢
  split at returned
  · cases returned
  split at returned
  · cases returned
  split at returned
  · cases returned
  split at returned
  · cases returned
  rename_i first second third fourth
  rw [if_neg first, if_neg second, if_neg third, if_neg fourth]
  exact ⟨rfl, rfl⟩

theorem counted_preHandle (m : UDPMessage) (bytesRx : Nat) (c : UDPClient) :
    Passes Counted c (Script.preHandle m bytesRx c) := by
  have confirms : ∀ id, Passes Counted c ((Script.sendConfirm id).andThen Script.sendErrorExit c) :=
    fun id => (quietly_confirm id).andThen_passes counted_stable counted_sendErrorExit c
  unfold Script.preHandle
  simp only
  split
  · exact .of_quietly counted_stable
      ((quietly_print _).andThen <| (quietly_confirm _).andThen <| quietly_exit true .failure) c
  split
  · exact (quietly_print _).andThen_passes counted_stable
      (fun c' => (quietly_confirm _).andThen_passes counted_stable counted_sendErrorExit c') c
  split
  · exact confirms _
  split
  · exact confirms _
  · exact .of_quietly counted_stable quietly_done c

theorem counted_receiveInMain (buffer : Str) (c : UDPClient) :
    Passes Counted c (Script.receiveInMain buffer c) := by
  unfold Script.receiveInMain
  simp only
  refine (quietly_print _).andThen_passes counted_stable (fun c' => ?_) c
  split
  · exact (quietly_done).andThen_passes counted_stable (counted_fsmLogicHandler _ _ _) c'
  · exact .andThen counted_stable (counted_preHandle _ _ c') preHandle_calm
      fun c'' _ => counted_fsmLogicHandler _ _ _ c''

theorem Numbered.ne_nil {m : UDPMessage} {id : UInt16} (numbered : Numbered m id) :
    m.udpBuffer ≠ [] := by
  obtain ⟨o, _, layout⟩ := numbered
  rw [layout, o.udp_eq]
  exact List.cons_ne_nil _ _

/-- What is sent of a message that is empty or numbered. -/
theorem sendMsg_carried {m : UDPMessage} {id : UInt16} (carried : m.udpBuffer = [] ∨ Numbered m id)
    (c c' : UDPClient) : Sending m c (c, c'.sendMsg m) ∧
      (m.udpBuffer = [] ∨ numberedIn (c'.sendMsg m) = [m.udpBuffer]) := by
  rcases carried with empty | numbered
  · have silent : numberedIn (c'.sendMsg m) = [] := by
      rw [numberedIn_sendMsg, if_pos (Or.inl empty)]
    exact ⟨⟨rfl, Or.inl silent⟩, Or.inl empty⟩
  · exact ⟨⟨rfl, Or.inr ⟨numbered.ne_nil, numbered.sent c'⟩⟩, Or.inr (numbered.sent c')⟩

/-- The message is sent, and the program waits. -/
theorem sending_wait {m : UDPMessage} {id : UInt16} (carried : m.udpBuffer = [] ∨ Numbered m id)
    (c : UDPClient) :
    Passes (Sending m) c ((send m).andThen (block fun c => c.handleTimeout m false) c) := by
  obtain ⟨sent, waited⟩ := sendMsg_carried carried c c
  constructor
  · intro point member
    rw [List.mem_singleton.mp (show point ∈ [(c, c.sendMsg m)] from member)]
    exact sent
  · have ends : ((send m).andThen (block fun c => c.handleTimeout m false) c).outcome =
        ⟨c, c.sendMsg m, some (.handleTimeout m 0)⟩ := rfl
    rw [ends]
    exact .waits m sent waited

/-- The message is sent, the flag is set, and the program waits. -/
theorem sending_flag_wait {m : UDPMessage} {id : UInt16}
    (carried : m.udpBuffer = [] ∨ Numbered m id) (c : UDPClient) :
    Passes (Sending m) c ((send m).andThen ((assign fun c => { c with confirmMsgSent := true }).andThen
      (block fun c => c.handleTimeout m false)) c) := by
  obtain ⟨sent, waited⟩ := sendMsg_carried carried c c
  have flagged : Sending m c ({ c with confirmMsgSent := true }, c.sendMsg m) := sent
  constructor
  · intro point member
    have two : point ∈ [(c, c.sendMsg m), ({ c with confirmMsgSent := true }, c.sendMsg m)] := member
    simp only [List.mem_cons, List.not_mem_nil, or_false] at two
    rcases two with rfl | rfl
    · exact sent
    · exact flagged
  · have ends : ((send m).andThen ((assign fun c => { c with confirmMsgSent := true }).andThen
        (block fun c => c.handleTimeout m false)) c).outcome =
        ⟨{ c with confirmMsgSent := true }, c.sendMsg m, some (.handleTimeout m 0)⟩ := rfl
    rw [ends]
    exact .waits m flagged waited

theorem sending_sendAuth {m : UDPMessage} {id : UInt16} (carried : m.udpBuffer = [] ∨ Numbered m id)
    (c : UDPClient) : Passes (Sending m) c (sendAuth m c) := by
  have stable := sending_stable m
  refine (quietly_assign (by intro _; rfl)).andThen_passes stable (fun c => ?_) c
  refine (quietly_assign (by intro _; rfl)).andThen_passes stable (fun c => ?_) c
  refine (quietly_assign (by intro _; rfl)).andThen_passes stable (fun c => ?_) c
  refine (quietly_assign (by intro _; rfl)).andThen_passes stable (fun c => ?_) c
  refine (quietly_assign (by intro _; rfl)).andThen_passes stable (fun c => ?_) c
  exact sending_wait carried c

theorem sending_sendOpen {m : UDPMessage} {id : UInt16} (carried : m.udpBuffer = [] ∨ Numbered m id)
    (c : UDPClient) : Passes (Sending m) c (sendOpen m c) := by
  have stable := sending_stable m
  have flags : Quietly (if m.type = .join then requestJoin m else done) := by
    split
    · exact (quietly_assign (by intro _; rfl)).andThen <|
        (quietly_assign (by intro _; rfl)).andThen (quietly_assign (by intro _; rfl))
    · exact quietly_done
  refine flags.andThen_passes stable (fun c => ?_) c
  refine (quietly_assign (by intro _; rfl)).andThen_passes stable (fun c => ?_) c
  exact sending_flag_wait carried c

theorem sending_dispatchCounted {m : UDPMessage} {id : UInt16}
    (carried : m.udpBuffer = [] ∨ Numbered m id) (c : UDPClient) :
    Passes (Sending m) c (dispatchCounted m c) := by
  have stable := sending_stable m
  unfold dispatchCounted
  cases c.clientState with
  | startState =>
    simp only
    split
    · exact .of_quietly stable (quietly_print _) c
    · exact sending_sendAuth carried c
  | authState =>
    simp only
    split
    · exact .of_quietly stable (quietly_print _) c
    split
    · exact sending_sendAuth carried c
    · exact .of_quietly stable quietly_done c
  | openState =>
    simp only
    split
    · exact .of_quietly stable (quietly_print _) c
    · exact sending_sendOpen carried c

/-- Behind the increment, what is sent has the old number. -/
theorem Sending.counted {m : UDPMessage} {c c' : UDPClient}
    (carried : m.udpBuffer = [] ∨ Numbered m c.nextId) (counter : c'.msgCounter = c.msgCounter + 1)
    {p : Point} (sending : Sending m c' p) : Counted c p := by
  refine Or.inr ⟨sending.1.trans counter, ?_⟩
  rcases sending.2 with silent | ⟨nonempty, sent⟩
  · exact Or.inl silent
  · exact Or.inr ⟨_, sent, (carried.resolve_left nonempty).msgId⟩

theorem counted_dispatch {m : UDPMessage} {c : UDPClient}
    (carried : m.udpBuffer = [] ∨ Numbered m c.nextId) :
    Passes Counted c (Script.dispatch m c) := by
  have passes := sending_dispatchCounted carried { c with msgCounter := c.msgCounter + 1 }
  constructor
  · intro point member
    have split : point = ({ c with msgCounter := c.msgCounter + 1 }, []) ∨
        ∃ later ∈ (dispatchCounted m { c with msgCounter := c.msgCounter + 1 }).points,
          (later.1, [] ++ later.2) = point := by
      simpa only [Script.dispatch, Script.andThen, assign, Outcome.done, List.mem_append,
        List.mem_singleton, List.mem_map] using member
    rcases split with rfl | ⟨later, inside, rfl⟩
    · exact Or.inr ⟨rfl, Or.inl rfl⟩
    · exact (passes.points later inside).counted carried rfl
  · have ends : (Script.dispatch m c).outcome =
        (dispatchCounted m { c with msgCounter := c.msgCounter + 1 }).outcome := rfl
    rw [ends]
    have closes := passes.outcome
    generalize (dispatchCounted m { c with msgCounter := c.msgCounter + 1 }).outcome = o at closes
    cases closes with
    | returns returned sending => exact .returns returned (sending.counted carried rfl)
    | leaves sendBye ret sending => exact .leaves sendBye ret (sending.counted carried rfl)
    | waits m' sending sent => exact .waits m' (sending.counted carried rfl) sent

/-- **A line of the user.** -/
theorem counted_userLine (line : Str) (c : UDPClient) : Passes Counted c (Script.userLine line c) := by
  unfold Script.userLine
  by_cases empty : line = []
  · rw [if_pos empty]
    exact .of_quietly counted_stable quietly_done c
  rw [if_neg empty]
  simp only
  refine (quietly_print _).andThen_same counted_stable fun c₁ same₁ => ?_
  have named : Quietly (if (c.userMsg line).1.type = .auth ∨ (c.userMsg line).1.type = .rename then
      assign fun c' => { c' with dname := (c.userMsg line).1.displayName } else done) := by
    split
    · exact quietly_assign (by intro _; rfl)
    · exact quietly_done
  refine named.andThen_same counted_stable fun c₂ same₂ => ?_
  split
  · have id : c₂.nextId = c.nextId := by rw [nextId, nextId, same₂, same₁]
    refine counted_dispatch ?_
    rw [id]
    exact userMsg_numbered c line
  · exact .of_quietly counted_stable quietly_done c₂

theorem counted_acceptStep (r : Received) (c : UDPClient) :
    Passes Counted c (Script.acceptStep r c) := by
  unfold Script.acceptStep
  split
  · split
    · exact .of_quietly counted_stable (quietly_print _) c
    · exact .of_quietly counted_stable ((quietly_print _).andThen (quietly_exit false .failure)) c
  · exact (quietly_assign (by intro _; rfl)).andThen_passes counted_stable
      (counted_receiveInMain r.buffer) c

theorem counted_getlineStep (line : Option Str) (c : UDPClient) :
    Passes Counted c (Script.getlineStep line c) := by
  cases line with
  | none => exact .of_quietly counted_stable (quietly_exit true .failure) c
  | some line => exact counted_userLine line c

theorem counted_pollStep (result : PollResult) (c : UDPClient) :
    Passes Counted c (Script.pollStep result c) := by
  cases result with
  | failed =>
    exact .of_quietly counted_stable ((quietly_print _).andThen (quietly_exit false .failure)) c
  | ready socket stdin => exact .of_quietly counted_stable quietly_done c

end Scripts

/-- **Every passage counts**, unless it sends a message again. -/
theorem passage_counted {s : State} {e : Event} {p : Passage} (passes : passage s e = some p)
    (once : retransmits s e = false) : Passes Counted s.client p := by
  unfold passage at passes
  cases control : s.control with
  | poll => cases e with
    | poll result =>
      simp only [control, Option.some.injEq] at passes
      exact passes ▸ counted_pollStep result s.client
    | _ => simp [control] at passes
  | acceptMsg => cases e with
    | recvfrom r =>
      simp only [control, Option.some.injEq] at passes
      exact passes ▸ counted_acceptStep r s.client
    | _ => simp [control] at passes
  | getline => cases e with
    | getline line =>
      simp only [control, Option.some.injEq] at passes
      exact passes ▸ counted_getlineStep line s.client
    | _ => simp [control] at passes
  | handleTimeout m k => cases e with
    | recvfrom r =>
      simp only [control, Option.some.injEq] at passes
      subst passes
      simp only [retransmits, control] at once
      unfold Script.timeoutStep
      by_cases empty : r.bytesRx ≤ 0
      · by_cases again : r.errno.again = true
        · have limit : k = s.client.maxUdpRetransmission.toNat := by
            simpa [empty, again] using once
          simp only [if_pos empty, if_pos again, if_pos limit]
          exact .of_quietly counted_stable ((quietly_print _).andThen (quietly_exit true .failure)) _
        · simp only [if_pos empty, if_neg again]
          exact .of_quietly counted_stable (quietly_print _) _
      · simp only [if_neg empty]
        exact counted_receiveInTimeout m r.buffer s.client
    | _ => simp [control] at passes
  | exitProgram => simp [control] at passes
  | exited => simp [control] at passes

/-- Sending again changes nothing else. -/
theorem passage_again {s : State} {e : Event} {p : Passage} (passes : passage s e = some p)
    (again : retransmits s e = true) :
    ∃ m k, s.control = .handleTimeout m k ∧ p = Script.send m s.client := by
  unfold retransmits at again
  split at again
  · rename_i m k r control
    refine ⟨m, k, control, ?_⟩
    obtain ⟨⟨empty, timeout⟩, below⟩ : (r.bytesRx ≤ 0 ∧ r.errno.again = true) ∧
        k ≠ s.client.maxUdpRetransmission.toNat := by simpa using again
    simp only [passage, control, Option.some.injEq] at passes
    rw [← passes, Script.timeoutStep]
    simp only [if_pos empty, if_pos timeout, if_neg below]
  · cases again

end UDPClient

end Ipk24Chat
