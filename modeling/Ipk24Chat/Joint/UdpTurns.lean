/-
**The UDP client plays the dialogue.**

Every line it reads and every datagram it receives in `poll` is a turn of the `Dialogue`, sent as
datagrams. The channel confirms each of them at once: that is what brings the client back to `poll`
from `handle_timeout`, and out of `exit_program`.

* `Concludes.confirmed`: the CONFIRMs end the wait, or the program;
* `userLine_plays`, `Regular.turns`: the outcomes are those of the turns;
* `line_made`, `message_made`: the machine runs them, with the channel.
-/

import Ipk24Chat.Joint.Dialogue
import Ipk24Chat.Stdin.UserInput
import Ipk24Chat.Udp.Confirmation
import Ipk24Chat.Udp.Counting
import Ipk24Chat.Udp.Paths

namespace Ipk24Chat

namespace UDPClient

open Reactive

/-- What the client knows of the session. -/
def dialogue (c : UDPClient) : Dialogue := ⟨c.clientState, c.replyMsgSent, c.dname⟩

/-- The program has ended, with this status. -/
def Control.ended : Control → Option ExitCode
  | .exited ret => some ret
  | _ => none

/-! ### The channel -/

/-- The CONFIRMs for what has been sent, in its order, from a port of the server. -/
def confirmations (server : UInt16) (out : List (Effect UInt16)) : List Event :=
  (numberedIn out).map fun d => heardFrom server (confirmDatagram (msgId d))

theorem kind_confirmDatagram (id : UInt16) : kind (confirmDatagram id) = .confirm :=
  kind_layout UDP_CONFIRM id []

theorem msgId_confirmDatagram (id : UInt16) : msgId (confirmDatagram id) = id :=
  msgId_layout UDP_CONFIRM id []

/-- **How a turn ends**: the program waits for the next one, for the CONFIRM of what has been sent, or
for the CONFIRM of the BYE. -/
inductive Concludes (o : Outcome) : Option ExitCode → Prop
  | returns : o.blocked = none → numberedIn o.effects = [] → o.client.confirmMsgSent = false →
      Concludes o none
  | waits (m : UDPMessage) : o.blocked = some (.handleTimeout m 0) →
      numberedIn o.effects = [m.udpBuffer] → msgId m.udpBuffer = m.messageId →
      o.client.confirmMsgSent = true → Concludes o none
  | leaves {ret : ExitCode} (earlier : List Str) (bye : Str) :
      o.blocked = some (.exitProgram 0 ret) → numberedIn o.effects = earlier ++ [bye] →
      (∀ d ∈ earlier, (msgId d).toNat ≠ o.client.msgCounter) →
      (msgId bye).toNat = o.client.msgCounter → Concludes o (some ret)

/-- A CONFIRM in the loop of `exit_program`. -/
theorem step_bye {s : State} {k : Nat} {ret : ExitCode} (leaving : s.control = .exitProgram k ret)
    (server id : UInt16) : step s (heardFrom server (confirmDatagram id)) =
      some ({ s with control := if id.toNat = s.client.msgCounter then .exited ret
        else .exitProgram k ret }, []) := by
  have buffer : (confirmDatagram id).take BUFFER_SIZE = confirmDatagram id := by rfl
  have nonempty : 0 < (Received.datagram (confirmDatagram id) server (.other 0)).bytesRx := by
    simp [Received.bytesRx, confirmDatagram, BUFFER_SIZE]
  rw [heardFrom, step_exit leaving, byeStep_datagram s k ret nonempty]
  simp only [Received.buffer, buffer, classifiedNotices, kind_confirmDatagram, msgId_confirmDatagram,
    true_and, reduceCtorEq, if_false]
  rfl

/-- CONFIRMs of other messages leave the loop of `exit_program` as it is. -/
theorem drive_others {port : UInt16} {s : State} {k : Nat} {ret : ExitCode}
    (leaving : s.control = .exitProgram k ret) (server : UInt16) {datagrams : List Str}
    (others : ∀ d ∈ datagrams, (msgId d).toNat ≠ s.client.msgCounter) :
    Drive (machine port) s (datagrams.map fun d => heardFrom server (confirmDatagram (msgId d))) s
      [] := by
  induction datagrams with
  | nil => exact .done
  | cons d datagrams ih =>
    have stays := step_bye leaving server (msgId d)
    rw [if_neg (others d List.mem_cons_self), ← leaving] at stays
    exact .more stays (ih fun d' member => others d' (List.mem_cons_of_mem _ member))

/-- The state behind the CONFIRMs of an outcome. -/
structure AllConfirmed (o : Outcome) (ended : Option ExitCode) (s : State) : Prop where
  dialogue : s.client.dialogue = o.client.dialogue
  replies : s.client.replyIdVector = o.client.replyIdVector
  control : s.control = ended.elim .poll .exited
  confirmed : ended = none → s.client.confirmMsgSent = false

/-- **The CONFIRMs end the wait, or the program.** -/
theorem Concludes.confirmed {o : Outcome} {ended : Option ExitCode}
    (concludes : Concludes o ended) (s : State) (port server : UInt16) :
    ∃ s', Drive (machine port) (s.resume .poll o).1 (confirmations server o.effects) s' [] ∧
      AllConfirmed o ended s' := by
  unfold confirmations
  cases concludes with
  | returns returned silent flag =>
    rw [silent]
    refine ⟨_, .done, rfl, rfl, ?_, fun _ => flag⟩
    simp only [State.resume, returned]
    rfl
  | waits m waiting sent id set =>
    rw [sent]
    have control : (s.resume .poll o).1.control = .handleTimeout m 0 := by
      simp only [State.resume, waiting, Option.getD_some]
    have awaited : (s.resume .poll o).1.client.Awaited m (confirmDatagram (msgId m.udpBuffer)) :=
      ⟨set, kind_confirmDatagram _, by rw [msgId_confirmDatagram, id]⟩
    exact ⟨_, .single (awaited_step control awaited), rfl, rfl, rfl, fun _ => rfl⟩
  | leaves earlier bye leaving sent others last =>
    rename_i ret
    rw [sent, List.map_append]
    have control : (s.resume .poll o).1.control = .exitProgram 0 ret := by
      simp only [State.resume, leaving, Option.getD_some]
    have ended := step_bye control server (msgId bye)
    have last : (msgId bye).toNat = (s.resume .poll o).1.client.msgCounter := last
    rw [if_pos last] at ended
    exact ⟨_, .append (drive_others control server others) (.single ended), rfl, rfl, rfl,
      fun rests => by cases rests⟩

/-! ### Lines -/

/-- The ids of the requests among some effects. -/
def requestsIn (out : List (Effect UInt16)) : List UInt16 :=
  (numberedIn out).filterMap fun d =>
    if d.head? = some UDP_AUTH ∨ d.head? = some UDP_JOIN then some (msgId d) else none

/-- The client waits for the REPLY to this request, or for none. -/
structure Owed (c : UDPClient) (request : Option UInt16) : Prop where
  ids : c.replyIdVector = request.toList
  awaited : c.replyMsgSent = request.isSome

/-- **The outcome is the one of the turn.** -/
structure Plays (t : Turn) (o : Outcome) : Prop where
  dialogue : o.client.dialogue = t.dialogue
  sent : List.Forall₂ DatagramOf t.sent (numberedIn o.effects)
  concludes : Concludes o t.ended

/-- Printing before changes nothing. -/
theorem numberedIn_after (lines : List Output) (o : Outcome) :
    numberedIn (o.after (printed lines)).effects = numberedIn o.effects := by
  rw [Outcome.after_effects, numberedIn_append, numberedIn_printed, List.nil_append]

theorem Concludes.after {o : Outcome} {ended : Option ExitCode} (concludes : Concludes o ended)
    (lines : List Output) : Concludes (o.after (printed lines)) ended := by
  have same := numberedIn_after lines o
  cases concludes with
  | returns returned silent flag => exact .returns returned (same.trans silent) flag
  | waits m waiting sent id set => exact .waits m waiting (same.trans sent) id set
  | leaves earlier bye leaving sent others last =>
    exact .leaves earlier bye leaving (same.trans sent) others last

theorem Plays.after {t : Turn} {o : Outcome} (plays : Plays t o) (lines : List Output) :
    Plays t (o.after (printed lines)) where
  dialogue := plays.dialogue
  sent := by
    rw [numberedIn_after]
    exact plays.sent
  concludes := plays.concludes.after lines

/-- A turn in which nothing is sent and the program goes on. -/
theorem done_plays (c : UDPClient) {d : Dialogue} (same : c.dialogue = d)
    (quiet : c.confirmMsgSent = false) : Plays ⟨d, [], none⟩ (.done c) :=
  ⟨same, .nil, .returns rfl rfl quiet⟩

/-- A message of the user is a request by its type byte. -/
theorem request_code {name text : Str} {r : Request} (id : UInt16)
    (request : (command text).request name text = some r) :
    ((r.udp id).head? = some UDP_AUTH ∨ (r.udp id).head? = some UDP_JOIN) ↔
      isRequest (command text).type = true := by
  generalize command text = c at request
  cases c with
  | auth u s d =>
    cases request
    exact iff_of_true (Or.inl rfl) rfl
  | join channel =>
    cases request
    exact iff_of_true (Or.inr rfl) rfl
  | text =>
    cases request
    refine iff_of_false ?_ Bool.false_ne_true
    rintro (auth | join)
    · exact absurd (Option.some.inj auth) (by decide)
    · exact absurd (Option.some.inj join) (by decide)
  | _ => cases request

/-- What is admitted has a message, unless it is `Unsendable` in OPEN_STATE. -/
theorem exists_request {state : FsmState} {text : Str} (name : Str)
    (ready : (command text).ready = true) (admits : Admits state (command text).type = true)
    (sendable : ¬ (state = .openState ∧ Unsendable text)) :
    ∃ r, (command text).request name text = some r := by
  refine Option.ne_none_iff_exists'.mp fun none => ?_
  rw [Command.request_eq_none_iff name text ready, ← unsendable_iff] at none
  by_cases isOpen : state = .openState
  · exact sendable ⟨isOpen, none⟩
  · exact none.ready.2 (auth_of_admits admits isOpen)

/-- What is sent for a message of the user. -/
theorem sendUserMsg_sent (c : UDPClient) {m : UDPMessage} {id : UInt16} (numbered : Numbered m id)
    (request : Bool) (next : FsmState) :
    numberedIn (c.sendUserMsg m request next).effects = [m.udpBuffer] := by
  rw [sendUserMsg, Outcome.after_effects, numberedIn_append, numbered.sent]
  rfl

/-- A message that is sent. -/
theorem sendUserMsg_plays (c : UDPClient) {m : UDPMessage} {r : Request} {id : UInt16}
    (wire : m.udpBuffer = r.udp id) (number : m.messageId = id) (request : Bool) (next : FsmState) :
    Plays ⟨⟨next, request || c.replyMsgSent, c.dname⟩, [.request r], none⟩
      (c.sendUserMsg m request next) := by
  have numbered : Numbered m id := ⟨.request r, Outgoing.noConfusion, wire⟩
  have sent := sendUserMsg_sent c numbered request next
  refine ⟨rfl, ?_, .waits m rfl sent (numbered.msgId.trans number.symm) rfl⟩
  rw [sent]
  exact .cons ⟨.request r, id, rfl, wire⟩ .nil

/-- A request that is sent is owed a REPLY. -/
theorem sendUserMsg_owed {c : UDPClient} (owed : c.Owed none) {m : UDPMessage} {name text : Str}
    {r : Request} {id : UInt16} (spoken : (command text).request name text = some r)
    (wire : m.udpBuffer = r.udp id) (number : m.messageId = id) (next : FsmState) :
    (c.sendUserMsg m (isRequest (command text).type) next).client.Owed
      (requestsIn (c.sendUserMsg m (isRequest (command text).type) next).effects).getLast? := by
  have numbered : Numbered m id := ⟨.request r, Outgoing.noConfusion, wire⟩
  have id : msgId m.udpBuffer = m.messageId := numbered.msgId.trans number.symm
  have code := request_code (r := r) m.messageId spoken
  rw [number, ← wire] at code
  rw [requestsIn, sendUserMsg_sent c numbered]
  simp only [List.filterMap_cons, List.filterMap_nil, code, id]
  cases request : isRequest (command text).type with
  | true => exact ⟨congrArg (· ++ [m.messageId]) owed.ids, rfl⟩
  | false => exact ⟨owed.ids, owed.awaited⟩

/-- **A line of the user** is a turn, and a request is owed a REPLY. -/
theorem userLine_plays {c : UDPClient} (quiet : c.confirmMsgSent = false) (owed : c.Owed none)
    {text : Str} (sendable : ¬ (c.clientState = .openState ∧ Unsendable text)) :
    Plays (c.dialogue.line text) (c.userLine text) ∧
      (c.userLine text).client.Owed (requestsIn (c.userLine text).effects).getLast? := by
  have silent : ∀ {o : Outcome}, numberedIn o.effects = [] → o.client.Owed none →
      o.client.Owed (requestsIn o.effects).getLast? := by
    intro o silent owed
    rw [requestsIn, silent]
    exact owed
  by_cases typed : text = []
  · unfold userLine Dialogue.line
    rw [if_pos typed, if_pos typed]
    exact ⟨done_plays c rfl quiet, silent rfl owed⟩
  have type := (c.userMsg_describes text).type
  have kept : ∀ (counter : Nat) (lines more : List Output),
      Plays ⟨{ c.dialogue with name := (command text).name c.dname }, [], none⟩
        (Outcome.after (printed lines) (Outcome.after (printed more)
          (.done (c.named ((command text).name c.dname) counter)))) :=
    fun counter lines more =>
      ((done_plays (c.named ((command text).name c.dname) counter) rfl quiet).after more).after lines
  rw [userLine_eq c typed]
  cases ready : (command text).ready with
  | false =>
    rw [Dialogue.line_kept typed (Or.inl ready)]
    exact ⟨kept c.msgCounter _ [], silent (numberedIn_after _ _) ⟨owed.ids, owed.awaited⟩⟩
  | true =>
    rw [if_pos rfl, dispatch_eq, type ready]
    cases admits : Admits c.clientState (command text).type with
    | false =>
      rw [Dialogue.line_kept typed (Or.inr admits)]
      have refused : Admits (c.named ((command text).name c.dname) c.msgCounter).clientState
          (command text).type = false := admits
      rw [refused, if_neg Bool.false_ne_true]
      refine ⟨kept (c.msgCounter + 1) _ _, silent ?_ ⟨owed.ids, owed.awaited⟩⟩
      rw [numberedIn_after, numberedIn_after]
      rfl
    | true =>
      rw [Dialogue.line_admitted typed ready admits]
      have admitted : Admits (c.named ((command text).name c.dname) c.msgCounter).clientState
          (command text).type = true := admits
      rw [admitted, if_pos rfl]
      obtain ⟨r, request⟩ := exists_request c.dname ready admits sendable
      have wire : (c.userMsg text).1.udpBuffer = r.udp c.nextId :=
        (UDPMessage.udpBuffer_userCmd c.dname text c.nextId).trans (by rw [request]; rfl)
      have plays := sendUserMsg_plays (c.named ((command text).name c.dname) (c.msgCounter + 1)) wire
        (c.userMsg_messageId text) (isRequest (command text).type) c.clientState.sent
      have letters : ((command text).request c.dialogue.name text).toList.map Letter.request =
          [.request r] := by
        rw [show (command text).request c.dialogue.name text = some r from request]
        rfl
      rw [letters]
      refine ⟨plays.after _, ?_⟩
      have named : (c.named ((command text).name c.dname) (c.msgCounter + 1)).Owed none :=
        ⟨owed.ids, owed.awaited⟩
      rw [requestsIn, numberedIn_after]
      exact sendUserMsg_owed named request wire (c.userMsg_messageId text) c.clientState.sent

/-! ### Datagrams -/

/-- **What the client looks at** in the datagram of a message. A malformed one may look like a REPLY, a
MSG or an ERR. -/
inductive Looks (d : Str) : Incoming → Prop
  | reply : kind d = .reply → 8 ≤ d.length → Looks d (.reply (decide (d.getD 3 0 ≠ 0)))
  | msg : kind d = .msg → 7 ≤ d.length → Looks d .msg
  | err : kind d = .err → Looks d .err
  | bye : kind d = .bye → Looks d .bye
  | malformed : kind d ≠ .confirm → kind d ≠ .bye → Looks d .malformed

/-- A malformed datagram that the state takes for a message of its kind, or ignores. -/
def Mistaken (state : FsmState) (d : Str) : Prop :=
  kind d = .err ∨ (kind d = .msg ∧ state = .openState) ∨
    (kind d = .reply ∧ (state = .authState ∨ (state = .openState ∧ 8 ≤ d.length)))

/-- The messages that the client does not answer as the dialogue does: an ERR in START_STATE, which
is not rejected, a BYE in OPEN_STATE, which is a failure, and what is mistaken. -/
def Strays (state : FsmState) (m : Incoming) (d : Str) : Prop :=
  (m = .err ∧ state = .startState) ∨ (m = .bye ∧ state = .openState) ∨
    (m = .malformed ∧ Mistaken state d)

/-- The BYE that ends a turn has an id that the counter can be compared with. -/
def Confirmable (c : UDPClient) (t : Turn) : Prop :=
  t.ended ≠ none → c.msgCounter + t.sent.length ≤ 65536

/-- The BYE. -/
theorem exitProgram_plays {c : UDPClient} (bound : c.msgCounter < 65536) (id : UInt16)
    (ret : ExitCode) : Plays ⟨c.dialogue, [.bye], some ret⟩
      ((c.exitProgram true ret).after (c.sendMsg (confirmMsg id))) := by
  have numbered := c.byeMsg_numbered
  have sent : numberedIn ((c.exitProgram true ret).after (c.sendMsg (confirmMsg id))).effects =
      [c.byeMsg.udpBuffer] := by
    rw [Outcome.after_effects, numberedIn_append, numberedIn_confirm, List.nil_append]
    exact numbered.sent c
  refine ⟨rfl, ?_, .leaves [] c.byeMsg.udpBuffer rfl sent (by simp) ?_⟩
  · rw [sent]
    exact .cons ⟨.bye, c.nextId, rfl, rfl⟩ .nil
  · rw [numbered.msgId]
    exact nextId_toNat bound

/-- The ERR and the BYE; the id of the ERR is not the one that `exit_program` waits for. -/
theorem sendErrorExit_plays {c : UDPClient} (bound : c.msgCounter + 1 < 65536) (id : UInt16) :
    Plays c.dialogue.reject (c.sendErrorExit.after (c.sendMsg (confirmMsg id))) := by
  have err := c.errMsg_numbered
  have bye := c.erred.byeMsg_numbered
  have sent : numberedIn (c.sendErrorExit.after (c.sendMsg (confirmMsg id))).effects =
      [c.errMsg.udpBuffer] ++ [c.erred.byeMsg.udpBuffer] := by
    rw [Outcome.after_effects, numberedIn_append, numberedIn_confirm, List.nil_append]
    have effects : c.sendErrorExit.effects = c.erred.sendMsg c.errMsg ++
        c.erred.sendMsg c.erred.byeMsg := rfl
    rw [effects, numberedIn_append, err.sent, bye.sent]
  refine ⟨rfl, ?_, .leaves [c.errMsg.udpBuffer] c.erred.byeMsg.udpBuffer rfl sent ?_ ?_⟩
  · rw [sent]
    exact .cons ⟨.err c.dname _, c.nextId, rfl, rfl⟩ (.cons ⟨.bye, c.erred.nextId, rfl, rfl⟩ .nil)
  · intro d member
    rw [List.mem_singleton.mp member, err.msgId, nextId_toNat (by omega)]
    show c.msgCounter ≠ c.msgCounter + 1
    omega
  · rw [bye.msgId]
    exact nextId_toNat bound

/-- What the main loop answers itself, but for an ERR, is rejected. -/
theorem preHandle_rejects {c : UDPClient} {d : Str} (early : c.PreHandled d) (other : kind d ≠ .err) :
    ∃ (id : UInt16) (lines : List Output), c.preHandle (heard d) d.length =
      (c.sendErrorExit.after (c.sendMsg (confirmMsg id))).after (printed lines) := by
  have notErr : (heard d).type ≠ .err := by
    rw [heard_type]
    cases isKind : kind d <;> simp_all [Kind.type]
  unfold preHandle
  rw [if_neg notErr]
  simp only [sendConfirm_andThen]
  by_cases invalid : (heard d).type = .invalidMsg
  · rw [if_pos invalid]
    exact ⟨_, _, rfl⟩
  rw [if_neg invalid]
  by_cases start : c.clientState = .startState ∧ (heard d).type ≠ .toBeDecided
  · rw [if_pos start]
    exact ⟨_, [], rfl⟩
  rw [if_neg start]
  have decided : (heard d).type ≠ .toBeDecided := by
    rw [heard_type]
    cases kind d <;> exact MsgType.noConfusion
  rcases early.2 with err | isKind | begun | ⟨auth, bye | msg⟩
  · exact absurd err other
  · exact absurd (by rw [heard_type, isKind]; rfl) invalid
  · exact absurd ⟨begun, decided⟩ start
  · rw [if_pos ⟨auth, Or.inl (by rw [heard_type, bye]; rfl)⟩]
    exact ⟨_, [], rfl⟩
  · rw [if_pos ⟨auth, Or.inr (by rw [heard_type, msg]; rfl)⟩]
    exact ⟨_, [], rfl⟩

/-- What the main loop rejects. -/
theorem receive_rejects {c : UDPClient} {d : Str} (early : c.PreHandled d) (other : kind d ≠ .err)
    (bound : c.msgCounter + 1 < 65536) : Plays c.dialogue.reject (c.receiveInMain d) := by
  obtain ⟨id, lines, same⟩ := preHandle_rejects early other
  rw [receiveInMain_eq_preHandle early, same]
  exact ((sendErrorExit_plays bound id).after lines).after _

/-- A truncated REPLY in OPEN_STATE, which the handler rejects. -/
theorem receive_short_reply {c : UDPClient} {d : Str} (fresh : ¬ c.Seen d) (reply : kind d = .reply)
    (short : d.length < 8) (isOpen : c.clientState = .openState) (bound : c.msgCounter + 1 < 65536) :
    Plays c.dialogue.reject (c.receiveInMain d) := by
  have shared : ¬ c.PreHandled d := by
    rintro ⟨_, early⟩
    simp [reply, isOpen] at early
  rw [receiveInMain_eq_handled shared, handled_fresh fresh, isOpen, decode_reply_short reply short]
  simp only [handleOpenState, sendConfirm_andThen]
  exact ((sendErrorExit_plays bound _).after _).after _

/-- An ERR ends the session. -/
theorem receive_err {c : UDPClient} {d : Str} (fresh : ¬ c.Seen d) (err : kind d = .err)
    (bound : c.msgCounter < 65536) :
    Plays ⟨c.dialogue, [.bye], some .failure⟩ (c.receiveInMain d) := by
  rw [receiveInMain_eq_preHandle ⟨fresh, Or.inl err⟩, preHandle_err err]
  exact ((exitProgram_plays bound _ _).after _).after _

/-- **The REPLY that is owed** leads on, and nothing is owed then. -/
theorem receive_reply {c : UDPClient} {d : Str} (quiet : c.confirmMsgSent = false)
    (owed : c.Owed (some (replyRef d))) (fresh : ¬ c.Seen d) (reply : kind d = .reply)
    (long : 8 ≤ d.length) (begun : c.clientState ≠ .startState) :
    Plays (c.dialogue.hear (.reply (decide (d.getD 3 0 ≠ 0)))) (c.receiveInMain d) ∧
      (c.receiveInMain d).client.Owed none := by
  have answered : c.answered d = true := by
    simp [answered, owed.awaited, owed.ids, frontId]
  have silent : numberedIn (c.repliedEffects d) = [] := by
    rw [repliedEffects, numberedIn_append, numberedIn_confirm, List.append_nil]
    split
    · exact numberedIn_printed _
    · rfl
  have turn : c.dialogue.hear (.reply (decide (d.getD 3 0 ≠ 0))) =
      ⟨(c.replied d).dialogue, [], none⟩ := by
    have awaited : (c.replied d).replyMsgSent = false := by simp [replied, answered]
    have state : (c.replied d).clientState =
        if c.clientState = .authState ∧ replyType d = .replyNok then .authState else .openState :=
      if_pos answered
    rw [dialogue, dialogue, awaited, state]
    simp only [replyType_nok_iff]
    generalize decide (d.getD 3 0 ≠ 0) = ok
    cases before : c.clientState with
    | startState => exact absurd before begun
    | authState => cases ok <;> rfl
    | openState => rfl
  rw [(receiveInMain_handled c d).of_reply fresh reply long begun, turn]
  refine ⟨⟨rfl, ?_, .returns rfl silent quiet⟩, ?_, ?_⟩
  · rw [silent]
    exact .nil
  · simp [replied, answered, owed.ids]
  · simp [replied, answered]

/-- A MSG in OPEN_STATE changes nothing in the dialogue. -/
theorem receive_msg {c : UDPClient} {d : Str} (quiet : c.confirmMsgSent = false) (fresh : ¬ c.Seen d)
    (msg : kind d = .msg) (long : 7 ≤ d.length) (isOpen : c.clientState = .openState)
    {request : Option UInt16} (owed : c.Owed request) :
    Plays ⟨c.dialogue, [], none⟩ (c.receiveInMain d) ∧
      (c.receiveInMain d).client.Owed request := by
  rw [(receiveInMain_handled c d).of_msg fresh msg long isOpen]
  have silent : numberedIn (printed [.msg (senderOf d).1 (textOf d)] ++
      c.sendMsg (confirmMsg (msgId d))) = [] := rfl
  refine ⟨⟨rfl, ?_, .returns rfl silent quiet⟩, owed.ids, owed.awaited⟩
  rw [silent]
  exact .nil

/-- A message that is answered as the dialogue says. -/
structure Regular (c : UDPClient) (request : Option UInt16) (m : Incoming) (d : Str) : Prop where
  looks : Looks d m
  fresh : ¬ c.Seen d
  answers : ∀ ok, m = .reply ok → request = some (replyRef d)
  follows : ¬ Strays c.clientState m d
  confirmable : c.Confirmable (c.dialogue.hear m)

/-- The outcome is the one of the turn, and this request is owed a REPLY when the program goes on. -/
def Turns (t : Turn) (request : Option UInt16) (o : Outcome) : Prop :=
  Plays t o ∧ (t.ended = none → o.client.Owed request)

theorem Plays.turns {t : Turn} {o : Outcome} {ret : ExitCode} (plays : Plays t o)
    (leaves : t.ended = some ret) (request : Option UInt16) : Turns t request o := by
  refine ⟨plays, fun rests => ?_⟩
  rw [leaves] at rests
  cases rests

section Regular

variable {c : UDPClient} {request : Option UInt16} {m : Incoming} {d : Str}

/-- What the dialogue and the main loop both reject. -/
theorem Regular.rejects (regular : c.Regular request m d)
    (rejected : c.dialogue.hear m = c.dialogue.reject)
    (plays : c.msgCounter + 1 < 65536 → Plays c.dialogue.reject (c.receiveInMain d)) :
    Turns (c.dialogue.hear m) (m.owed request) (c.receiveInMain d) := by
  have confirmable := regular.confirmable
  rw [rejected] at confirmable ⊢
  have bound : c.msgCounter + 2 ≤ 65536 := confirmable (Option.some_ne_none _)
  exact (plays (by omega)).turns rfl _

/-- In START_STATE nothing but an ERR is not rejected. -/
theorem Regular.start (regular : c.Regular request m d) (start : c.clientState = .startState) :
    Turns (c.dialogue.hear m) (m.owed request) (c.receiveInMain d) := by
  have other : kind d ≠ .err := by
    intro isErr
    cases regular.looks with
    | reply reply => cases isErr.symm.trans reply
    | msg msg => cases isErr.symm.trans msg
    | err _ => exact regular.follows (Or.inl ⟨rfl, start⟩)
    | bye bye => cases isErr.symm.trans bye
    | malformed _ _ => exact regular.follows (Or.inr (Or.inr ⟨rfl, Or.inl isErr⟩))
  exact regular.rejects (Dialogue.hear_start start m)
    (receive_rejects ⟨regular.fresh, Or.inr (Or.inr (Or.inl start))⟩ other)

/-- The REPLY that is owed. -/
theorem Regular.reply (regular : c.Regular request (.reply (decide (d.getD 3 0 ≠ 0))) d)
    (quiet : c.confirmMsgSent = false) (owed : c.Owed request) (begun : c.clientState ≠ .startState)
    (reply : kind d = .reply) (long : 8 ≤ d.length) :
    Turns (c.dialogue.hear (.reply (decide (d.getD 3 0 ≠ 0)))) none (c.receiveInMain d) := by
  rw [regular.answers _ rfl] at owed
  obtain ⟨plays, settled⟩ := receive_reply quiet owed regular.fresh reply long begun
  exact ⟨plays, fun _ => settled⟩

/-- A MSG in OPEN_STATE. -/
theorem Regular.msg (regular : c.Regular request .msg d) (quiet : c.confirmMsgSent = false)
    (owed : c.Owed request) (isOpen : c.clientState = .openState) (msg : kind d = .msg)
    (long : 7 ≤ d.length) : Turns (c.dialogue.hear .msg) request (c.receiveInMain d) := by
  rw [Dialogue.hear_msg isOpen]
  obtain ⟨plays, kept⟩ := receive_msg quiet regular.fresh msg long isOpen owed
  exact ⟨plays, fun _ => kept⟩

/-- An ERR behind START_STATE. -/
theorem Regular.err (regular : c.Regular request .err d) (begun : c.clientState ≠ .startState)
    (err : kind d = .err) : Turns (c.dialogue.hear .err) request (c.receiveInMain d) := by
  have confirmable := regular.confirmable
  rw [Dialogue.hear_err begun] at confirmable ⊢
  have bound : c.msgCounter + 1 ≤ 65536 := confirmable (Option.some_ne_none _)
  exact (receive_err regular.fresh err bound).turns rfl _

/-- A MSG or a BYE before the session is open. -/
theorem Regular.early (regular : c.Regular request m d) (auth : c.clientState = .authState)
    (chat : m = .msg ∨ m = .bye) (isKind : kind d = .bye ∨ kind d = .msg) :
    Turns (c.dialogue.hear m) (m.owed request) (c.receiveInMain d) := by
  refine regular.rejects (Dialogue.hear_auth auth chat)
    (receive_rejects ⟨regular.fresh, Or.inr (Or.inr (Or.inr ⟨auth, isKind⟩))⟩ ?_)
  rcases isKind with bye | msg
  · simp [bye]
  · simp [msg]

/-- **A malformed datagram** behind START_STATE, which is not mistaken. -/
theorem Regular.malformed (regular : c.Regular request .malformed d)
    (begun : c.clientState ≠ .startState) (notConfirm : kind d ≠ .confirm) (notBye : kind d ≠ .bye) :
    Turns (c.dialogue.hear .malformed) request (c.receiveInMain d) := by
  have clear : ¬ Mistaken c.clientState d := fun mistaken =>
    regular.follows (Or.inr (Or.inr ⟨rfl, mistaken⟩))
  refine regular.rejects (Dialogue.hear_malformed c.dialogue) ?_
  cases isKind : kind d with
  | confirm => exact absurd isKind notConfirm
  | bye => exact absurd isKind notBye
  | err => exact absurd (Or.inl isKind) clear
  | invalid => exact receive_rejects ⟨regular.fresh, Or.inr (Or.inl isKind)⟩ (by simp [isKind])
  | msg =>
    cases state : c.clientState with
    | startState => exact absurd state begun
    | authState =>
      exact receive_rejects ⟨regular.fresh, Or.inr (Or.inr (Or.inr ⟨state, Or.inr isKind⟩))⟩
        (by simp [isKind])
    | openState => exact absurd (Or.inr (Or.inl ⟨isKind, state⟩)) clear
  | reply =>
    cases state : c.clientState with
    | startState => exact absurd state begun
    | authState => exact absurd (Or.inr (Or.inr ⟨isKind, Or.inl state⟩)) clear
    | openState =>
      have short : d.length < 8 := by
        by_contra long
        exact clear (Or.inr (Or.inr ⟨isKind, Or.inr ⟨state, by omega⟩⟩))
      exact receive_short_reply regular.fresh isKind short state

/-- **A message of the server** that does not stray is a turn. -/
theorem Regular.turns (regular : c.Regular request m d) (quiet : c.confirmMsgSent = false)
    (owed : c.Owed request) : Turns (c.dialogue.hear m) (m.owed request) (c.receiveInMain d) := by
  by_cases start : c.clientState = .startState
  · exact regular.start start
  cases regular.looks with
  | reply reply long => exact regular.reply quiet owed start reply long
  | err err => exact regular.err start err
  | malformed notConfirm notBye => exact regular.malformed start notConfirm notBye
  | msg msg long =>
    cases state : c.clientState with
    | startState => exact absurd state start
    | authState => exact regular.early state (Or.inl rfl) (Or.inr msg)
    | openState => exact regular.msg quiet owed state msg long
  | bye bye =>
    cases state : c.clientState with
    | startState => exact absurd state start
    | authState => exact regular.early state (Or.inr rfl) (Or.inl bye)
    | openState => exact absurd (Or.inr (Or.inl ⟨rfl, state⟩)) regular.follows

end Regular

/-! ### The machine -/

/-- The line is offered: `poll` reports stdin, unless `std::getline` is waiting for it. -/
def lineEvents (s : State) (text : Str) : List Event :=
  match s.control with
  | .poll => if pollCount s.client = 2 then [stdinReady, .getline (some text)] else []
  | .getline => [.getline (some text)]
  | _ => []

/-- The message comes: `poll` reports the socket, and then the datagram is received. -/
def messageEvents (s : State) (stdin : Revents) (sender : UInt16) (datagram : Str) : List Event :=
  match s.control with
  | .poll => [.poll (.ready ⟨true, false⟩ stdin), heardFrom sender datagram]
  | _ => []

/-- **The machine and the channel**: what is sent is confirmed at once. -/
def exchange (port server : UInt16) (s : State) (events : List Event) :
    Option (State × List (Effect UInt16)) :=
  match (machine port).driven s events with
  | none => none
  | some (s', out) => ((machine port).driven s' (confirmations server out)).map fun answer =>
      (answer.1, out ++ answer.2)

/-- **The machine has made the turn** and waits for the next one, if there is one. -/
structure Made (t : Turn) (request : Option UInt16) (s : State) (out : List (Effect UInt16)) :
    Prop where
  dialogue : s.client.dialogue = t.dialogue
  sent : List.Forall₂ DatagramOf t.sent (numberedIn out)
  ended : s.control.ended = t.ended
  rests : t.ended = none →
    s.control = .poll ∧ s.client.confirmMsgSent = false ∧ s.client.Owed request

/-- **The events of a turn and the CONFIRMs**, from an outcome that is the one of the turn. -/
theorem Turns.exchanged {port : UInt16} {t : Turn} {request : Option UInt16} {o : Outcome}
    (turns : Turns t request o) (server : UInt16) {s s₁ : State} {events : List Event}
    (driven : Drive (machine port) s events (s₁.resume .poll o).1 o.effects) :
    ∃ s', exchange port server s events = some (s', o.effects) ∧ Made t request s' o.effects := by
  obtain ⟨plays, owed⟩ := turns
  obtain ⟨s', confirmed, settled⟩ := plays.concludes.confirmed s₁ port server
  have awaited : s'.client.replyMsgSent = o.client.replyMsgSent :=
    congrArg Dialogue.awaited settled.dialogue
  refine ⟨s', ?_, settled.dialogue.trans plays.dialogue, plays.sent, ?_, fun rests => ?_⟩
  · simp only [exchange, driven.driven, confirmed.driven, Option.map_some, List.append_nil]
  · rw [settled.control]
    cases t.ended with
    | none => rfl
    | some ret => rfl
  · refine ⟨?_, settled.confirmed rests, ?_, ?_⟩
    · rw [settled.control, rests]
      rfl
    · rw [settled.replies]
      exact (owed rests).ids
    · rw [awaited]
      exact (owed rests).awaited

/-- **The machine makes a line**, offered while stdin is polled. -/
theorem line_made (port : UInt16) {s : State} (polls : s.control = .poll)
    (quiet : s.client.confirmMsgSent = false) (owed : s.client.Owed none) (server : UInt16)
    {text : Str} (sendable : ¬ (s.client.clientState = .openState ∧ Unsendable text)) :
    ∃ s' out, exchange port server s (lineEvents s text) = some (s', out) ∧
      Made (s.client.dialogue.line text) (requestsIn out).getLast? s' out := by
  obtain ⟨plays, owed'⟩ := userLine_plays quiet owed sendable
  obtain ⟨client, nfds, revents, control⟩ := s
  obtain rfl : control = .poll := polls
  have count : pollCount client = 2 := by
    have idle : client.replyMsgSent = false := owed.awaited
    have quiet : client.confirmMsgSent = false := quiet
    rw [pollCount, idle, quiet]
    rfl
  have events : lineEvents ⟨client, nfds, revents, .poll⟩ text =
      [stdinReady, .getline (some text)] := if_pos count
  have polled : (machine port).step ⟨client, nfds, revents, .poll⟩ stdinReady =
      some (⟨client, 2, ⟨true, false⟩, .getline⟩, []) := by
    show some (pollStep _ _) = _
    simp only [pollStep, count]
    rfl
  have read : (machine port).step ⟨client, 2, ⟨true, false⟩, .getline⟩ (.getline (some text)) =
      some (State.resume ⟨client, 2, ⟨true, false⟩, .getline⟩ .poll (client.userLine text)) := rfl
  rw [events]
  obtain ⟨s', exchanged, made⟩ := Turns.exchanged ⟨plays, fun _ => owed'⟩ server
    (.more polled (.single read))
  exact ⟨s', _, exchanged, made⟩

/-- **The machine makes a message** that comes while it polls. -/
theorem message_made (port : UInt16) {s : State} (polls : s.control = .poll)
    (quiet : s.client.confirmMsgSent = false) {request : Option UInt16} (owed : s.client.Owed request)
    (server : UInt16) {m : Incoming} {datagram : Str} (nonempty : datagram ≠ [])
    (regular : s.client.Regular request m (datagram.take BUFFER_SIZE)) (stdin : Revents)
    (sender : UInt16) :
    ∃ s' out, exchange port server s (messageEvents s stdin sender datagram) = some (s', out) ∧
      Made (s.client.dialogue.hear m) (m.owed request) s' out := by
  obtain ⟨client, nfds, revents, control⟩ := s
  obtain rfl : control = .poll := polls
  let s₁ : State := ⟨client, pollCount client, stdinRevents (pollCount client) stdin revents, .acceptMsg⟩
  have polled : (machine port).step ⟨client, nfds, revents, .poll⟩
      (.poll (.ready ⟨true, false⟩ stdin)) = some (s₁, []) := rfl
  have nonempty : 0 < (Received.datagram datagram sender (.other 0)).bytesRx := by
    have length := List.length_pos_of_ne_nil nonempty
    simp only [Received.bytesRx, List.length_take, BUFFER_SIZE]
    omega
  let o := UDPClient.receiveInMain { client with serverPort := sender } (datagram.take BUFFER_SIZE)
  have accepted : (machine port).step s₁ (heardFrom sender datagram) =
      some ((s₁.resume .poll o).1, o.effects) := step_accept (s := s₁) rfl nonempty
  have recorded : UDPClient.Regular { client with serverPort := sender } request m
      (datagram.take BUFFER_SIZE) :=
    ⟨regular.looks, regular.fresh, regular.answers, regular.follows, regular.confirmable⟩
  have turns := recorded.turns quiet ⟨owed.ids, owed.awaited⟩
  have driven := Drive.more polled (.single accepted)
  rw [List.nil_append] at driven
  obtain ⟨s', exchanged, made⟩ := turns.exchanged server driven
  exact ⟨s', _, exchanged, made⟩

end UDPClient

end Ipk24Chat
