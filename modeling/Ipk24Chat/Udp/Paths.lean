/-
**The two receive paths compared.**

A datagram received in the loop of `handle_timeout` goes to `fsm_logic_handler` at once; the main
loop records the source port and answers some datagrams itself before. `Agree` compares the two from
the same client: what is sent and where, every line printed, whether and how the program leaves, and
the client left behind, up to the recorded port.

`paths_agree_iff`: they agree exactly when the datagram does not meet `Diverges`. The main loop ends
the program for an invalid datagram, a BYE or a MSG in AUTH_STATE, the handler ignores the first two
and displays the third; an ERR in OPEN_STATE is decoded, and so printed, a second time by the
handler; and the first REPLY switches to the port that only the main loop records.
-/

import Ipk24Chat.Udp.AtMostOnce

namespace Ipk24Chat

namespace UDPClient

/-! ### Agreement -/

/-- The same outcome, up to the recorded port. -/
structure SameUpTo (port : UInt16) (main timeout : Outcome) : Prop where
  effects : main.effects = timeout.effects
  blocked : main.blocked = timeout.blocked
  client : main.client = { timeout.client with serverPort := port }

/-- A datagram from `port` has the same effect in the main loop and in the loop of
`handle_timeout`. -/
def Agree (c : UDPClient) (outgoingMsg : UDPMessage) (port : UInt16) (d : Str) : Prop :=
  SameUpTo port (UDPClient.receiveInMain { c with serverPort := port } d)
    (c.receiveInTimeout outgoingMsg d).2

/-- The datagrams that the main loop answers differently before the handler. -/
def Interferes (c : UDPClient) (d : Str) : Prop :=
  ¬ c.Seen d ∧ (c.clientState = .authState ∧ (kind d = .invalid ∨ kind d = .bye ∨ kind d = .msg) ∨
    c.clientState = .openState ∧ kind d = .err)

/-- The datagrams on which the paths differ. -/
def Diverges (c : UDPClient) (port : UInt16) (d : Str) : Prop :=
  c.Interferes d ∨ (c.Switching d ∧ c.serverPort ≠ port)

/-! ### The shared handler -/

theorem SameUpTo.after {port : UInt16} {main timeout : Outcome} (same : SameUpTo port main timeout)
    (effects : List (Effect UInt16)) : SameUpTo port (main.after effects) (timeout.after effects) :=
  ⟨by rw [Outcome.after_effects, Outcome.after_effects, same.effects], same.blocked, same.client⟩

theorem handleConfirm_sameUpTo (c : UDPClient) (port : UInt16) (m : UDPMessage) :
    SameUpTo port (UDPClient.handleConfirm { c with serverPort := port } m) (c.handleConfirm m) := by
  unfold handleConfirm
  split
  · exact ⟨rfl, rfl, rfl⟩
  · exact ⟨rfl, rfl, rfl⟩

/-- The recorded port only matters for the switch. -/
theorem handleReply_sameUpTo {c : UDPClient} {switchPort : Bool}
    (still : switchPort = true → c.replyMsgSent = true → c.changeServerPort = false)
    (port : UInt16) (m : UDPMessage) (next : FsmState) :
    SameUpTo port (UDPClient.handleReply { c with serverPort := port } m switchPort next)
      (c.handleReply m switchPort next) := by
  obtain ⟨⟨dname, state, awaited, counter⟩, aiPort, limit, recorded, flag, change, confirms, replies,
    seen⟩ := c
  unfold handleReply
  cases awaited with
  | false => exact ⟨rfl, rfl, rfl⟩
  | true =>
    by_cases front : frontId replies = m.refMessageId.toNat
    · cases switchPort with
      | false =>
        simp only [if_true, Bool.false_eq_true, if_false, if_pos front]
        exact ⟨rfl, rfl, rfl⟩
      | true =>
        obtain rfl : change = false := still rfl rfl
        simp only [if_true, switchServerPort, Bool.false_eq_true, if_false, if_pos front]
        exact ⟨rfl, rfl, rfl⟩
    · cases switchPort with
      | false =>
        simp only [if_true, Bool.false_eq_true, if_false, if_neg front]
        exact ⟨rfl, rfl, rfl⟩
      | true =>
        obtain rfl : change = false := still rfl rfl
        simp only [if_true, switchServerPort, Bool.false_eq_true, if_false, if_neg front]
        exact ⟨rfl, rfl, rfl⟩

theorem sendConfimExit_sameUpTo (c : UDPClient) (port : UInt16) (m : UDPMessage) (exit : Bool) :
    SameUpTo port (UDPClient.sendConfimExit { c with serverPort := port } m exit)
      (c.sendConfimExit m exit) := by
  unfold sendConfimExit
  simp only [sendConfirm_andThen]
  split
  · split
    · exact ⟨rfl, rfl, rfl⟩
    · exact ⟨rfl, rfl, rfl⟩
  · exact ⟨rfl, rfl, rfl⟩

theorem handleAuthState_sameUpTo {c : UDPClient} {m : UDPMessage}
    (still : m.type = .replyOk ∨ m.type = .replyNok → c.replyMsgSent = true →
      c.changeServerPort = false) (port : UInt16) :
    SameUpTo port (UDPClient.handleAuthState { c with serverPort := port } m)
      (c.handleAuthState m) := by
  unfold handleAuthState
  split
  · exact handleConfirm_sameUpTo c port m
  · rename_i ok
    exact handleReply_sameUpTo (fun _ => still (Or.inl ok)) port m .openState
  · rename_i nok
    exact handleReply_sameUpTo (fun _ => still (Or.inr nok)) port m .authState
  · exact sendConfimExit_sameUpTo c port m true
  · exact ⟨rfl, rfl, rfl⟩
  · exact ⟨rfl, rfl, rfl⟩

theorem handleOpenState_sameUpTo (c : UDPClient) (port : UInt16) (m : UDPMessage) (bytesRx : Nat) :
    SameUpTo port (UDPClient.handleOpenState { c with serverPort := port } m bytesRx)
      (c.handleOpenState m bytesRx) := by
  unfold handleOpenState
  split
  · exact ⟨rfl, rfl, rfl⟩
  · exact ⟨rfl, rfl, rfl⟩
  · exact handleConfirm_sameUpTo c port m
  · exact handleReply_sameUpTo (fun set => (by cases set)) port m .openState
  · exact handleReply_sameUpTo (fun set => (by cases set)) port m .openState
  · exact ⟨rfl, rfl, rfl⟩
  · exact ⟨rfl, rfl, rfl⟩

/-- A decoded REPLY that does not switch the port. -/
theorem still_of_not_switching {c : UDPClient} {d : Str} (fresh : ¬ c.Seen d)
    (auth : c.clientState = .authState) (other : ¬ c.Switching d)
    (reply : ((heard d).processInboundMsg d.length).1.type = .replyOk ∨
      ((heard d).processInboundMsg d.length).1.type = .replyNok) (awaited : c.replyMsgSent = true) :
    c.changeServerPort = false := by
  obtain ⟨isReply, long⟩ := reply_of_decoded reply
  by_contra change
  exact other ⟨by simpa using change, isReply, fresh, long, auth, awaited⟩

/-- **The handler from two clients that differ in the recorded port.** -/
theorem handled_sameUpTo {c : UDPClient} {d : Str} (other : ¬ c.Switching d) (port : UInt16) :
    SameUpTo port (UDPClient.handled { c with serverPort := port } d) (c.handled d) := by
  by_cases seen : c.Seen d
  · have seen' : UDPClient.Seen { c with serverPort := port } d := seen
    rw [handled_seen seen, handled_seen seen']
    exact ⟨rfl, rfl, rfl⟩
  · have fresh' : ¬ UDPClient.Seen { c with serverPort := port } d := seen
    rw [handled_fresh seen, handled_fresh fresh']
    refine SameUpTo.after ?_ _
    cases state : c.clientState with
    | startState => exact ⟨rfl, rfl, rfl⟩
    | authState =>
      exact handleAuthState_sameUpTo (still_of_not_switching seen state other) port
    | openState => exact handleOpenState_sameUpTo c port _ _

/-! ### What the main loop answers itself -/

/-- An ERR: it is printed, confirmed, and the program leaves. -/
theorem preHandle_err {c : UDPClient} {d : Str} (err : kind d = .err) :
    c.preHandle (heard d) d.length =
      ((c.exitProgram true .failure).after
        (c.sendMsg (confirmMsg (heard d).messageId))).after
        (printed ((heard d).processInboundMsg d.length).2) := by
  unfold preHandle
  rw [if_pos (by rw [heard_type, err]; rfl)]
  simp only [decoded_err err, sendConfirm_andThen]

/-- In AUTH_STATE the handler does the same with an ERR. -/
theorem handled_auth_err {c : UDPClient} {d : Str} (fresh : ¬ c.Seen d)
    (auth : c.clientState = .authState) (err : kind d = .err) :
    c.handled d = c.receiveInMain d := by
  have early : c.PreHandled d := ⟨fresh, Or.inl err⟩
  have type : (heard d).type = .err := by rw [heard_type, err]; rfl
  have handler : c.handleAuthState (heard d) = c.sendConfimExit (heard d) true := by
    unfold handleAuthState
    rw [type]
  have leaves : c.sendConfimExit (heard d) true =
      (c.exitProgram true .failure).after (c.sendMsg (confirmMsg (heard d).messageId)) := by
    unfold sendConfimExit
    rw [sendConfirm_andThen, if_pos rfl, if_neg (by rw [type]; decide)]
  rw [receiveInMain_eq_preHandle early, preHandle_err err, handled_fresh fresh, auth,
    decoded_err err]
  simp only [handler, leaves, Outcome.after_after, printed, List.map_append, List.append_assoc]

/-- In OPEN_STATE the handler does the same with an invalid datagram. -/
theorem handled_open_invalid {c : UDPClient} {d : Str} (fresh : ¬ c.Seen d)
    (isOpen : c.clientState = .openState) (invalid : kind d = .invalid) :
    c.handled d = c.receiveInMain d := by
  have early : c.PreHandled d := ⟨fresh, Or.inr (Or.inl invalid)⟩
  have type : (heard d).type = .invalidMsg := by rw [heard_type, invalid]; rfl
  have plain := decode_plain (d := d) (Or.inr (Or.inr invalid))
  have main : c.preHandle (heard d) d.length =
      (c.sendErrorExit.after (c.sendMsg (confirmMsg c.nextId))).after (printed []) := by
    unfold preHandle
    rw [if_neg (by rw [type]; decide), if_pos type, plain]
    rfl
  have handler : c.handleOpenState (heard d) d.length =
      (c.sendErrorExit.after (c.sendMsg (confirmMsg c.nextId))).after (printed []) := by
    unfold handleOpenState
    rw [type]
    simp only [plain]
    rfl
  rw [receiveInMain_eq_preHandle early, main, handled_fresh fresh, isOpen, plain]
  simp only [handler, List.append_nil]

/-- **Without interference the main loop does what the handler does.** -/
theorem receiveInMain_of_not_interferes {c : UDPClient} {d : Str}
    (begun : c.clientState ≠ .startState) (clear : ¬ c.Interferes d) :
    c.receiveInMain d = c.handled d := by
  by_cases early : c.PreHandled d
  · obtain ⟨fresh, cases⟩ := early
    cases state : c.clientState with
    | startState => exact absurd state begun
    | authState =>
      have err : kind d = .err := by
        rcases cases with err | invalid | start | ⟨_, bye | msg⟩
        · exact err
        · exact absurd ⟨fresh, Or.inl ⟨state, Or.inl invalid⟩⟩ clear
        · exact absurd start begun
        · exact absurd ⟨fresh, Or.inl ⟨state, Or.inr (Or.inl bye)⟩⟩ clear
        · exact absurd ⟨fresh, Or.inl ⟨state, Or.inr (Or.inr msg)⟩⟩ clear
      exact (handled_auth_err fresh state err).symm
    | openState =>
      have invalid : kind d = .invalid := by
        rcases cases with err | invalid | start | ⟨auth, _⟩
        · exact absurd ⟨fresh, Or.inr ⟨state, err⟩⟩ clear
        · exact invalid
        · exact absurd start begun
        · rw [state] at auth
          cases auth
      exact (handled_open_invalid fresh state invalid).symm
  · exact receiveInMain_eq_handled early

/-! ### The differences -/

/-- In AUTH_STATE the handler drops an invalid datagram and a BYE. -/
theorem handled_auth_returns {c : UDPClient} {d : Str} (fresh : ¬ c.Seen d)
    (auth : c.clientState = .authState) (ignored : kind d = .invalid ∨ kind d = .bye) :
    (c.handled d).blocked = none := by
  rw [handled_fresh fresh, auth]
  rcases ignored with invalid | bye
  · rw [decode_plain (Or.inr (Or.inr invalid))]
    simp only [handleAuthState, heard_type, invalid, Kind.type]
    rfl
  · rw [decode_plain (Or.inr (Or.inl bye))]
    simp only [handleAuthState, heard_type, bye, Kind.type]
    rfl

/-- What the main loop does with a MSG in AUTH_STATE prints nothing. -/
theorem receiveInMain_auth_msg {c : UDPClient} {d : Str} (fresh : ¬ c.Seen d)
    (auth : c.clientState = .authState) (msg : kind d = .msg) (line : Output) :
    Effect.print line ∉ (c.receiveInMain d).effects := by
  have early : c.PreHandled d := ⟨fresh, Or.inr (Or.inr (Or.inr ⟨auth, Or.inr msg⟩))⟩
  have type : (heard d).type = .msg := by rw [heard_type, msg]; rfl
  have main : c.preHandle (heard d) d.length =
      c.sendErrorExit.after (c.sendMsg (confirmMsg (heard d).messageId)) := by
    unfold preHandle
    rw [if_neg (by rw [type]; decide), if_neg (by rw [type]; decide), if_neg (by simp [auth]),
      if_pos ⟨auth, Or.inr type⟩]
    rfl
  rw [receiveInMain_eq_preHandle early, main]
  simp [classifiedNotices, msg, sendErrorExit, handleTimeout, exitProgram, sendMsg]

/-- The handler prints it. -/
theorem handled_auth_msg {c : UDPClient} {d : Str} (fresh : ¬ c.Seen d) (msg : kind d = .msg) :
    ∃ line, Effect.print line ∈ (c.handled d).effects := by
  obtain ⟨line, only⟩ := List.length_eq_one_iff.mp (decoded_chat_length (Or.inl msg))
  refine ⟨line, ?_⟩
  rw [handled_fresh fresh, Outcome.after_effects, only]
  exact List.mem_append_left _ (by simp [printed])

/-- The handler prints an ERR in OPEN_STATE twice. -/
theorem open_err_effects {c : UDPClient} {d : Str} (fresh : ¬ c.Seen d)
    (isOpen : c.clientState = .openState) (err : kind d = .err) :
    (c.receiveInMain d).effects.length = 3 ∧ (c.handled d).effects.length = 4 := by
  have early : c.PreHandled d := ⟨fresh, Or.inl err⟩
  have type : (heard d).type = .err := by rw [heard_type, err]; rfl
  have once := decoded_chat_length (d := d) (Or.inr err)
  constructor
  · rw [receiveInMain_eq_preHandle early, preHandle_err err]
    simp [classifiedNotices, err, printed, once, exitProgram, sendMsg]
  · have handler : c.handleOpenState (heard d) d.length =
        ((c.exitProgram true .failure).after (c.sendMsg (confirmMsg (heard d).messageId))).after
          (printed ((heard d).processInboundMsg d.length).2) := by
      unfold handleOpenState
      rw [type]
      simp only [decoded_err err, sendConfirm_andThen]
    rw [handled_fresh fresh, isOpen, decoded_err err]
    simp [handler, classifiedNotices, err, printed, once, exitProgram, sendMsg]

/-- **Under interference the paths differ.** -/
theorem paths_differ {c : UDPClient} {d : Str} (interferes : c.Interferes d) :
    (c.receiveInMain d).effects ≠ (c.handled d).effects ∨
      (c.receiveInMain d).blocked ≠ (c.handled d).blocked := by
  obtain ⟨fresh, ⟨auth, invalid | bye | msg⟩ | ⟨isOpen, err⟩⟩ := interferes
  · refine Or.inr ?_
    rw [handled_auth_returns fresh auth (Or.inl invalid)]
    exact (receiveInMain_leaving ⟨fresh, Or.inr (Or.inl invalid)⟩).blocked_ne
  · refine Or.inr ?_
    rw [handled_auth_returns fresh auth (Or.inr bye)]
    exact (receiveInMain_leaving
      ⟨fresh, Or.inr (Or.inr (Or.inr ⟨auth, Or.inl bye⟩))⟩).blocked_ne
  · refine Or.inl fun same => ?_
    obtain ⟨line, printed⟩ := handled_auth_msg fresh msg
    rw [← same] at printed
    exact receiveInMain_auth_msg fresh auth msg line printed
  · refine Or.inl fun same => ?_
    obtain ⟨once, twice⟩ := open_err_effects fresh isOpen err
    rw [same, twice] at once
    cases once

/-! ### The comparison -/

/-- The handler leaves the recorded port alone. -/
theorem Handled.serverPort {c : UDPClient} {d : Str} {o : Outcome} (handled : Handled c d o) :
    o.client.serverPort = c.serverPort := by
  cases handled with
  | leaving _ _ leaving =>
    exact leaving.preserves (P := fun c' => c'.serverPort = c.serverPort) rfl rfl
  | _ => rfl

/-- **The two receive paths agree** on a datagram exactly when it does not diverge. -/
theorem paths_agree_iff {c : UDPClient} {outgoingMsg : UDPMessage} {port : UInt16} {d : Str}
    (begun : c.clientState ≠ .startState) (other : ¬ c.Awaited outgoingMsg d) :
    Agree c outgoingMsg port d ↔ ¬ c.Diverges port d := by
  have timeout : (c.receiveInTimeout outgoingMsg d).2 = c.handled d := by
    rw [receiveInTimeout_eq, if_neg other]
  unfold Agree
  rw [timeout]
  constructor
  · rintro same (interferes | ⟨switching, differs⟩)
    · have notSwitching : ¬ c.Switching d := by
        rintro ⟨_, reply, _⟩
        rcases interferes.2 with ⟨_, kind | kind | kind⟩ | ⟨_, kind⟩ <;> simp [reply] at kind
      have shared := handled_sameUpTo notSwitching port
      have interferes' : UDPClient.Interferes { c with serverPort := port } d := interferes
      rcases paths_differ interferes' with effects | blocked
      · exact effects (same.effects.trans shared.effects.symm)
      · exact blocked (same.blocked.trans shared.blocked.symm)
    · have switching' : UDPClient.Switching { c with serverPort := port } d := switching
      obtain ⟨mainPort, _⟩ := (receiveInMain_handled _ d).switched switching'
      obtain ⟨timeoutPort, _⟩ := (handled_handled c d).switched switching
      rw [same.client] at mainPort
      exact differs (timeoutPort.symm.trans mainPort)
  · intro agree
    have clear : ¬ UDPClient.Interferes { c with serverPort := port } d :=
      fun interferes => agree (Or.inl interferes)
    have begun' : ({ c with serverPort := port } : UDPClient).clientState ≠ .startState := begun
    rw [receiveInMain_of_not_interferes begun' clear]
    by_cases recorded : c.serverPort = port
    · subst recorded
      refine ⟨rfl, rfl, ?_⟩
      show (c.handled d).client = { (c.handled d).client with serverPort := c.serverPort }
      rw [← (handled_handled c d).serverPort]
    · exact handled_sameUpTo (fun switching => agree (Or.inr ⟨switching, recorded⟩)) port

/-- `hi` from `bob`, in a MSG or an ERR with this id. -/
def hiFromBob (type : UInt8) (id : UInt16) : Str :=
  [type] ++ idBytes id ++ bytes "bob" ++ [0] ++ bytes "hi" ++ [0]

/-- A MSG in OPEN_STATE. -/
theorem paths_agree_msg : ∃ m, Entered 4567 sentMsg m ∧
    Agree sentMsg.client m 5000 (hiFromBob UDP_MSG 7) := by
  refine ⟨_, sentMsg_entered _ rfl, (paths_agree_iff (by decide +kernel) ?_).mpr ?_⟩
  · rintro ⟨_, confirm, _⟩
    exact absurd confirm (by decide)
  · rintro (⟨_, ⟨auth, _⟩ | ⟨_, err⟩⟩ | ⟨⟨_, reply, _⟩, _⟩)
    · exact absurd auth (by decide +kernel)
    · exact absurd err (by decide)
    · exact absurd reply (by decide)

/-- **An ERR in OPEN_STATE** is displayed once by the main loop and twice by `handle_timeout`. -/
theorem paths_differ_err : ∃ m, Entered 4567 sentMsg m ∧
    sentMsg.client.clientState = .openState ∧
    ¬ sentMsg.client.Awaited m (hiFromBob UDP_ERR 7) ∧
    (UDPClient.receiveInMain { sentMsg.client with serverPort := 5000 }
      (hiFromBob UDP_ERR 7)).effects.count (.print (.err (bytes "bob") (bytes "hi"))) = 1 ∧
    (sentMsg.client.receiveInTimeout m (hiFromBob UDP_ERR 7)).2.effects.count
      (.print (.err (bytes "bob") (bytes "hi"))) = 2 ∧
    ¬ Agree sentMsg.client m 5000 (hiFromBob UDP_ERR 7) := by
  have other : ∀ m, ¬ sentMsg.client.Awaited m (hiFromBob UDP_ERR 7) := by
    rintro m ⟨_, confirm, _⟩
    exact absurd confirm (by decide)
  have interferes : sentMsg.client.Interferes (hiFromBob UDP_ERR 7) :=
    ⟨by decide +kernel, Or.inr ⟨by decide +kernel, by decide⟩⟩
  refine ⟨_, sentMsg_entered _ rfl, rfl, other _, by decide +kernel, by decide +kernel, ?_⟩
  intro same
  rcases paths_differ interferes with effects | blocked
  · refine effects (same.effects.trans ?_)
    rw [receiveInTimeout_eq, if_neg (other _)]
  · refine blocked (same.blocked.trans ?_)
    rw [receiveInTimeout_eq, if_neg (other _)]

end UDPClient

end Ipk24Chat
