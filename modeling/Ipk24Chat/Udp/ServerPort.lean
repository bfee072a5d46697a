/-
**The port the client sends to.**

Datagrams go to the configured port until the first REPLY is handled in AUTH_STATE; from then on they
are to go to the port it came from (`firstReply`, an observer of the run). The port is recorded in
`server_port` by `accept_msg` only, and the REPLY may as well be received in `handle_timeout`; the
switch then takes what was recorded last, or the `-1` of the constructor.

* `step_samePort` and `step_switched`: what one step sends and where, and when it switches;
* `port_iff`: a run keeps to the port of the first REPLY exactly when that REPLY is received by
  `accept_msg` or comes from the recorded port (`Steady`).
-/

import Ipk24Chat.Udp.Bookkeeping

namespace Ipk24Chat

namespace UDPClient

open Reactive

/-! ### The first REPLY -/

/-- A REPLY that is handled in AUTH_STATE while one is awaited. -/
def Redirects (c : UDPClient) (d : Str) : Prop :=
  kind d = .reply ∧ ¬ c.Seen d ∧ 8 ≤ d.length ∧ c.clientState = .authState ∧ c.replyMsgSent = true

instance (c : UDPClient) (d : Str) : Decidable (c.Redirects d) :=
  inferInstanceAs (Decidable (_ ∧ _ ∧ _ ∧ _ ∧ _))

/-- One of the two receive paths. -/
def Control.listens : Control → Bool
  | .acceptMsg | .handleTimeout _ _ => true
  | _ => false

/-- The source port of such a REPLY. -/
def replyFrom (t : Transition State Event (Effect UInt16)) : Option UInt16 :=
  match t.input with
  | .recvfrom r =>
    if t.before.control.listens = true ∧ t.before.client.Redirects r.buffer then some r.port else none
  | _ => none

def firstReplyNote (seen : Option UInt16) (t : Transition State Event (Effect UInt16)) :
    Option UInt16 :=
  seen.or (replyFrom t)

/-- The source port of the first REPLY handled in AUTH_STATE while one is awaited. -/
def firstReply (history : List (Transition State Event (Effect UInt16))) : Option UInt16 :=
  observe firstReplyNote none history

theorem replyFrom_eq {t : Transition State Event (Effect UInt16)} {q : UInt16}
    (found : replyFrom t = some q) :
    ∃ r, t.input = .recvfrom r ∧ t.before.control.listens = true ∧
      t.before.client.Redirects r.buffer ∧ r.port = q := by
  unfold replyFrom at found
  split at found
  · rename_i r input
    split at found
    · rename_i both
      exact ⟨r, input, both.1, both.2, Option.some.inj found⟩
    · cases found
  · cases found

theorem replyFrom_of_redirects {s s' : State} {r : Received} {out : List (Effect UInt16)}
    (listens : s.control.listens = true) (redirects : s.client.Redirects r.buffer) :
    replyFrom ⟨s, .recvfrom r, s', out⟩ = some r.port := if_pos ⟨listens, redirects⟩

theorem not_redirects_of_empty {c : UDPClient} {r : Received} (empty : r.bytesRx ≤ 0) :
    ¬ c.Redirects r.buffer := by
  rintro ⟨reply, _⟩
  rw [kind_of_bytesRx empty] at reply
  cases reply

/-! ### Where a step sends -/

/-- The first REPLY switches the port. -/
def Switching (c : UDPClient) (d : Str) : Prop := c.changeServerPort = true ∧ c.Redirects d

/-- The port and its switch are as before. -/
def SamePort (c c' : UDPClient) : Prop :=
  c'.aiPort = c.aiPort ∧ c'.changeServerPort = c.changeServerPort

theorem Leaving.samePort {c : UDPClient} {o : Outcome} (leaving : c.Leaving o) :
    c.SamePort o.client ∧ SentTo c.aiPort o.effects :=
  ⟨leaving.preserves (P := c.SamePort) ⟨rfl, rfl⟩ ⟨rfl, rfl⟩, leaving.sent⟩

theorem switches_of_switching {c : UDPClient} {d : Str} (switching : c.Switching d) :
    c.switches = true := by
  obtain ⟨change, _, _, _, auth, awaited⟩ := switching
  simp [switches, change, auth, awaited]

/-- A REPLY that does not switch. -/
theorem not_switches {c : UDPClient} {d : Str} (reply : kind d = .reply) (fresh : ¬ c.Seen d)
    (long : 8 ≤ d.length) (other : ¬ c.Switching d) : c.switches = false := by
  by_contra switches
  have all : c.replyMsgSent = true ∧ c.clientState = .authState ∧ c.changeServerPort = true := by
    simpa [UDPClient.switches, and_assoc] using switches
  exact other ⟨all.2.2, reply, fresh, long, all.2.1, all.1⟩

theorem repliedEffects_sentTo (c : UDPClient) (d : Str) :
    SentTo (c.replied d).aiPort (c.repliedEffects d) := by
  refine SentTo.append ?_ (.sendMsg (c.replied d) _)
  split
  · exact .printed _ _
  · exact fun _ _ member => by cases member

/-- **A datagram that does not switch** is answered to the port in use. -/
theorem Handled.samePort {c : UDPClient} {d : Str} {o : Outcome} (handled : Handled c d o)
    (other : ¬ c.Switching d) : c.SamePort o.client ∧ SentTo c.aiPort o.effects := by
  have silent : SentTo c.aiPort [] := fun _ _ member => by cases member
  cases handled with
  | leaving _ _ leaving => exact leaving.samePort
  | reply reply fresh long _ =>
    have still := not_switches reply fresh long other
    have same : (c.replied d).aiPort = c.aiPort := by simp [replied, still]
    refine ⟨⟨same, by simp [replied, still]⟩, ?_⟩
    rw [← same]
    exact repliedEffects_sentTo c d
  | msg => exact ⟨⟨rfl, rfl⟩, (SentTo.printed _ _).append (.sendMsg c _)⟩
  | dropped => exact ⟨⟨rfl, rfl⟩, (SentTo.printed _ _).append silent⟩
  | skipped => exact ⟨⟨rfl, rfl⟩, silent⟩
  | confirmed => exact ⟨⟨rfl, rfl⟩, silent⟩
  | unmatched => exact ⟨⟨rfl, rfl⟩, silent⟩

/-- **The first REPLY** is confirmed to the recorded port, which is the port in use from then on. -/
theorem Handled.switched {c : UDPClient} {d : Str} {o : Outcome} (handled : Handled c d o)
    (switching : c.Switching d) :
    o.client.aiPort = c.serverPort ∧ o.client.changeServerPort = false ∧
      SentTo c.serverPort o.effects ∧ ∃ datagram, Effect.send datagram c.serverPort ∈ o.effects := by
  have switches := switches_of_switching switching
  obtain ⟨_, reply, fresh, long, auth, _⟩ := switching
  cases handled with
  | skipped seen => exact absurd seen fresh
  | confirmed confirm => simp [reply] at confirm
  | unmatched confirm => simp [reply] at confirm
  | msg msg => simp [reply] at msg
  | dropped _ _ _ _ short =>
    have := short reply
    omega
  | leaving _ unexpected _ =>
    exact absurd (Or.inl ⟨by simp [auth], Or.inr ⟨reply, long⟩⟩) unexpected
  | reply =>
    have port : (c.replied d).aiPort = c.serverPort := by simp [replied, switches]
    refine ⟨port, by simp [replied, switches], ?_, (confirmMsg (msgId d)).udpBuffer, ?_⟩
    · rw [← port]
      exact repliedEffects_sentTo c d
    · rw [← port]
      exact List.mem_append_right _ (List.mem_singleton_self _)

/-- The port recorded when a datagram is handled. -/
def recordedPort (s : State) (q : UInt16) : UInt16 :=
  if s.control = .acceptMsg then q else s.client.serverPort

/-- **A step that does not handle the first REPLY** sends to the port in use. -/
theorem step_samePort {s s' : State} {e : Event} {out : List (Effect UInt16)}
    (made : step s e = some (s', out))
    (other : s.client.changeServerPort = true → replyFrom ⟨s, e, s', out⟩ = none) :
    s.client.SamePort s'.client ∧ SentTo s.client.aiPort out := by
  have silent : SentTo s.client.aiPort [] := fun _ _ member => by cases member
  have notSwitching : ∀ {r : Received}, e = .recvfrom r → s.control.listens = true →
      ¬ s.client.Switching r.buffer := by
    rintro r rfl listens ⟨change, redirects⟩
    have none := other change
    rw [replyFrom_of_redirects listens redirects] at none
    cases none
  cases step_moves made with
  | leave _ leaving => exact leaving.samePort
  | bye => exact ⟨⟨rfl, rfl⟩, .printed _ _⟩
  | poll socket stdin _ =>
    rw [pollStep_client]
    exact ⟨⟨rfl, rfl⟩, silent⟩
  | idle => exact ⟨⟨rfl, rfl⟩, .printed _ _⟩
  | giveUp => exact ⟨⟨rfl, rfl⟩, .printed _ _⟩
  | resend m => exact ⟨⟨rfl, rfl⟩, .sendMsg s.client m⟩
  | awaited => exact ⟨⟨rfl, rfl⟩, silent⟩
  | line text _ lined =>
    cases lined with
    | kept => exact ⟨⟨rfl, rfl⟩, (SentTo.printed _ _).append silent⟩
    | sent =>
      refine ⟨⟨rfl, rfl⟩, (SentTo.printed _ _).append ?_⟩
      exact (SentTo.sendMsg s.client _).append silent
  | accept r control _ handled =>
    exact handled.samePort (notSwitching rfl (by rw [control]; rfl))
  | receive m k r control _ _ handled =>
    exact handled.samePort (notSwitching rfl (by rw [control]; rfl))

/-- **The step that handles the first REPLY.** -/
theorem step_switched {s s' : State} {e : Event} {out : List (Effect UInt16)} {q : UInt16}
    (made : step s e = some (s', out)) (change : s.client.changeServerPort = true)
    (found : replyFrom ⟨s, e, s', out⟩ = some q) :
    s'.client.aiPort = recordedPort s q ∧ s'.client.changeServerPort = false ∧
      SentTo (recordedPort s q) out ∧ ∃ datagram, Effect.send datagram (recordedPort s q) ∈ out := by
  obtain ⟨r, rfl, listens, redirects, rfl⟩ := replyFrom_eq found
  cases step_moves made with
  | leave empty _ => exact absurd redirects (not_redirects_of_empty (empty r rfl))
  | idle _ _ empty => exact absurd redirects (not_redirects_of_empty empty)
  | resend _ _ _ _ empty => exact absurd redirects (not_redirects_of_empty empty)
  | giveUp _ _ _ _ empty => exact absurd redirects (not_redirects_of_empty empty)
  | bye _ _ _ _ _ control => simp [control, Control.listens] at listens
  | awaited _ _ _ _ _ awaited =>
    have both := awaited.2.1.symm.trans redirects.1
    cases both
  | accept _ control _ handled =>
    have switching : UDPClient.Switching { s.client with serverPort := r.port } r.buffer :=
      ⟨change, redirects⟩
    have recorded : recordedPort s r.port = r.port := if_pos control
    rw [recorded]
    exact handled.switched switching
  | receive m k _ control _ _ handled =>
    have recorded : recordedPort s r.port = s.client.serverPort := if_neg (by simp [control])
    rw [recorded]
    exact handled.switched ⟨change, redirects⟩

/-! ### Runs -/

/-- The first REPLY is received by `accept_msg` or comes from the recorded port. -/
def Steady (t : Transition State Event (Effect UInt16)) : Prop :=
  t.before.client.changeServerPort = true → ∀ q ∈ replyFrom t,
    t.before.control = .acceptMsg ∨ t.before.client.serverPort = q

instance (t : Transition State Event (Effect UInt16)) : Decidable (Steady t) :=
  @instDecidableForall _ _ inferInstance (Option.decidableForallMem (replyFrom t))

theorem recordedPort_of_steady {t : Transition State Event (Effect UInt16)} {q : UInt16}
    (steady : Steady t) (change : t.before.client.changeServerPort = true)
    (found : replyFrom t = some q) : recordedPort t.before q = q := by
  unfold recordedPort
  rcases steady change q found with accepts | recorded
  · exact if_pos accepts
  · rw [recorded]
    exact ite_self q

/-- The step sends to the port in use and nothing is observed. -/
def Stays (seen : Option UInt16) (t : Transition State Event (Effect UInt16)) : Prop :=
  firstReplyNote seen t = seen ∧ t.after.client.aiPort = t.before.client.aiPort ∧
    SentTo t.before.client.aiPort t.out

/-- The step handles the first REPLY, from port `q`. -/
def Switches (seen : Option UInt16) (t : Transition State Event (Effect UInt16)) (q : UInt16) :
    Prop :=
  replyFrom t = some q ∧ firstReplyNote seen t = some q ∧
    t.after.client.aiPort = recordedPort t.before q ∧ SentTo (recordedPort t.before q) t.out ∧
    ∃ datagram, Effect.send datagram (recordedPort t.before q) ∈ t.out

/-- **The two kinds of steps**: the switch is made by the first REPLY. -/
theorem step_stays_or_switches {seen : Option UInt16} {t : Transition State Event (Effect UInt16)}
    (made : step t.before t.input = some (t.after, t.out))
    (held : t.before.client.changeServerPort = seen.isNone) :
    t.after.client.changeServerPort = (firstReplyNote seen t).isNone ∧
      (Stays seen t ∨ (t.before.client.changeServerPort = true ∧ ∃ q, Switches seen t q)) := by
  cases found : replyFrom t with
  | none =>
    obtain ⟨⟨port, change⟩, sent⟩ := step_samePort made fun _ => found
    have note : firstReplyNote seen t = seen := by rw [firstReplyNote, found, Option.or_none]
    exact ⟨by rw [change, held, note], Or.inl ⟨note, port, sent⟩⟩
  | some q =>
    cases seen with
    | none =>
      obtain ⟨port, change, sent, confirmed⟩ := step_switched made held found
      have note : firstReplyNote none t = some q := by rw [firstReplyNote, found, Option.none_or]
      exact ⟨by rw [change, note]; rfl, Or.inr ⟨held, q, found, note, port, sent, confirmed⟩⟩
    | some first =>
      obtain ⟨⟨port, change⟩, sent⟩ := step_samePort made fun set => by
        rw [held] at set
        cases set
      exact ⟨by rw [change, held]; rfl, Or.inl ⟨rfl, port, sent⟩⟩

theorem changeServerPort_run {port : UInt16} {s : State}
    {history : List (Transition State Event (Effect UInt16))} (run : Run (machine port) history s) :
    s.client.changeServerPort = (firstReply history).isNone := by
  refine run.observed_invariant firstReplyNote none
    (fun seen s => s.client.changeServerPort = seen.isNone) ?_ ?_
  · rintro s ⟨limit, revents, rfl⟩
    rfl
  · intro seen s e s' out held made
    exact (step_stays_or_switches (t := ⟨s, e, s', out⟩) made held).1

/-- **The port in use after a steady run.** -/
theorem aiPort_run {port : UInt16} {s : State}
    {history : List (Transition State Event (Effect UInt16))} (run : Run (machine port) history s)
    (steady : ∀ t ∈ history, Steady t) :
    s.client.changeServerPort = (firstReply history).isNone ∧
      s.client.aiPort = (firstReply history).getD port := by
  refine run.observed_invariant_of Steady firstReplyNote none
    (fun seen s => s.client.changeServerPort = seen.isNone ∧ s.client.aiPort = seen.getD port)
    ?_ ?_ steady
  · rintro s ⟨limit, revents, rfl⟩
    exact ⟨rfl, rfl⟩
  · rintro seen s e s' out ⟨change, held⟩ made steady
    have kinds := step_stays_or_switches (t := ⟨s, e, s', out⟩) made change
    refine ⟨kinds.1, ?_⟩
    rcases kinds.2 with ⟨note, same, _⟩ | ⟨change, q, found, note, port, _⟩
    · rw [note]
      exact same.trans held
    · rw [note, Option.getD_some]
      exact port.trans (recordedPort_of_steady steady change found)

/-- Whatever is sent goes to the configured port before the first REPLY, and from then on to its
source port. -/
def KeepsPort (port : UInt16) (history : List (Transition State Event (Effect UInt16))) : Prop :=
  ∀ earlier t later, history = earlier ++ t :: later →
    SentTo ((firstReply (earlier ++ [t])).getD port) t.out

/-- **The port of the first REPLY**: whatever a run sends goes to the configured port before it and
to its source port from then on, exactly when the run is steady. -/
theorem port_iff {port : UInt16} {s : State}
    {history : List (Transition State Event (Effect UInt16))} (run : Run (machine port) history s) :
    KeepsPort port history ↔ ∀ t ∈ history, Steady t := by
  constructor
  · intro sent t member change q found
    obtain ⟨earlier, later, rfl⟩ := List.append_of_mem member
    obtain ⟨before, made, _⟩ := run.transition
    have goes := sent earlier t later rfl
    have none := changeServerPort_run before
    rw [change] at none
    obtain ⟨_, _, _, datagram, member⟩ := step_switched made change found
    have noted : firstReply (earlier ++ [t]) = some q := by
      rw [firstReply, observe_concat, firstReplyNote, found]
      have blank : firstReply earlier = Option.none := Option.isNone_iff_eq_none.mp none.symm
      rw [show observe firstReplyNote Option.none earlier = Option.none from blank, Option.none_or]
    rw [noted] at goes
    have recorded : recordedPort t.before q = q := goes datagram _ member
    by_cases accepts : t.before.control = .acceptMsg
    · exact Or.inl accepts
    · rw [recordedPort, if_neg accepts] at recorded
      exact Or.inr recorded
  · rintro steady earlier t later rfl
    obtain ⟨before, made, _⟩ := run.transition
    obtain ⟨change, held⟩ := aiPort_run before fun u member => steady u (List.mem_append_left _ member)
    have noted : firstReply (earlier ++ [t]) = firstReplyNote (firstReply earlier) t := by
      rw [firstReply, observe_concat]
      rfl
    rw [noted]
    rcases (step_stays_or_switches made change).2 with ⟨note, _, sent⟩ | ⟨change, q, found, note, _, sent, _⟩
    · rw [note, ← held]
      exact sent
    · have recorded := recordedPort_of_steady
        (steady t (List.mem_append_right _ List.mem_cons_self)) change found
      rw [note, Option.getD_some, ← recorded]
      exact sent

/-- A sign-in with the REPLY in the main loop, and a message: all later datagrams go to port 5000. -/
theorem port_signIn :
    KeepsPort 4567 (((machine 4567).trace booted (signIn ++ typed "hello")).getD []) := by
  refine (port_iff (.reached booted_init rfl)).mpr ?_
  decide +kernel

/-- AUTH is sent, and the REPLY to it overtakes its CONFIRM. -/
def overtaken : List Event := typed "/auth u s d" ++ [heardFrom 5000 (replyDatagram 0 1 0)]

/-- **The REPLY is received in `handle_timeout`**: its CONFIRM goes to port 65535. -/
theorem port_overtaken : ∃ earlier t,
    Run (machine 4567) (earlier ++ [t]) ((machine 4567).reached booted overtaken) ∧
    ((machine 4567).trace booted overtaken) = some (earlier ++ [t]) ∧
    firstReply (earlier ++ [t]) = some 5000 ∧ .send (confirmDatagram 0) 65535 ∈ t.out ∧
    ¬ KeepsPort 4567 (earlier ++ [t]) := by
  have confirmed : Effect.send (confirmDatagram 0) 65535 ∈
      printed [.message .cerr (bytes "Success: hi")] ++ [.send (confirmDatagram 0) 65535] := by
    decide
  have run : Run (machine 4567) (((machine 4567).trace booted overtaken).getD [])
      ((machine 4567).reached booted overtaken) := .reached booted_init rfl
  refine ⟨(((machine 4567).trace booted overtaken).getD []).take 2,
    ⟨(machine 4567).reached booted (typed "/auth u s d"), heardFrom 5000 (replyDatagram 0 1 0),
      (machine 4567).reached booted overtaken, _⟩, run, rfl, rfl, confirmed,
    fun keeps => ?_⟩
  have port : (65535 : UInt16) = 5000 := keeps _ _ [] rfl _ _ confirmed
  exact absurd port (by decide)

end UDPClient

end Ipk24Chat
