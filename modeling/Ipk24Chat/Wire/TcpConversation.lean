/-
**What the TCP client says.**

It takes leave with a BYE, behind an ERR when the server has said something unexpected, or without a word
when the connection is gone. One step extends what is `said` in a state. A process that `SIGPIPE` ends has
said what such a conversation begins with, so there may be no BYE behind the ERR. Every word of the
conversation is said in a run that begins in `booted`, passes `pending` and goes on in `chatting`.

* `conversations`: the language of the client is a regular one.
-/

import Ipk24Chat.Wire.Conversation
import Ipk24Chat.Wire.Stream

namespace Ipk24Chat

namespace TCPClient

open Reactive
open scoped Computability

/-- What is said by a client that leaves. -/
def farewell : Language Part := 1 + {[.bye]} + {[.err, .bye]}

/-- The part of a line by its first letter; an empty buffer puts nothing on the stream. -/
def partOf : Effect Unit → Option Part
  | .send content _ => Part.ofCode (codeOf content.head?)
  | .print _ => none

@[simp] theorem partOf_printed (lines : List Output) : (printed lines).filterMap partOf = [] := by
  simp [printed, partOf]

/-- The parts of the lines that are sent. -/
theorem partOf_sentIn (effects : List (Effect Unit)) :
    effects.filterMap partOf = (sentIn effects).filterMap fun line => Part.ofCode (codeOf line.head?) := by
  unfold sentIn
  rw [List.filterMap_filterMap]
  congr 1
  funext effect
  cases effect with
  | print line => rfl
  | send content target =>
    cases content with
    | nil => rfl
    | cons letter rest => rfl

/-- Lines that carry letters say their parts. -/
theorem partOf_letters {letters : List Letter} {effects : List (Effect Unit)}
    (sent : List.Forall₂ LineOf letters (sentIn effects)) :
    effects.filterMap partOf = letters.map Letter.part := by
  rw [partOf_sentIn]
  generalize sentIn effects = lines at sent
  induction sent with
  | nil => rfl
  | cons line _ ih =>
    obtain ⟨o, letter, rfl⟩ := line
    rw [List.filterMap_cons, codeOf_head, part_of_letter letter, ih]
    rfl

/-- The messages of a farewell. -/
theorem Parting.mem_farewell {name : Str} {effects : List (Effect Unit)}
    (parting : Parting name effects) : effects.filterMap partOf ∈ farewell := by
  obtain ⟨sent, said, same⟩ := parting
  rw [partOf_sentIn, same]
  cases said with
  | silent => exact Or.inl (Or.inl rfl)
  | bye => exact Or.inl (Or.inr rfl)
  | err _ => exact Or.inr rfl

/-- What the client has said. -/
def said (s : State) : Language Part :=
  if s.control.leaving then opening s.client.clientState * farewell
  else opening s.client.clientState

/-- Nothing is said, and the program goes on. -/
structure Listens (c : TCPClient) (o : Outcome) : Prop where
  silent : o.effects.filterMap partOf = []
  state : ∀ word ∈ opening c.clientState, word ∈ opening o.client.clientState
  stays : ∀ k, o.blocked = some k → k.leaving = false

/-- **A message of the server** ends the conversation, or nothing is said. -/
theorem Heard.leaving_or_listens {c : TCPClient} {d : Str} {o : Outcome} (heard : Heard c d o) :
    c.Leaving o ∨ c.Listens o := by
  cases heard with
  | thrown _ => exact Or.inl ⟨rfl, _, rfl, rfl⟩
  | leaving _ leaving => exact Or.inl leaving
  | authenticated _ _ auth _ =>
    refine Or.inr ⟨partOf_printed _, fun word said => ?_, fun k polls => (by cases polls; rfl)⟩
    rw [auth] at said
    show word ∈ opening (replied c _).clientState
    unfold replied
    split
    · exact said
    · exact opening_replied said
  | joined _ _ isOpen _ =>
    refine Or.inr ⟨partOf_printed _, fun word said => ?_, fun k falls => (by cases falls)⟩
    have other : ∀ m : TCPMessage, ¬ (c.clientState = .authState ∧ m.type = .replyNok) := by
      rintro m ⟨auth, _⟩
      rw [isOpen] at auth
      cases auth
    rw [isOpen] at said
    show word ∈ opening (replied c _).clientState
    rw [replied, if_neg (other _)]
    exact said
  | stray _ _ _ _ =>
    exact Or.inr ⟨partOf_printed _, fun word said => said, fun k falls => (by cases falls)⟩
  | msg _ _ _ =>
    exact Or.inr ⟨partOf_printed _, fun word said => said, fun k polls => (by cases polls; rfl)⟩

theorem pollStep_stays (s : State) (socket stdin : Revents) :
    (pollStep s (.ready socket stdin)).1.control.leaving = false := by
  simp only [pollStep]
  split
  · rfl
  · exact stdinBranch_stays _

theorem said_of_leaving {s : State} (leaves : s.control.leaving = true) {word : List Part}
    {effects : List (Effect Unit)} (before : word ∈ opening s.client.clientState)
    (parting : effects.filterMap partOf ∈ farewell) : word ++ effects.filterMap partOf ∈ said s := by
  unfold said
  rw [if_pos leaves]
  exact Language.append_mem_mul before parting

theorem said_of_staying {s : State} (stays : s.control.leaving = false) :
    said s = opening s.client.clientState := by
  unfold said
  rw [stays, if_neg Bool.false_ne_true]

/-- **One step** of the conversation. -/
theorem step_said {s s' : State} {e : Event} {out : List (Effect Unit)} {word : List Part}
    (reachable : Reachable machine s) (made : machine.step s e = some (s', out))
    (earlier : word ∈ said s) : word ++ out.filterMap partOf ∈ said s' := by
  have named := wellNamed_reachable reachable
  rw [said_of_staying (staying_of_step made)] at earlier
  by_cases types : ∃ text, e = .getline (some text)
  · obtain ⟨text, rfl⟩ := types
    obtain ⟨plays, polls⟩ := userLine_plays named text
    obtain ⟨rfl, rfl⟩ := step_getline made
    have stays : (s.resume .poll (s.client.userLine text)).1.control.leaving = false := by
      simp only [State.resume, polls, Option.getD_some]
      rfl
    have state : (s.client.userLine text).client.clientState =
        (s.client.dialogue.line text).dialogue.state := congrArg Dialogue.state plays.dialogue
    rw [said_of_staying stays, partOf_letters plays.sent]
    show _ ∈ opening (s.client.userLine text).client.clientState
    rw [state]
    exact s.client.dialogue.line_opening text earlier
  have parting := (step_parting named made fun line same => types ⟨line, same⟩).mem_farewell
  cases step_moves made with
  | @leave _ o back leaving =>
    refine said_of_leaving (leaving.resume s back) ?_ parting
    show word ∈ opening o.client.clientState
    rw [leaving.client]
    exact earlier
  | poll socket stdin _ =>
    rw [said_of_staying (pollStep_stays s socket stdin), pollStep_client, List.filterMap_nil,
      List.append_nil]
    exact earlier
  | byte buffer r value _ _ _ =>
    rw [said_of_staying rfl, List.filterMap_nil, List.append_nil]
    exact earlier
  | @message buffer r value o _ _ _ heard =>
    rcases heard.leaving_or_listens with leaving | listens
    · refine said_of_leaving (leaving.resume s s.stdinBranch) ?_ parting
      show word ∈ opening o.client.clientState
      rw [leaving.client]
      exact earlier
    · have stays : (s.resume s.stdinBranch o).1.control.leaving = false := by
        show (o.blocked.getD s.stdinBranch).leaving = false
        cases blocked : o.blocked with
        | none => exact stdinBranch_stays s
        | some k => exact listens.stays k blocked
      rw [said_of_staying stays, listens.silent, List.append_nil]
      exact listens.state word earlier
  | line text _ => exact absurd ⟨text, rfl⟩ types

/-- All that a TCP client may say while the server takes it. -/
def conversation : Language Part := (1 + opening .openState) * farewell

/-- **Nothing else** is said. -/
theorem spoken_bounded : spoken machine partOf ≤ conversation := by
  have openings (state : FsmState) : opening state ≤ 1 + opening .openState := by
    intro word said
    cases state with
    | startState => exact Or.inl said
    | authState => exact Or.inr (opening_replied said)
    | openState => exact Or.inr said
  refine spoken_le said ?_ (fun s e s' out word reachable made => step_said reachable made) ?_
  · rintro s ⟨revents, rfl⟩
    exact Language.nil_mem_one
  · intro s word earlier
    unfold said at earlier
    split at earlier
    · exact mul_le_mul_left (openings s.client.clientState) farewell earlier
    · have silent := Language.append_mem_mul (openings _ earlier)
        (show [] ∈ farewell from Or.inl (Or.inl rfl))
      rw [List.append_nil] at silent
      exact silent

/-! ### A process that SIGPIPE may end -/

/-- What is said on the way out by a process that may be killed: there may be no BYE behind the ERR. -/
def parting : Language Part := (1 + {[.err]}) * (1 + {[.bye]})

theorem farewell_le_parting : farewell ≤ parting := by
  have no (part : Part) : [] ∈ (1 + {[part]} : Language Part) := Or.inl rfl
  have one (part : Part) : [part] ∈ (1 + {[part]} : Language Part) := Or.inr rfl
  rintro word ((rfl | rfl) | rfl)
  · exact Language.append_mem_mul (no .err) (no .bye)
  · exact Language.append_mem_mul (no .err) (one .bye)
  · exact Language.append_mem_mul (one .err) (one .bye)

theorem one_le_parting : 1 ≤ parting :=
  calc (1 : Language Part) = 1 * 1 := (one_mul 1).symm
    _ ≤ parting := mul_le_mul' le_sup_left le_sup_left

theorem prefixes_optional (part : Part) :
    prefixes (1 + {[part]} : Language Part) ≤ 1 + {[part]} :=
  prefixes_add.trans (sup_le (prefixes_one.trans le_sup_left) (prefixes_singleton part))

theorem prefixes_parting : prefixes parting ≤ parting :=
  calc prefixes parting ≤ prefixes (1 + {[.err]}) + (1 + {[.err]}) * prefixes (1 + {[.bye]}) :=
        prefixes_mul
    _ ≤ (1 + {[.err]}) + parting :=
      add_le_add (prefixes_optional .err) (mul_le_mul' le_rfl (prefixes_optional .bye))
    _ ≤ parting := by
      refine sup_le ?_ le_rfl
      rw [parting, mul_add, mul_one]
      exact le_sup_left

/-- A conversation may break off anywhere. -/
theorem prefixes_opening : prefixes (1 + opening .openState) ≤ 1 + opening .openState := by
  have auths : prefixes ({[.auth]} * {[.auth]}∗) ≤ (1 + {[.auth]} * {[.auth]}∗ : Language Part) := by
    refine prefixes_mul.trans (sup_le ?_ ?_)
    · refine (prefixes_singleton _).trans (add_le_add le_rfl ?_)
      calc ({[.auth]} : Language Part) = {[.auth]} * 1 := (mul_one _).symm
        _ ≤ {[.auth]} * {[.auth]}∗ := mul_le_mul' le_rfl one_le_kstar
    · exact (mul_le_mul' le_rfl (prefixes_kstar_le (prefixes_singleton _))).trans le_sup_right
  have chats : prefixes (({[.join]} + {[.msg]})∗) ≤ (({[.join]} + {[.msg]})∗ : Language Part) := by
    refine prefixes_kstar_le (prefixes_add.trans (sup_le ?_ ?_))
    · exact (prefixes_singleton _).trans (add_le_add le_rfl le_sup_left)
    · exact (prefixes_singleton _).trans (add_le_add le_rfl le_sup_right)
  refine prefixes_add.trans (sup_le (prefixes_one.trans le_sup_left) ?_)
  refine prefixes_mul.trans (sup_le (auths.trans (add_le_add le_rfl ?_)) ?_)
  · calc ({[.auth]} * {[.auth]}∗ : Language Part) = {[.auth]} * {[.auth]}∗ * 1 := (mul_one _).symm
      _ ≤ opening .openState := mul_le_mul' le_rfl one_le_kstar
  · exact (mul_le_mul' le_rfl chats).trans le_sup_right

/-- **What the process says**: a word of the conversation, or what one begins with. -/
theorem process_bounded : spoken process partOf ≤ (1 + opening .openState) * parting :=
  calc spoken process partOf ≤ prefixes (spoken machine partOf) := spoken_mortal_le
    _ ≤ prefixes ((1 + opening .openState) * parting) :=
      prefixes_mono (spoken_bounded.trans (mul_le_mul' le_rfl farewell_le_parting))
    _ ≤ prefixes (1 + opening .openState) + (1 + opening .openState) * prefixes parting := prefixes_mul
    _ ≤ (1 + opening .openState) + (1 + opening .openState) * parting :=
      add_le_add prefixes_opening (mul_le_mul' le_rfl prefixes_parting)
    _ ≤ (1 + opening .openState) * parting := by
      refine sup_le ?_ le_rfl
      calc 1 + opening .openState = (1 + opening .openState) * 1 := (mul_one _).symm
        _ ≤ (1 + opening .openState) * parting := mul_le_mul' le_rfl one_le_parting

/-! ### Everything of it -/

/-- The client, while `poll` keeps its contract. -/
def kept : Machine State Event (Effect Unit) :=
  machine.restrict fun s e => pollCount s.client = 1 → e.socketSilent = false

/-- The client waits for the REPLY to its AUTH. -/
def pending : State := ⟨⟨⟨bytes "d", .authState, true, 0⟩⟩, 2, ⟨true, false⟩, .poll⟩

/-- The client waits for a line, the session being open. -/
def chatting : State := ⟨⟨⟨bytes "d", .openState, false, 0⟩⟩, 2, ⟨true, false⟩, .poll⟩

/-- AUTH is sent, and again after every negative REPLY. -/
theorem between_pending : {[.auth]} * {[.auth]}∗ ≤ between kept partOf booted pending := by
  have first : {[.auth]} ≤ between kept partOf booted pending :=
    singleton_le_between (typed "/auth u s d") (by decide +kernel)
  have again : {[.auth]} ≤ between kept partOf pending pending :=
    singleton_le_between (served "REPLY NOK IS no" ++ typed "/auth u s d")
      (by decide +kernel)
  exact (mul_le_mul' first (kstar_le_between again)).trans between_mul

/-- A JOIN that is answered leads back to the same state, behind a line that is empty. -/
theorem between_chatting :
    ({[.join]} + {[.msg]})∗ ≤ between kept partOf chatting chatting := by
  have join : {[.join]} ≤ between kept partOf chatting chatting :=
    singleton_le_between (typed "/join c" ++ served "REPLY OK IS hi" ++
      [.getline (some [])] ++ typed "") (by decide +kernel)
  have msg : {[.msg]} ≤ between kept partOf chatting chatting :=
    singleton_le_between (typed "hello") (by decide +kernel)
  exact kstar_le_between (sup_le join msg)

theorem between_open : opening .openState ≤ between kept partOf booted chatting := by
  have accepted : 1 ≤ between kept partOf pending chatting :=
    singleton_le_between (served "REPLY OK IS hi" ++ typed "") (by decide +kernel)
  calc opening .openState = {[.auth]} * {[.auth]}∗ * 1 * ({[.join]} + {[.msg]})∗ := by
        rw [mul_one]
        rfl
    _ ≤ between kept partOf booted pending * between kept partOf pending chatting *
        between kept partOf chatting chatting :=
      mul_le_mul' (mul_le_mul' between_pending accepted) between_chatting
    _ ≤ between kept partOf booted chatting := (mul_le_mul' between_mul le_rfl).trans between_mul

/-- A line that is no message, whose answer the process is killed by: at the ERR, or at the BYE. -/
def brokenOff (place : Nat) : List (Mortal Event) :=
  (served "HELLO").dropLast.map .lives ++ [.dies (.recv (.byte 10)) place]

/-- A conversation may end wherever stdin may end and the server may say something that is no message. -/
theorem ended_le_spoken {l : Language Part} {s : State} (reached : l ≤ between kept partOf booted s)
    (bye : ∃ s', {[.bye]} ≤ between kept partOf s s')
    (rejected : ∃ s', {[.err, .bye]} ≤ between kept partOf s s')
    (err : ∃ state, {[.err]} ≤ between (kept.mortal raisesSigpipe) partOf (some s) state) :
    l * parting ≤ spoken (kept.mortal raisesSigpipe) partOf := by
  have initial : (kept.mortal raisesSigpipe).init (some booted) := ⟨booted, booted_init, rfl⟩
  have behind {words : Language Part} {state : Option State}
      (follows : words ≤ between (kept.mortal raisesSigpipe) partOf (some s) state) :
      l * words ≤ spoken (kept.mortal raisesSigpipe) partOf :=
    ((mul_le_mul' (reached.trans between_le_mortal) follows).trans between_mul).trans
      (between_le_spoken initial)
  obtain ⟨s₁, bye⟩ := bye
  obtain ⟨s₂, rejected⟩ := rejected
  obtain ⟨state, err⟩ := err
  rintro _ ⟨word, inside, _, ⟨_, rfl | rfl, _, rfl | rfl, rfl⟩, rfl⟩
  · exact behind one_le_between (Language.append_mem_mul inside rfl)
  · exact behind (bye.trans between_le_mortal) (Language.append_mem_mul inside rfl)
  · exact behind err (Language.append_mem_mul inside rfl)
  · exact behind (rejected.trans between_le_mortal) (Language.append_mem_mul inside rfl)

/-- **Everything of it** is said. -/
theorem conversation_spoken :
    (1 + opening .openState) * parting ≤ spoken (kept.mortal raisesSigpipe) partOf := by
  rw [add_mul]
  refine sup_le ?_ ?_
  · exact ended_le_spoken (s := booted) one_le_between
      (singleton_le_between_last [stdinReady, .getline none] (by decide +kernel))
      (singleton_le_between_last (served "HELLO") (by decide +kernel))
      (singleton_le_between_last (brokenOff 2) (by decide +kernel))
  · exact ended_le_spoken between_open
      (singleton_le_between_last [stdinReady, .getline none] (by decide +kernel))
      (singleton_le_between_last (served "HELLO") (by decide +kernel))
      (singleton_le_between_last (brokenOff 2) (by decide +kernel))

/-- **The TCP client says the words of the conversation**, nothing else and, while `poll` keeps its contract,
all of them. It may be killed at every `send`, and then there is no BYE behind an ERR. -/
theorem conversations :
    spoken process partOf ≤ (1 + {[.auth]} * {[.auth]}∗ * ({[.join]} + {[.msg]})∗) *
      ((1 + {[.err]}) * (1 + {[.bye]})) ∧
    (1 + {[.auth]} * {[.auth]}∗ * ({[.join]} + {[.msg]})∗) * ((1 + {[.err]}) * (1 + {[.bye]})) ≤
      spoken (kept.mortal raisesSigpipe) partOf :=
  ⟨process_bounded, conversation_spoken⟩

end TCPClient

end Ipk24Chat
