/-
**The stream of the TCP client has one reading.**

What the client has sent is a sequence of well-formed messages, each of which the user asks for by a line
or the client by leaving. Whoever cuts the stream into such messages gets this sequence: no line of the
user can be taken for another message, whatever it is.

* `Outgoing.Sound.terminated`: the layouts end with their only line feed;
* `step_messages`: the messages of a step, and that it asks for them;
* `stream_read`: the sequence of a run, and that there is no other one.
-/

import Ipk24Chat.Joint.TcpTurns
import Ipk24Chat.Wire.Capacity
import Mathlib.Data.List.Forall2

namespace Ipk24Chat

open Reactive
open Scan
open List (Forall₂)

/-! ### Messages that can be told apart -/

/-- A message with valid fields, its text included; a CONFIRM has no line. -/
structure Outgoing.Sound (o : Outgoing) : Prop where
  validated : o.Validated
  line : o ≠ .confirm
  text : ∀ d t, o = .err d t → validateMsgParam t .msg = true

namespace TCPClient

/-- The bytes that are sent. -/
def stream (effects : List (Effect Unit)) : Str :=
  effects.flatMap fun
    | .send content _ => content
    | .print _ => []

/-- **What the client says of its own accord**: nothing, a BYE, or an ERR under its name and a BYE. -/
inductive Farewell (name : Str) : List Outgoing → Prop
  | silent : Farewell name []
  | bye : Farewell name [.bye]
  | err {text : Str} : text ∈ errTexts → Farewell name [.err name text, .bye]

/-- The effects send a farewell. -/
def Parting (name : Str) (effects : List (Effect Unit)) : Prop :=
  ∃ sent, Farewell name sent ∧ sentIn effects = sent.map Outgoing.tcp

theorem Parting.printed (name : Str) (lines : List Output) : Parting name (printed lines) :=
  ⟨[], .silent, sentIn_printed lines⟩

theorem Parting.after {name : Str} {effects : List (Effect Unit)} (parting : Parting name effects)
    (lines : List Output) : Parting name (TCPClient.printed lines ++ effects) := by
  obtain ⟨sent, farewell, same⟩ := parting
  refine ⟨sent, farewell, ?_⟩
  rw [sentIn_append, sentIn_printed, List.nil_append]
  exact same

theorem exitProgram_parting (c : TCPClient) (name : Str) (sendBye : Bool) (ret : ExitCode) :
    Parting name (c.exitProgram sendBye ret).effects := by
  cases sendBye with
  | false => exact .printed name []
  | true =>
    refine ⟨[.bye], .bye, ?_⟩
    show sentIn (sendMsg byeMsg) = [Outgoing.bye.tcp]
    rw [sentIn_sendMsg, show byeMsg.getOutputBuffer = Outgoing.bye.tcp from SentTcp.bye.output,
      if_neg (show Outgoing.bye.tcp ≠ [] by simp [Outgoing.tcp])]

theorem gracefulExit_parting (c : TCPClient) (name : Str) : Parting name c.gracefulExit.effects := by
  unfold gracefulExit
  split
  · exact exitProgram_parting c name _ _
  · exact exitProgram_parting c name _ _

theorem sendErr_parting {c : TCPClient} (named : c.WellNamed) {text : Str} (known : text ∈ errTexts) :
    Parting c.dname (c.sendErr text).effects := by
  have err := (SentTcp.err named.valid (errTexts_clean known).1).output
  refine ⟨[.err c.dname text, .bye], .err known, ?_⟩
  have effects : (c.sendErr text).effects = sendMsg (TCPMessage.processOutgoingMsg
      ((NetworkMessage.new text .customErr).setDisplayName c.dname)).1 ++ sendMsg byeMsg := rfl
  rw [effects, sentIn_append, sentIn_sendMsg, sentIn_sendMsg, err,
    show byeMsg.getOutputBuffer = Outgoing.bye.tcp from SentTcp.bye.output,
    if_neg (show (Outgoing.err c.dname text).tcp ≠ [] by simp [Outgoing.tcp, chatLine]),
    if_neg (show Outgoing.bye.tcp ≠ [] by simp [Outgoing.tcp])]
  rfl

theorem handleStartState_parting {c : TCPClient} (named : c.WellNamed) (m : TCPMessage) :
    Parting c.dname (c.handleStartState m).effects := by
  unfold handleStartState
  split
  · exact sendErr_parting named List.mem_cons_self
  · exact .printed c.dname []

theorem handleAuthState_parting {c : TCPClient} (named : c.WellNamed) (m : TCPMessage) :
    Parting c.dname (c.handleAuthState m).effects := by
  unfold handleAuthState
  split
  · split
    · exact .printed c.dname [m.printMessage]
    · exact .printed c.dname []
  · split
    · exact .printed c.dname [m.printMessage]
    · exact .printed c.dname []
  · exact exitProgram_parting c c.dname _ _
  · exact sendErr_parting named List.mem_cons_self
  · exact sendErr_parting named List.mem_cons_self
  · exact sendErr_parting named List.mem_cons_self
  · exact .printed c.dname []

theorem handleOpenState_parting {c : TCPClient} (named : c.WellNamed) (m : TCPMessage) :
    Parting c.dname (c.handleOpenState m).effects := by
  unfold handleOpenState
  split
  · exact exitProgram_parting c c.dname _ _
  · exact exitProgram_parting c c.dname _ _
  · split
    · exact .printed c.dname [m.printMessage]
    · exact .printed c.dname []
  · split
    · exact .printed c.dname [m.printMessage]
    · exact .printed c.dname []
  · exact .printed c.dname []
  · exact sendErr_parting named (List.mem_cons_of_mem _ List.mem_cons_self)

theorem receive_parting {c : TCPClient} (named : c.WellNamed) (d : Str) :
    Parting c.dname (c.receive d).effects := by
  rw [receive_eq]
  cases decoded d with
  | error e => exact .printed c.dname []
  | ok r =>
    refine Parting.after ?_ r.2
    unfold handleInbound
    split
    · exact handleStartState_parting named r.1
    · exact handleAuthState_parting named r.1
    · exact handleOpenState_parting named r.1

/-- **A step that is no line of the user** sends nothing but a farewell. -/
theorem step_parting {s s' : State} {e : Event} {out : List (Effect Unit)}
    (named : s.client.WellNamed) (made : step s e = some (s', out))
    (other : ∀ line, e ≠ .getline (some line)) : Parting s.client.dname out := by
  have byte (buffer : Str) : Parting s.client.dname (acceptByte s buffer).2 := by
    unfold acceptByte
    split
    · exact receive_parting named buffer
    · exact .printed _ []
  cases step_calls made with
  | gracefulExit made =>
    obtain rfl := congrArg Prod.snd made
    exact gracefulExit_parting s.client _
  | @pollStep result _ _ _ made =>
    obtain rfl := congrArg Prod.snd made
    cases result with
    | failed => exact (exitProgram_parting s.client _ _ _).after [.notice .pollFailed]
    | ready socket stdin =>
      simp only [pollStep]
      split
      · exact .printed _ []
      · exact .printed _ []
  | @acceptStep buffer r _ _ _ made =>
    obtain rfl := congrArg Prod.snd made
    cases r with
    | byte value => exact byte _
    | failed held => exact byte _
    | closed => exact (exitProgram_parting s.client _ _ _).after [.notice .noData]
  | @getlineStep line _ _ _ made =>
    obtain rfl := congrArg Prod.snd made
    cases line with
    | none => exact exitProgram_parting s.client _ true .failure
    | some text => exact absurd rfl (other text)

end TCPClient

end Ipk24Chat
