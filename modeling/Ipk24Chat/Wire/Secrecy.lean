/-
**The secret goes into the AUTH and nowhere else.**

Two users type the same lines, but for the secrets behind `/auth`. Whatever the server does meanwhile, the
two clients print the same, are in the same state and send the same, but for the secret field of the
AUTHs. A refused `/auth` is as silent about its secret as one that is sent.

* `TCPClient.tcp_secret_kept`: the TCP client, which keeps nothing of a message;
* `UDPClient.udp_secret_kept`: the UDP client, which holds the message to send it again.
-/

import Ipk24Chat.Udp.Duplicates
import Ipk24Chat.Wire.Unambiguous

namespace Ipk24Chat

open Reactive
open List (Forall₂)

/-! ### Lines and messages that differ in a secret -/

/-- Two `/auth` lines with different secrets, both of them well formed. -/
def Reworded (line line' : Str) : Prop :=
  ∃ u s s' d, command line = .auth u s d ∧ command line' = .auth u s' d

theorem Reworded.typed {line line' : Str} (reworded : Reworded line line') : line ≠ [] ∧ line' ≠ [] := by
  obtain ⟨u, s, s', d, auth, auth'⟩ := reworded
  constructor
  · rintro rfl
    cases auth
  · rintro rfl
    cases auth'

/-- The same output, up to the secret in a message; `Veiled` says when two messages are so. -/
inductive SameOutput {dest : Type} (Veiled : Str → Str → Prop) : Effect dest → Effect dest → Prop
  | send {d d' : Str} (target : dest) : Veiled d d' → SameOutput Veiled (.send d target) (.send d' target)
  | print (line : Output) : SameOutput Veiled (.print line) (.print line)

theorem SameOutput.refl {dest : Type} {Veiled : Str → Str → Prop} (same : ∀ d, Veiled d d)
    (outs : List (Effect dest)) : Forall₂ (SameOutput Veiled) outs outs := by
  induction outs with
  | nil => exact .nil
  | cons effect outs ih =>
    refine .cons ?_ ih
    cases effect with
    | send d target => exact .send target (same d)
    | print line => exact .print line

/-! ### The TCP client -/

namespace TCPClient

/-- Two lines of AUTH that differ in the secret, or the same line twice. -/
inductive Veiled : Str → Str → Prop
  | same (line : Str) : Veiled line line
  | auth (u d s s' : Str) : Veiled (Request.auth u d s).tcp (Request.auth u d s').tcp

/-- The events are the same, up to the secrets that are typed. -/
inductive Overheard : Event → Event → Prop
  | same (e : Event) : Overheard e e
  | line {line line' : Str} : Reworded line line' →
      Overheard (.getline (some line)) (.getline (some line'))

/-- **Two lines that differ in the secret** lead to the same client. -/
theorem userLine_reworded {c : TCPClient} (named : c.WellNamed) {line line' : Str}
    (reworded : Reworded line line') : ∃ c' effects effects',
      c.userLine line = toPoll c' effects ∧ c.userLine line' = toPoll c' effects' ∧
        Forall₂ (SameOutput Veiled) effects effects' := by
  obtain ⟨typed, typed'⟩ := reworded.typed
  obtain ⟨u, s, s', d, auth, auth'⟩ := reworded
  have handled {line : Str} (typed : line ≠ []) {s : Str} (auth : command line = .auth u s d) :
      c.userLine line = if Admits c.clientState .auth then
        toPoll ((c.named d).requested true c.clientState.sent) [.send (Request.auth u d s).tcp ()]
      else toPoll (c.named d) (printed (refusal c.clientState c.replyMsgSent)) := by
    have type : (c.userMsg line).1.type = .auth := by
      have built := (c.userMsg_describes line).type
      rw [auth] at built
      exact built rfl
    have wire : (c.userMsg line).1.getOutputBuffer = (Request.auth u d s).tcp := by
      have written := TCPMessage.output_userCmd (nul_not_mem named.valid) line
      rw [auth] at written
      exact written
    rw [userLine_eq c typed, auth]
    show Outcome.after _ ((c.named d).dispatch (c.userMsg line).1) = _
    have state : (c.named d).clientState = c.clientState := rfl
    rw [dispatch_eq, type, state, sendMsg, wire]
    split
    · rfl
    · rfl
  rw [handled typed auth, handled typed' auth']
  split
  · exact ⟨_, _, _, rfl, rfl, .cons (.send () (.auth u d s s')) .nil⟩
  · exact ⟨_, _, _, rfl, rfl, SameOutput.refl .same _⟩

/-- One step on events that differ in a secret: the state reached is the same. -/
theorem overheard_step {s s' t : State} {e e' : Event} {out : List (Effect Unit)}
    (same : s = t ∧ Reachable machine s) (overheard : Overheard e e')
    (made : machine.step s e = some (s', out)) :
    ∃ t' out', machine.step t e' = some (t', out') ∧ (s' = t' ∧ Reachable machine s') ∧
      Forall₂ (SameOutput Veiled) out out' := by
  obtain ⟨rfl, reachable⟩ := same
  have next := reachable.next made
  cases overheard with
  | same => exact ⟨s', out, made, ⟨rfl, next⟩, SameOutput.refl .same out⟩
  | line reworded =>
    rename_i line line'
    obtain ⟨c', effects, effects', first, second, veiled⟩ :=
      userLine_reworded (wellNamed_reachable reachable) reworded
    have reading : s.control = .getline := by
      cases step_calls made with
      | getlineStep reading _ => exact reading
    have answer : machine.step s (.getline (some line')) =
        some (getlineStep s (some line')) := by
      show step s (.getline (some line')) = _
      unfold step
      rw [reading]
    obtain ⟨rfl, rfl⟩ := step_getline made
    rw [first] at next ⊢
    refine ⟨_, effects', ?_, ⟨rfl, next⟩, veiled⟩
    rw [answer, getlineStep, second]
    rfl

/-- **The TCP client keeps the secret.** -/
theorem tcp_secret_kept {s s' : State} {events events' : List Event} {outs : List (Effect Unit)}
    (reachable : Reachable machine s) (driven : Drive machine s events s' outs)
    (overheard : Forall₂ Overheard events events') :
    ∃ outs', Drive machine s events' s' outs' ∧ Forall₂ (SameOutput Veiled) outs outs' := by
  have coupled : Coupling machine machine (fun s t => s = t ∧ Reachable machine s) Overheard
      (SameOutput Veiled) := ⟨overheard_step⟩
  obtain ⟨t, outs', driven', ⟨rfl, _⟩, veiled⟩ := coupled.drive driven ⟨rfl, reachable⟩ overheard
  exact ⟨outs', driven', veiled⟩

/-- A secret that is typed with another one in its place. -/
theorem tcp_secret_kept_signIn : ∃ outs, Drive machine booted
    (typed "/auth u other d" ++ served "REPLY OK IS hi") (machine.reached booted signIn) outs ∧
    Forall₂ (SameOutput Veiled) (((machine.trace booted signIn).getD []).flatMap Transition.out) outs := by
  have reworded : Reworded (bytes "/auth u s d") (bytes "/auth u other d") :=
    ⟨bytes "u", bytes "s", bytes "other", bytes "d", by decide +kernel, by decide +kernel⟩
  refine tcp_secret_kept (.start booted_init) (.reached rfl) ?_
  refine .cons (.same _) (.cons (.line reworded) ?_)
  exact List.forall₂_same.mpr fun e _ => .same e

end TCPClient

/-! ### The UDP client -/

namespace UDPClient

/-- Two datagrams of AUTH with the same id that differ in the secret, or the same datagram twice. -/
inductive Veiled : Str → Str → Prop
  | same (datagram : Str) : Veiled datagram datagram
  | auth (id : UInt16) (u d s s' : Str) :
      Veiled ((Request.auth u d s).udp id) ((Request.auth u d s').udp id)

/-- The events are the same, up to the secrets that are typed. -/
inductive Overheard : Event → Event → Prop
  | same (e : Event) : Overheard e e
  | line {line line' : Str} : Reworded line line' →
      Overheard (.getline (some line)) (.getline (some line'))

def secretly : Tolerance where
  port := Eq
  content := Veiled
  content_refl := .same

theorem lineAlike_of_reworded {line line' : Str} (reworded : Reworded line line') :
    LineAlike secretly line line' := by
  obtain ⟨typed, typed'⟩ := reworded.typed
  obtain ⟨u, s, s', d, auth, auth'⟩ := reworded
  refine ⟨iff_of_false typed typed', ?_, ?_, fun _ => ?_, ?_, fun _ id => ?_⟩
  · rw [auth, auth']
    rfl
  · rw [auth, auth']
    rfl
  · rw [auth, auth']
    rfl
  · rw [auth, auth']
    rfl
  · rw [auth, auth']
    exact .auth id u d s s'

theorem Overheard.alike {e e' : Event} (overheard : Overheard e e') : EventAlike secretly e e' := by
  cases overheard with
  | same => exact .refl (fun _ => rfl) e
  | line reworded => exact .line (lineAlike_of_reworded reworded)

theorem EffectAlike.sameOutput {effect effect' : Effect UInt16}
    (alike : EffectAlike secretly effect effect') : SameOutput Veiled effect effect' := by
  cases alike with
  | print line => exact .print line
  | send content port =>
    obtain rfl := port
    exact .send _ content

/-- **The UDP client keeps the secret**, although it sends the message again. -/
theorem udp_secret_kept {port : UInt16} {s s' : State} {events events' : List Event}
    {outs : List (Effect UInt16)} (driven : Drive (machine port) s events s' outs)
    (overheard : Forall₂ Overheard events events') :
    ∃ t outs', Drive (machine port) s events' t outs' ∧ Forall₂ (SameOutput Veiled) outs outs' ∧
      SameSession s' t := by
  obtain ⟨t, outs', driven', alike, effects⟩ := (coupled secretly port port).drive driven
    (.refl (fun _ => rfl) s) (overheard.imp fun _ _ => Overheard.alike)
  exact ⟨t, outs', driven', effects.imp fun _ _ => EffectAlike.sameOutput, alike.sameSession id⟩

/-- The AUTH is sent twice, with another secret. -/
theorem udp_secret_kept_resent : ∃ t outs, Drive (machine 4567) booted
    (typed "/auth u other d" ++ [.recvfrom (.failed .EAGAIN)]) t outs ∧
    Forall₂ (SameOutput Veiled) [.send (Request.udp 0 (.auth (bytes "u") (bytes "d") (bytes "s"))) 4567,
      .send (Request.udp 0 (.auth (bytes "u") (bytes "d") (bytes "s"))) 4567] outs ∧
    SameSession ((machine 4567).reached booted
      (typed "/auth u s d" ++ [.recvfrom (.failed .EAGAIN)])) t := by
  have reworded : Reworded (bytes "/auth u s d") (bytes "/auth u other d") :=
    ⟨bytes "u", bytes "s", bytes "other", bytes "d", by decide +kernel, by decide +kernel⟩
  refine udp_secret_kept (.reached rfl) ?_
  refine .cons (.same _) (.cons (.line reworded) ?_)
  exact .cons (.same _) .nil

end UDPClient

end Ipk24Chat
