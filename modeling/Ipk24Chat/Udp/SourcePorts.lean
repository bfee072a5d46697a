/-
**Source ports and the configured port only direct.**

`accept_msg` records where a datagram comes from and nothing looks at it but the switch of the server port.
Two clients that are configured with different ports, and hear the same datagrams from different ports, say
the same to different destinations. `fds` is not initialised, and the first `poll` writes it.

* `ports_only_direct`: what is sent, printed and done does not depend on any port.
-/

import Ipk24Chat.Udp.Duplicates

namespace Ipk24Chat

namespace UDPClient

open Reactive
open List (Forall₂)

/-! ### Without ports -/

/-- An event without the port a datagram comes from. -/
def Event.unported : Event → Event
  | .recvfrom (.datagram content _ errno) => .recvfrom (.datagram content 0 errno)
  | e => e

/-- An effect without its destination. -/
def undirected : Effect UInt16 → Effect Unit
  | .send datagram _ => .send datagram ()
  | .print line => .print line

/-- Any port may stand for any other. -/
def anywhere : Tolerance where
  port _ _ := True
  content := Eq
  content_refl _ := rfl

theorem eventAlike_of_unported {e e' : Event} (same : e.unported = e'.unported) :
    EventAlike anywhere e e' := by
  rcases e with result | (⟨content, port, errno⟩ | errno) | line | _ <;>
    rcases e' with result' | (⟨content', port', errno'⟩ | errno') | line' | _ <;> cases same
  · exact .same (by simp)
  · exact .datagram trivial
  · exact .failed
  · exact .same (by simp)
  · exact .same (by simp)

theorem EffectAlike.undirected {effect effect' : Effect UInt16}
    (alike : EffectAlike anywhere effect effect') :
    UDPClient.undirected effect' = UDPClient.undirected effect := by
  cases alike with
  | print => rfl
  | send content _ => exact congrArg (Effect.send · ()) (Eq.symm content)

/-! ### Runs -/

/-- The clients are the same but for their ports, and have or have not exited alike. -/
structure SameButPorts (s t : State) : Prop where
  client : t.client = s.client.redirect t.client.aiPort t.client.serverPort
  exited : ∀ ret, s.control = .exited ret ↔ t.control = .exited ret

theorem StateAlike.sameButPorts {τ : Tolerance} {s t : State} (alike : StateAlike τ s t) :
    SameButPorts s t := by
  obtain ⟨client, control, _⟩ := alike
  refine ⟨?_, control.exited_iff⟩
  generalize s.client = c at client
  generalize t.client = c' at client
  cases client with
  | redirected => rfl

/-- **Ports only direct**: on events that differ in source ports alone, clients with any configured ports
and anything in the descriptors send the same datagrams and print the same lines, in the same order, and
come to the same session. -/
theorem ports_only_direct {port port' limit : UInt16} {revents : Revents} (revents' : Revents)
    {events events' : List Event} {s : State} {outs : List (Effect UInt16)}
    (driven : Drive (machine port) (start port limit revents) events s outs)
    (same : events.map Event.unported = events'.map Event.unported) :
    ∃ t outs', Drive (machine port') (start port' limit revents') events' t outs' ∧
      outs'.map undirected = outs.map undirected ∧ SameButPorts s t := by
  have started : StateAlike anywhere (start port limit revents) (start port' limit revents') :=
    ⟨.redirected port' 65535 trivial fun _ => trivial, .same .poll, Or.inr (Or.inl ⟨rfl, rfl⟩)⟩
  have alike : Forall₂ (EventAlike anywhere) events events' := by
    rw [← List.forall₂_eq_eq_eq, List.forall₂_map_left_iff, List.forall₂_map_right_iff] at same
    exact same.imp fun _ _ => eventAlike_of_unported
  obtain ⟨t, outs', driven', alike', effects⟩ := (coupled anywhere port port').drive driven started alike
  refine ⟨t, outs', driven', ?_, alike'.sameButPorts⟩
  rw [← List.forall₂_eq_eq_eq, List.forall₂_map_left_iff, List.forall₂_map_right_iff]
  exact effects.flip.imp fun _ _ => EffectAlike.undirected

/-- The sign-in with both datagrams from port 9, and a client configured for port 1. -/
theorem ports_only_direct_signIn : ∃ t outs, Drive (machine 1) (start 1 3 ⟨true, true⟩)
    (typed "/auth u s d" ++ [heardFrom 9 (confirmDatagram 0), socketReady,
      heardFrom 9 (replyDatagram 0 1 0)]) t outs ∧
    outs.map undirected = [.send (Request.udp 0 (.auth (bytes "u") (bytes "d") (bytes "s"))) (),
      .print (.message .cerr (bytes "Success: hi")), .send (confirmDatagram 0) ()] ∧
    SameButPorts ((machine 4567).reached booted signIn) t := by
  have driven : Drive (machine 4567) (start 4567 3 ⟨false, false⟩) signIn
      ((machine 4567).reached booted signIn) _ := .reached rfl
  have alike : signIn.map Event.unported = (typed "/auth u s d" ++ [heardFrom 9 (confirmDatagram 0),
      socketReady, heardFrom 9 (replyDatagram 0 1 0)]).map Event.unported := rfl
  obtain ⟨t, outs, driven', same, session⟩ := ports_only_direct ⟨true, true⟩ driven alike
  exact ⟨t, outs, driven', same.trans (by decide +kernel), session⟩

end UDPClient

end Ipk24Chat
