/-
**The chat that is displayed is the chat that was received.**

The bytes that `accept_msg` counts in a run make up one stream, whatever happens between them. It has one
decomposition into messages and an unfinished rest, and the lines of the chat that the client displays are
those of the messages, in order. Neither the user nor the state of the session adds a line, drops one or
shows one twice. While no `recv` fails, the bytes counted are the bytes received.

* `parted_run`: the messages of a run are those of its stream;
* `countedIn_eq`: what is counted has been received;
* `step_chat`: what one step displays of the chat;
* `chatOf_line`: what is displayed of a `MSG` or `ERR` in any spelling.
-/

import Ipk24Chat.Stdin.UserInput
import Ipk24Chat.Tcp.Grammar
import Ipk24Chat.Tcp.ReceiveErrors

namespace Ipk24Chat

open Reactive Framing

namespace TCPClient

/-! ### What a message shows -/

/-- The lines of the chat in a message of the server. -/
def chatOf (d : Str) : List Output :=
  match decoded d with
  | .ok m => m.2.filter Output.isChat
  | .error _ => []

/-- **A `MSG` or `ERR`** in any spelling is displayed with its sender and its text, if there is no `is` in
the name. -/
theorem chatOf_line {type : MsgType} (k : Keywords type) (chat : Chat type) {name text : Str}
    (named : Field .dname name) (quiet : ¬ ContainsIs name) :
    chatOf (k.line name text) = [shown type name text] := by
  have absent : searchIs name = none := by
    rw [containsIs_iff, not_not] at quiet
    exact quiet
  unfold chatOf
  rw [k.decoded_line chat text named, TCPMessage.chatBranch, k.extract_of_none text absent]
  show [shown type name text].filter Output.isChat = _
  rcases chat with rfl | rfl
  · rfl
  · rfl

theorem chatOf_of_branch {m : TCPMessage} {d label : Str} {type : MsgType} {r : TCPMessage × List Output}
    (branch : m.replyBranch d type label = .ok r) : r.2.filter Output.isChat = [] := by
  obtain ⟨found, _, rfl⟩ := ok_of_map branch
  cases found <;> rfl

/-- A line that begins with another word has no chat in it. -/
theorem chatOf_of_other {d : Str} (msg : ¬ Spells (word d 0) (bytes "MSG"))
    (err : ¬ Spells (word d 0) (bytes "ERR")) : chatOf d = [] := by
  unfold chatOf
  cases result : decoded d with
  | error e => rfl
  | ok r =>
    show r.2.filter Output.isChat = []
    unfold decoded TCPMessage.processInboundMsg at result
    simp only [NetworkMessage.new, List.take_length, if_true] at result
    unfold Spells word at msg err
    split at result
    · cases result
      rfl
    split at result
    · cases result
      rfl
    split at result
    · exact chatOf_of_branch result
    split at result
    · exact chatOf_of_branch result
    split at result
    · rename_i first
      exact absurd first.2 err
    split at result
    · rename_i first
      exact absurd first.2 msg
    · cases result
      rfl

/-- **What a line of the server says** to the user: the chat in it. -/
inductive Shows : Str → List Output → Prop
  | chat {type : MsgType} (k : Keywords type) {name : Str} (text : Str) : Chat type →
      Field .dname name → ¬ ContainsIs name → Shows (k.line name text) [shown type name text]
  | other {line : Str} : ¬ Spells (word line 0) (bytes "MSG") → ¬ Spells (word line 0) (bytes "ERR") →
      Shows line []

theorem Shows.chatOf_eq {line : Str} {lines : List Output} (shows : Shows line lines) :
    chatOf line = lines := by
  cases shows with
  | chat k text chat named quiet => exact chatOf_line k chat named quiet
  | other msg err => exact chatOf_of_other msg err

/-! ### What a step shows -/

theorem completed_of_other {t : Transition State Event (Effect Unit)} (other : ∀ r, t.input ≠ .recv r) :
    completed t = none := by
  unfold completed
  split
  · rename_i r _ input
    exact absurd input (other r)
  · rfl

theorem chatIn_printMessage (m : TCPMessage) : chatIn (printed [m.printMessage]) = [] := by
  unfold printed
  rw [chatIn_printed, NetworkMessage.printMessage]
  split
  · rfl
  · rfl

theorem exitProgram_chat (c : TCPClient) (sendBye : Bool) (ret : ExitCode) :
    chatIn (c.exitProgram sendBye ret).effects = [] := by
  cases sendBye <;> rfl

theorem gracefulExit_chat (c : TCPClient) : chatIn c.gracefulExit.effects = [] := by
  unfold gracefulExit
  split
  · exact exitProgram_chat c _ _
  · exact exitProgram_chat c _ _

theorem sendErr_chat (c : TCPClient) (text : Str) : chatIn (c.sendErr text).effects = [] := rfl

theorem handleInbound_chat (c : TCPClient) (m : TCPMessage) :
    chatIn (c.handleInbound m).effects = [] := by
  unfold handleInbound
  split
  · unfold handleStartState
    split
    · exact sendErr_chat c _
    · rfl
  · unfold handleAuthState
    split
    · split
      · exact chatIn_printMessage m
      · rfl
    · split
      · exact chatIn_printMessage m
      · rfl
    · exact exitProgram_chat c _ _
    · exact sendErr_chat c _
    · exact sendErr_chat c _
    · exact sendErr_chat c _
    · rfl
  · unfold handleOpenState
    split
    · exact exitProgram_chat c _ _
    · exact exitProgram_chat c _ _
    · split
      · exact chatIn_printMessage m
      · rfl
    · split
      · exact chatIn_printMessage m
      · rfl
    · rfl
    · exact sendErr_chat c _

/-- **A message shows its own lines** in every state. -/
theorem receive_chat (c : TCPClient) (d : Str) : chatIn (c.receive d).effects = chatOf d := by
  rw [receive_eq, chatOf]
  cases decoded d with
  | error e => rfl
  | ok m =>
    show chatIn (printed m.2 ++ (c.handleInbound m.1).effects) = _
    rw [chatIn_append, handleInbound_chat, List.append_nil]
    exact chatIn_printed m.2

theorem userLine_chat {c : TCPClient} (named : c.WellNamed) (line : Str) :
    chatIn (c.userLine line).effects = [] := by
  by_cases typed : line = []
  · unfold userLine
    rw [if_pos typed]
    rfl
  · obtain ⟨c', _, same⟩ := userLine_fate named typed
    rw [same]
    exact Fate.chatIn Request.tcp () c.clientState c.replyMsgSent c.dname line

/-- **What one step shows** of the chat is in the message it completes. -/
theorem step_chat {s s' : State} {e : Event} {out : List (Effect Unit)} (named : s.client.WellNamed)
    (made : step s e = some (s', out)) :
    chatIn out = (completed ⟨s, e, s', out⟩).toList.flatMap chatOf := by
  cases step_calls made with
  | gracefulExit made =>
    obtain ⟨rfl, rfl⟩ := Prod.ext_iff.mp made.symm
    rw [completed_of_other (by simp)]
    exact gracefulExit_chat s.client
  | @pollStep result _ _ polling made =>
    obtain ⟨rfl, rfl⟩ := Prod.ext_iff.mp made.symm
    rw [completed_of_other (by simp)]
    cases result with
    | failed => rfl
    | ready socket stdin =>
      unfold pollStep
      simp only
      split
      · rfl
      · rfl
  | @acceptStep buffer r _ _ accepting made =>
    obtain ⟨rfl, rfl⟩ := Prod.ext_iff.mp made.symm
    simp only [completed, accepting]
    cases received : r.received buffer with
    | none =>
      cases r with
      | closed => rfl
      | _ => cases received
    | some value =>
      rw [acceptStep_received received, Option.bind_some, acceptByte]
      split
      · rw [Option.toList_some, List.flatMap_singleton]
        exact receive_chat s.client _
      · rfl
  | @getlineStep line _ _ reading made =>
    obtain ⟨rfl, rfl⟩ := Prod.ext_iff.mp made.symm
    rw [completed_of_other (by simp)]
    cases line with
    | none => exact exitProgram_chat s.client true .failure
    | some text => exact userLine_chat named text

/-! ### The stream -/

/-- The byte that `accept_msg` counts in a transition: the one received, or the one that a `recv` that fails
has left in the buffer. -/
def counted (t : Transition State Event (Effect Unit)) : Option Str :=
  match t.before.control, t.input with
  | .acceptMsg buffer, .recv r => (r.received buffer).map fun value => [value]
  | _, _ => none

/-- The bytes that are counted. -/
def countedIn (history : List (Transition State Event (Effect Unit))) : Str :=
  history.flatMap fun t => (counted t).getD []

/-- The bytes received. -/
def receivedIn (history : List (Transition State Event (Effect Unit))) : Str :=
  history.filterMap fun t =>
    match t.input with
    | .recv (.byte value) => some value
    | _ => none

theorem counted_of_other {t : Transition State Event (Effect Unit)} (other : ∀ r, t.input ≠ .recv r) :
    counted t = none := by
  unfold counted
  split
  · rename_i r _ input
    exact absurd input (other r)
  · rfl

/-- While no `recv` fails, what is counted has been received. -/
theorem countedIn_eq {history : List (Transition State Event (Effect Unit))} {s : State}
    (run : Run machine history s) (succeed : ∀ t ∈ history, t.input.recvFails = false) :
    countedIn history = receivedIn history := by
  induction run with
  | start _ => rfl
  | @next history s s' e out _ made ih =>
    have earlier := ih fun t member => succeed t (List.mem_append_left _ member)
    have succeeds : e.recvFails = false :=
      succeed ⟨s, e, s', out⟩ (List.mem_append_right _ (List.mem_singleton_self _))
    have here : (counted ⟨s, e, s', out⟩).getD [] = receivedIn [⟨s, e, s', out⟩] := by
      cases step_calls made with
      | @acceptStep buffer r _ _ accepting _ =>
        simp only [counted, accepting]
        cases r with
        | byte value => rfl
        | closed => rfl
        | failed held => cases succeeds
      | _ =>
        rw [counted_of_other (by simp)]
        rfl
    simp only [countedIn, receivedIn, List.flatMap_append, List.filterMap_append,
      List.flatMap_singleton] at earlier here ⊢
    rw [earlier, here]

/-- The messages that are completed. -/
def messagesIn (history : List (Transition State Event (Effect Unit))) : List Str :=
  history.flatMap fun t => (completed t).toList

/-- What has been received of the next message; when the program leaves, it does not matter. -/
def Control.unfinished : Control → Option Str
  | .acceptMsg buffer => some buffer
  | .poll | .getline => some []
  | _ => none

/-- The stream of a run so far, and its unfinished rest. -/
def Parts (stream : Str) (messages : List Str) (s : State) : Prop :=
  ∃ rest, Parted found BUFFER_SIZE stream messages rest ∧ ∀ buffer ∈ s.control.unfinished, rest = buffer

/-- No message begins what is not complete. -/
theorem not_ends_of_unfinished {buffer frame : Str} (goes_on : accepted buffer = false)
    (front : frame <+: buffer) : ¬ Ends found BUFFER_SIZE [] frame := by
  obtain ⟨room, clear⟩ := room_of_unfinished goes_on
  rw [ends_iff]
  rintro (framed | ⟨full, _⟩)
  · exact clear (framed.ends.isInfix.trans front.isInfix)
  · exact absurd (full ▸ front.length_le) (by omega)

/-- A step that receives no byte leaves the stream as it is. -/
theorem Parts.idle {stream : Str} {messages : List Str} {s s' : State} (parts : Parts stream messages s)
    (same : ∀ buffer ∈ s'.control.unfinished, buffer ∈ s.control.unfinished) :
    Parts stream messages s' := by
  obtain ⟨rest, parted, known⟩ := parts
  exact ⟨rest, parted, fun buffer member => known buffer (same buffer member)⟩

/-- Behind its end the program receives nothing. -/
theorem Parts.leave {stream : Str} {messages : List Str} {s s' : State} (parts : Parts stream messages s)
    (leaves : s'.control.leaving = true) : Parts stream messages s' := by
  refine parts.idle fun buffer member => ?_
  revert leaves member
  cases s'.control <;> simp [Control.leaving, Control.unfinished]

/-- Behind `poll` no byte has been received yet. -/
theorem pollStep_unfinished (s : State) (result : PollResult) :
    ∀ buffer ∈ (pollStep s result).1.control.unfinished, buffer ∈ Control.poll.unfinished := by
  cases result with
  | failed => exact fun buffer member => by cases member
  | ready socket stdin =>
    unfold pollStep
    simp only
    split
    · exact fun buffer member => member
    · unfold State.stdinBranch
      split
      · exact fun buffer member => member
      · exact fun buffer member => member

/-- Behind a message the next one has not begun. -/
theorem unfinished_heard {s : State} {d : Str} {o : Outcome} (heard : Heard s.client d o) {buffer : Str}
    (member : buffer ∈ (s.resume s.stdinBranch o).1.control.unfinished) : buffer = [] := by
  rcases heard.control s with (polls | leaves) | ⟨_, reads, _⟩
  · rw [polls] at member
    exact (Option.mem_some.mp member).symm
  · revert leaves member
    cases (s.resume s.stdinBranch o).1.control <;> simp [Control.leaving, Control.unfinished]
  · rw [reads] at member
    exact (Option.mem_some.mp member).symm

/-- **One step reads at most one byte** of the stream, which ends a message when the client says so. -/
theorem Parts.step {stream : Str} {messages : List Str} {s s' : State} {e : Event}
    {out : List (Effect Unit)} (unfinished : Unfinished s) (parts : Parts stream messages s)
    (made : TCPClient.step s e = some (s', out)) :
    Parts (stream ++ (counted ⟨s, e, s', out⟩).getD [])
      (messages ++ (completed ⟨s, e, s', out⟩).toList) s' := by
  cases step_calls made with
  | gracefulExit made =>
    obtain ⟨rfl, rfl⟩ := Prod.ext_iff.mp made.symm
    rw [counted_of_other (by simp), completed_of_other (by simp), Option.getD_none, Option.toList_none,
      List.append_nil, List.append_nil]
    exact parts.leave ((gracefulExit_leaving s.client).resume s .poll)
  | @pollStep result _ _ polling made =>
    obtain ⟨rfl, rfl⟩ := Prod.ext_iff.mp made.symm
    rw [counted_of_other (by simp), completed_of_other (by simp), Option.getD_none, Option.toList_none,
      List.append_nil, List.append_nil]
    refine parts.idle ?_
    rw [polling]
    exact pollStep_unfinished s result
  | @acceptStep buffer r _ _ accepting made =>
    obtain ⟨rfl, rfl⟩ := Prod.ext_iff.mp made.symm
    obtain ⟨rest, parted, known⟩ := parts
    obtain rfl : rest = buffer := known buffer (by rw [accepting]; rfl)
    simp only [counted, completed, accepting]
    cases received : r.received rest with
    | none =>
      cases r with
      | closed =>
        have leaves := ((exitProgram_leaving s.client false .failure).after
          (printed [.notice .noData])).resume s .poll
        simp only [Option.map_none, Option.getD_none, Option.bind_none, Option.toList_none,
          List.append_nil]
        exact Parts.leave ⟨rest, parted, known⟩ leaves
      | _ => cases received
    | some value =>
      rw [acceptStep_received received, Option.map_some, Option.getD_some, Option.bind_some, acceptByte]
      by_cases complete : accepted (rest ++ [value]) = true
      · rw [if_pos complete, if_pos complete, Option.toList_some]
        have ends := (ends_iff _).mpr (stops_of_accepted (unfinished rest accepting) complete)
        exact ⟨[], parted.done (by decide) ends,
          fun buffer member => (unfinished_heard (receive_heard s.client _) member).symm⟩
      · rw [if_neg complete, if_neg complete, Option.toList_none, List.append_nil]
        have goes_on : accepted (rest ++ [value]) = false := by simpa using complete
        exact ⟨rest ++ [value], parted.more fun frame => not_ends_of_unfinished goes_on,
          fun buffer member => Option.mem_some.mp member⟩
  | @getlineStep line _ _ reading made =>
    obtain ⟨rfl, rfl⟩ := Prod.ext_iff.mp made.symm
    rw [counted_of_other (by simp), completed_of_other (by simp), Option.getD_none, Option.toList_none,
      List.append_nil, List.append_nil]
    cases line with
    | none => exact parts.leave ((exitProgram_leaving s.client true .failure).resume s .poll)
    | some text =>
      refine parts.idle ?_
      have polls : (getlineStep s (some text)).1.control = .poll := by
        have lined := userLine_lined s.client text
        show (s.resume .poll (s.client.userLine text)).1.control = .poll
        generalize s.client.userLine text = o at lined
        cases lined <;> rfl
      rw [reading, polls]
      exact fun buffer member => member

/-- **The messages of a run** are the ones its stream has. -/
theorem parted_run {history : List (Transition State Event (Effect Unit))} {s : State}
    (run : Run machine history s) : Parts (countedIn history) (messagesIn history) s := by
  induction run with
  | start initial =>
    obtain ⟨revents, rfl⟩ := initial
    exact ⟨[], .nil (by decide), fun buffer member => Option.mem_some.mp member⟩
  | next earlier made ih =>
    have parts := ih.step (unfinished_reachable earlier.reachable) made
    simp only [countedIn, messagesIn, List.flatMap_append, List.flatMap_singleton] at parts ⊢
    exact parts

/-- The chat of a run, step by step. -/
theorem chat_run {history : List (Transition State Event (Effect Unit))} {s : State}
    (run : Run machine history s) :
    chatIn (history.flatMap Transition.out) = (messagesIn history).flatMap chatOf := by
  induction run with
  | start _ => rfl
  | next earlier made ih =>
    have here := step_chat (wellNamed_reachable earlier.reachable) made
    simp only [messagesIn, List.flatMap_append, List.flatMap_singleton] at ih ⊢
    rw [chatIn_append, ih, here]

/-- **The chat displayed is the chat in the buffer**: the stream of the bytes counted has exactly one
decomposition into messages and a rest, and the lines of the chat in these messages are what is displayed. -/
theorem chat_delivered {history : List (Transition State Event (Effect Unit))} {s : State}
    (run : Run machine history s) : ∃ messages rest,
      Parted found BUFFER_SIZE (countedIn history) messages rest ∧
      chatIn (history.flatMap Transition.out) = messages.flatMap chatOf ∧
      ∀ messages' rest', Parted found BUFFER_SIZE (countedIn history) messages' rest' →
        messages' = messages ∧ rest' = rest := by
  obtain ⟨rest, parted, _⟩ := parted_run run
  exact ⟨messagesIn history, rest, parted, chat_run run, fun _ _ parted' => parted'.unique parted⟩

/-- Behind a sign-in, a message in another spelling, a line of the user and the beginning of a message. -/
def overheard : List Event :=
  signIn ++ served "msg From bob is hi there" ++ typed "hello" ++
    .poll (.ready ⟨true, false⟩ ⟨false, false⟩) :: arrivals (bytes "MSG FROM")

def overheardHistory : List (Transition State Event (Effect Unit)) :=
  (machine.trace booted overheard).getD []

/-- Of these, one line is displayed. -/
theorem chat_delivered_overheard : ∃ messages rest,
    Parted found BUFFER_SIZE (countedIn overheardHistory) messages rest ∧
    chatIn (overheardHistory.flatMap Transition.out) = messages.flatMap chatOf ∧
    ∀ messages' rest', Parted found BUFFER_SIZE (countedIn overheardHistory) messages' rest' →
      messages' = messages ∧ rest' = rest :=
  chat_delivered (.reached booted_init rfl)

/-- Lines that are framed, and what has been received of the next one. -/
theorem parted_of_framed {messages : List Str} (framed : ∀ m ∈ messages, Framed m) {rest : Str}
    (unfinished : accepted rest = false) :
    Parted found BUFFER_SIZE (messages.flatten ++ rest) messages rest where
  whole := rfl
  ends := fun m member => (ends_iff m).mpr (Or.inl (framed m member))
  unfinished := fun _ => not_ends_of_unfinished unfinished

/-- **What the server says is displayed** once and in order: when no `recv` fails and what has been received
consists of lines, the chat in them is what the client displays. -/
theorem chat_in_order {history : List (Transition State Event (Effect Unit))} {s : State}
    (run : Run machine history s) (succeed : ∀ t ∈ history, t.input.recvFails = false)
    (said : List (Str × List Output)) (rest : Str)
    (each : ∀ line ∈ said, Framed line.1 ∧ Shows line.1 line.2)
    (unfinished : accepted rest = false)
    (stream : receivedIn history = (said.map Prod.fst).flatten ++ rest) :
    chatIn (history.flatMap Transition.out) = said.flatMap Prod.snd := by
  have framed : ∀ m ∈ said.map Prod.fst, Framed m := by
    intro m member
    obtain ⟨line, inside, rfl⟩ := List.mem_map.mp member
    exact (each line inside).1
  have given := parted_of_framed framed unfinished
  rw [← stream, ← countedIn_eq run succeed] at given
  obtain ⟨rest', parted, _⟩ := parted_run run
  rw [chat_run run, (parted.unique given).1, List.flatMap_map]
  exact List.flatMap_congr fun line inside => (each line inside).2.chatOf_eq

def mixed : Keywords .msg := ⟨bytes "msg", bytes "From", bytes "is", rfl, rfl, rfl⟩

theorem chat_in_order_overheard : chatIn (overheardHistory.flatMap Transition.out) =
    [.msg (bytes "bob") (bytes "hi there")] := by
  have reply : Framed (bytes "REPLY OK IS hi" ++ crlf) :=
    ⟨by decide +kernel, by decide +kernel, by decide +kernel⟩
  have msg : Framed (bytes "msg From bob is hi there" ++ crlf) :=
    ⟨by decide +kernel, by decide +kernel, by decide +kernel⟩
  have name : ¬ ContainsIs (bytes "bob") := by
    rw [containsIs_iff]
    decide
  refine chat_in_order (.reached booted_init rfl) (by decide +kernel) [(bytes "REPLY OK IS hi" ++ crlf, []),
    (bytes "msg From bob is hi there" ++ crlf, [.msg (bytes "bob") (bytes "hi there")])]
    (bytes "MSG FROM") ?_ rfl (by decide +kernel)
  intro line member
  rcases List.mem_cons.mp member with rfl | member
  · exact ⟨reply, .other (by decide +kernel) (by decide +kernel)⟩
  · obtain rfl := List.mem_singleton.mp member
    exact ⟨msg, .chat mixed (bytes "hi there") (Or.inl rfl) ⟨by decide, by decide⟩ name⟩

end TCPClient

end Ipk24Chat
