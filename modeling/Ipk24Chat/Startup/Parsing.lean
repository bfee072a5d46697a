/-
**What `parse_args` makes of a command line.**

The program ends at the first option that it does not take. When it takes all of them, every field holds what
the last option of its kind has given, or its default; an option of another kind, before or behind, does not
matter.

* `options_eq_error_iff`: the first option that is not taken ends the loop, whatever has been read before;
* `option_texts`: what one option does to the two fields that are texts;
* `last_iff`: the last option of a kind, as one that no other of the kind follows;
* `parseArgs_eq`, `parseArgs_iff`: the result for every sequence of options.
-/

import Ipk24Chat.Startup.Options

namespace Ipk24Chat

/-! ### The options that are not taken -/

/-- How the program ends at an option, if it does. -/
def Opt.halt : Opt → Option Halt
  | .t optarg =>
    if optarg = bytes "tcp" ∨ optarg = bytes "udp" then none else some (.exited .wrongProtocol .failure)
  | .p optarg =>
    match stoi optarg with
    | .error e => some (.uncaught e)
    | .ok v => if 0 ≤ v ∧ v ≤ 65535 then none else some (.exited .portOutOfRange .failure)
  | .d optarg | .r optarg =>
    match stoi optarg with
    | .error e => some (.uncaught e)
    | .ok _ => none
  | .h => some (.exited .usage .success)
  | .s _ | .other => none

namespace ArgParser

theorem map_number_eq_error_iff {text : Str} {f : Int → ArgParser} {e : Halt} :
    (number text).map f = .error e ↔ ∃ thrown, stoi text = .error thrown ∧ .uncaught thrown = e := by
  unfold number
  cases stoi text with
  | error thrown => simp [Except.map, Except.mapError]
  | ok v => simp [Except.map, Except.mapError]

/-- **An option ends the program** whatever has been read before. -/
theorem option_eq_error_iff {a : ArgParser} {o : Opt} {e : Halt} :
    a.option o = .error e ↔ o.halt = some e := by
  cases o with
  | t optarg =>
    simp only [option, Opt.halt]
    by_cases tcp : optarg = bytes "tcp"
    · rw [if_pos tcp, if_pos (Or.inl tcp)]
      simp
    · by_cases udp : optarg = bytes "udp"
      · rw [if_neg tcp, if_pos udp, if_pos (Or.inr udp)]
        simp
      · rw [if_neg tcp, if_neg udp, if_neg (not_or.mpr ⟨tcp, udp⟩)]
        simp
  | s optarg => simp [option, Opt.halt]
  | p optarg =>
    simp only [option, Opt.halt, number]
    cases read : stoi optarg with
    | error thrown => simp [Except.mapError]
    | ok v =>
      by_cases inside : 0 ≤ v ∧ v ≤ 65535
      · have taken : ¬ (v < 0 ∨ 65535 < v) := by omega
        simp [Except.mapError, inside, taken]
      · have refused : v < 0 ∨ 65535 < v := by omega
        simp [Except.mapError, inside, refused]
  | d optarg =>
    simp only [option, Opt.halt, map_number_eq_error_iff]
    cases stoi optarg <;> simp
  | r optarg =>
    simp only [option, Opt.halt, map_number_eq_error_iff]
    cases stoi optarg <;> simp
  | h => simp [option, Opt.halt]
  | other => simp [option, Opt.halt]

/-- **The first option that is not taken** ends the loop. -/
theorem options_eq_error_iff {a : ArgParser} {opts : List Opt} {e : Halt} :
    a.options opts = .error e ↔ opts.findSome? Opt.halt = some e := by
  induction opts generalizing a with
  | nil => simp [options]
  | cons o rest ih =>
    unfold options
    rw [List.findSome?_cons]
    cases made : a.option o with
    | error first =>
      rw [option_eq_error_iff.mp made]
      simp
    | ok a' =>
      have taken : o.halt = none := by
        cases halts : o.halt with
        | none => rfl
        | some e' => cases made.symm.trans (option_eq_error_iff.mpr halts)
      rw [taken]
      exact ih

end ArgParser

/-! ### The fields that are texts -/

/-- The name behind `-s`. -/
def Opt.host : Opt → Option Str
  | .s optarg => some optarg
  | _ => none

/-- The text behind `-p` and the number it begins with. -/
def Opt.port : Opt → Option (Str × Int)
  | .p optarg => (decimal.read optarg).map fun v => (optarg, v)
  | _ => none

namespace ArgParser

/-- What one option does to the fields that are texts; `-p` replaces a text and the number that is compared
with 0 later. -/
structure Texts (a : ArgParser) (o : Opt) (a' : ArgParser) : Prop where
  host : a'.cliInfo.ipHostname = o.host.elim a.cliInfo.ipHostname id
  port : (a'.cliInfo.port, a'.serverPort) = o.port.elim (a.cliInfo.port, a.serverPort) id

theorem option_texts {a a' : ArgParser} {o : Opt} (made : a.option o = .ok a') : Texts a o a' := by
  cases o with
  | t optarg =>
    simp only [option] at made
    split at made
    · cases made
      exact ⟨rfl, rfl⟩
    · split at made
      · cases made
        exact ⟨rfl, rfl⟩
      · cases made
  | s optarg =>
    cases made
    exact ⟨rfl, rfl⟩
  | p optarg =>
    simp only [option] at made
    split at made
    next => cases made
    next v read =>
      split at made
      · cases made
      · cases made
        exact ⟨rfl, by simp [Opt.port, read_of_stoi (number_eq_ok.mp read)]⟩
  | d optarg =>
    obtain ⟨v, _, rfl⟩ := map_number_eq_ok made
    exact ⟨rfl, rfl⟩
  | r optarg =>
    obtain ⟨v, _, rfl⟩ := map_number_eq_ok made
    exact ⟨rfl, rfl⟩
  | h => cases made
  | other =>
    cases made
    exact ⟨rfl, rfl⟩

end ArgParser

/-! ### The result -/

/-- The port that the name is looked up with: a 0 stands for an absent one. -/
def portSetting : Option (Str × Int) → Str
  | none => bytes "4567"
  | some given => if given.2 = 0 then bytes "4567" else given.1

/-- The fields that a command line describes, the protocol apart. -/
def described (opts : List Opt) (sockType : UInt16) : ConnectionInfo where
  ipHostname := (lastGiven Opt.host opts).getD []
  port := portSetting (lastGiven Opt.port opts)
  udpTimeout := setting 250 (lastGiven Opt.timeout opts)
  maxUdpRetransmission := setting 3 (lastGiven Opt.retransmissions opts)
  sockType := sockType

/-- The texts of an accepted command line. -/
theorem parseArgs_texts {opts : List Opt} {info : ConnectionInfo} (accepted : parseArgs opts = .ok info) :
    info.ipHostname = (lastGiven Opt.host opts).getD [] ∧
      info.port = portSetting (lastGiven Opt.port opts) := by
  unfold parseArgs at accepted
  split at accepted
  next => cases accepted
  next a made =>
    split at accepted
    next => cases accepted
    next =>
      cases accepted
      have host := ArgParser.options_last (fun a => a.cliInfo.ipHostname) Opt.host id
        (fun made => (ArgParser.option_texts made).host) made
      have port : (a.cliInfo.port, a.serverPort) = (lastGiven Opt.port opts).elim ([], 0) id :=
        ArgParser.options_last (fun a => (a.cliInfo.port, a.serverPort)) Opt.port id
          (fun made => (ArgParser.option_texts made).port) made
      constructor
      · show a.cliInfo.ipHostname = _
        rw [host]
        cases lastGiven Opt.host opts <;> rfl
      · show (if a.serverPort = 0 then bytes "4567" else a.cliInfo.port) = _
        obtain ⟨text, number⟩ := Prod.ext_iff.mp port
        cases last : lastGiven Opt.port opts with
        | none =>
          rw [last] at number
          exact if_pos number
        | some given =>
          rw [last] at text number
          rw [show a.cliInfo.port = given.1 from text, show a.serverPort = given.2 from number]
          rfl

/-- The protocol that is stored is one of the two. -/
theorem protocol_known {o : Opt} {t : UInt16} (given : o.protocol = some t) :
    t = SOCK_DGRAM ∨ t = SOCK_STREAM := by
  cases o with
  | t optarg =>
    simp only [Opt.protocol] at given
    split at given
    · exact Or.inr (Option.some.inj given).symm
    · split at given
      · exact Or.inl (Option.some.inj given).symm
      · cases given
  | _ => cases given

theorem lastGiven_mem {α β : Type} {given : α → Option β} {l : List α} {b : β}
    (last : lastGiven given l = some b) : ∃ a ∈ l, given a = some b := by
  induction l with
  | nil => cases last
  | cons a rest ih =>
    unfold lastGiven at last
    rcases Option.or_eq_some_iff.mp last with later | ⟨_, here⟩
    · obtain ⟨a', member, same⟩ := ih later
      exact ⟨a', List.mem_cons_of_mem a member, same⟩
    · exact ⟨a, List.mem_cons_self, here⟩

/-- **`parse_args`**: the first option that is not taken ends the program, then the absence of a protocol
does, and otherwise every field holds what the last option of its kind has given. -/
theorem parseArgs_eq (opts : List Opt) : parseArgs opts =
    match opts.findSome? Opt.halt with
    | some halt => .error halt
    | none =>
      match lastGiven Opt.protocol opts with
      | none => .error (.exited .noProtocol .failure)
      | some sockType => .ok (described opts sockType) := by
  cases halts : opts.findSome? Opt.halt with
  | some halt =>
    unfold parseArgs
    rw [ArgParser.options_eq_error_iff.mpr halts]
  | none =>
    cases result : parseArgs opts with
    | ok info =>
      have accepted := parseArgs_ok result
      obtain ⟨host, port⟩ := parseArgs_texts result
      rw [accepted.protocol]
      show Except.ok info = Except.ok (described opts info.sockType)
      unfold described
      rw [← host, ← port, ← accepted.timeout, ← accepted.retransmissions]
    | error halt =>
      unfold parseArgs at result
      split at result
      next e made => cases (ArgParser.options_eq_error_iff.mp made).symm.trans halts
      next a made =>
        split at result
        next unknown =>
          cases result
          have protocol := ArgParser.options_last (fun a => a.cliInfo.sockType) Opt.protocol id
            (fun made => (ArgParser.option_takes made).protocol) made
          cases last : lastGiven Opt.protocol opts with
          | none => rfl
          | some t =>
            rw [last] at protocol
            obtain ⟨o, _, given⟩ := lastGiven_mem last
            rcases protocol_known given with datagram | stream
            · exact absurd (protocol.trans datagram) unknown.1
            · exact absurd (protocol.trans stream) unknown.2
        next => cases result

/-! ### The last of a kind -/

/-- **What the last that gives something gives**, and nothing when none does. -/
inductive Last {α β : Type} (given : α → Option β) (l : List α) : Option β → Prop
  | absent : (∀ a ∈ l, given a = none) → Last given l none
  | given {before after : List α} {a : α} {b : β} : l = before ++ a :: after → given a = some b →
      (∀ a' ∈ after, given a' = none) → Last given l (some b)

section Last

variable {α β : Type} {given : α → Option β} {l : List α}

theorem last_lastGiven (given : α → Option β) (l : List α) : Last given l (lastGiven given l) := by
  induction l with
  | nil => exact .absent fun _ member => absurd member List.not_mem_nil
  | cons a rest ih =>
    rw [lastGiven]
    generalize lastGiven given rest = last at ih
    cases ih with
    | absent quiet =>
      rw [Option.none_or]
      cases here : given a with
      | none => exact .absent (List.forall_mem_cons.mpr ⟨here, quiet⟩)
      | some b => exact .given (List.nil_append _).symm here quiet
    | given same here quiet =>
      rw [Option.some_or, same]
      exact .given (List.cons_append).symm here quiet

theorem lastGiven_append (before after : List α) :
    lastGiven given (before ++ after) = (lastGiven given after).or (lastGiven given before) := by
  induction before with
  | nil => simp [lastGiven]
  | cons a before ih => rw [List.cons_append, lastGiven, ih, lastGiven, Option.or_assoc]

theorem lastGiven_eq_none (quiet : ∀ a ∈ l, given a = none) : lastGiven given l = none := by
  cases last : lastGiven given l with
  | none => rfl
  | some b =>
    obtain ⟨a, member, here⟩ := lastGiven_mem last
    cases (quiet a member).symm.trans here

theorem last_iff {b : Option β} : Last given l b ↔ lastGiven given l = b := by
  constructor
  · rintro (quiet | ⟨rfl, here, quiet⟩)
    · exact lastGiven_eq_none quiet
    · rw [lastGiven_append, lastGiven, lastGiven_eq_none quiet, here, Option.none_or, Option.some_or]
  · rintro rfl
    exact last_lastGiven given l

end Last

/-! ### Every command line -/

/-- What a field of 16 bits holds of an integer, with a default for an absent one and for a 0. -/
def Stores (default : UInt16) : Option Int → UInt16 → Prop
  | none, field => field = default
  | some v, field => (field.toNat : Int) = if v % 65536 = 0 then (default.toNat : Int) else v % 65536

theorem stores_iff {default field : UInt16} {given : Option Int} :
    Stores default given field ↔ field = setting default given := by
  cases given with
  | none => exact Iff.rfl
  | some v =>
    show (field.toNat : Int) = (if v % 65536 = 0 then _ else _) ↔ _
    rw [← setting_some, Int.natCast_inj, UInt16.toNat_inj]

/-- **What the fields hold** of a command line that is accepted. -/
structure Describes (opts : List Opt) (info : ConnectionInfo) : Prop where
  protocol : Last Opt.protocol opts (some info.sockType)
  host : ∃ given, Last Opt.host opts given ∧ info.ipHostname = given.getD []
  port : ∃ given, Last Opt.port opts given ∧ info.port = portSetting given
  timeout : ∃ given, Last Opt.timeout opts given ∧ Stores 250 given info.udpTimeout
  retransmissions : ∃ given, Last Opt.retransmissions opts given ∧
    Stores 3 given info.maxUdpRetransmission

theorem describes_iff {opts : List Opt} {info : ConnectionInfo} : Describes opts info ↔
    lastGiven Opt.protocol opts = some info.sockType ∧ info = described opts info.sockType := by
  constructor
  · rintro ⟨protocol, ⟨host, lastHost, isHost⟩, ⟨port, lastPort, isPort⟩,
      ⟨timeout, lastTimeout, isTimeout⟩, ⟨limit, lastLimit, isLimit⟩⟩
    refine ⟨last_iff.mp protocol, ?_⟩
    unfold described
    rw [last_iff.mp lastHost, last_iff.mp lastPort, last_iff.mp lastTimeout, last_iff.mp lastLimit,
      ← isHost, ← isPort, ← stores_iff.mp isTimeout, ← stores_iff.mp isLimit]
  · rintro ⟨protocol, same⟩
    exact ⟨last_iff.mpr protocol, ⟨_, last_lastGiven _ _, congrArg (·.ipHostname) same⟩,
      ⟨_, last_lastGiven _ _, congrArg (·.port) same⟩,
      ⟨_, last_lastGiven _ _, stores_iff.mpr (congrArg (·.udpTimeout) same)⟩,
      ⟨_, last_lastGiven _ _, stores_iff.mpr (congrArg (·.maxUdpRetransmission) same)⟩⟩

/-- **What a command line is**: refused at an option, without a protocol, or accepted. -/
inductive Parses (opts : List Opt) : Except Halt ConnectionInfo → Prop
  | refused {taken rest : List Opt} {o : Opt} {halt : Halt} : opts = taken ++ o :: rest →
      (∀ o' ∈ taken, o'.halt = none) → o.halt = some halt → Parses opts (.error halt)
  | noProtocol : (∀ o ∈ opts, o.halt = none) → (∀ o ∈ opts, o.protocol = none) →
      Parses opts (.error (.exited .noProtocol .failure))
  | accepted {info : ConnectionInfo} : (∀ o ∈ opts, o.halt = none) → Describes opts info →
      Parses opts (.ok info)

/-- **`parse_args`**, for every command line. -/
theorem parseArgs_iff (opts : List Opt) (result : Except Halt ConnectionInfo) :
    parseArgs opts = result ↔ Parses opts result := by
  rw [parseArgs_eq]
  constructor
  · rintro rfl
    cases halts : opts.findSome? Opt.halt with
    | some halt =>
      obtain ⟨taken, o, rest, same, refused, quiet⟩ := List.findSome?_eq_some_iff.mp halts
      exact .refused same quiet refused
    | none =>
      have taken : ∀ o ∈ opts, o.halt = none := List.findSome?_eq_none_iff.mp halts
      cases last : lastGiven Opt.protocol opts with
      | none =>
        rcases last_iff.mpr last with absent | _
        exact .noProtocol taken absent
      | some t => exact .accepted taken (describes_iff.mpr ⟨last, rfl⟩)
  · rintro (⟨same, quiet, refused⟩ | ⟨taken, absent⟩ | ⟨taken, describes⟩)
    · rw [List.findSome?_eq_some_iff.mpr ⟨_, _, _, same, refused, quiet⟩]
    · rw [List.findSome?_eq_none_iff.mpr taken, lastGiven_eq_none absent]
    · obtain ⟨last, same⟩ := describes_iff.mp describes
      rw [List.findSome?_eq_none_iff.mpr taken, last]
      exact congrArg Except.ok same.symm

end Ipk24Chat
