/-
**The command line: `CLI_Parser::parse_args`.**

`parse_args` takes the options one by one as `getopt` delivers them. An exception of `std::stoi` is not
caught anywhere. The two timing options are stored in fields of 16 bits, and a 0 in one of them is taken
for an absent option.

* `stoi_write`: an integer that an `int` holds is read as itself, and any other one throws;
* `setting_some`: what a field of 16 bits holds;
* `parseArgs_ok`: what an accepted sequence leaves behind, in terms of the last option of each kind;
* `parseArgs_written`: every pair of integers can be given to the timing options.
-/

import Ipk24Chat.Messages.UserCommand
import Ipk24Chat.Lib.Numeral

namespace Ipk24Chat

open Numeral

/-! ### `std::stoi` -/

/-- Numerals as `strtol` reads them in base 10. -/
def decimal : Numerals UInt8 where
  base := 10
  value c := if 48 ≤ c ∧ c ≤ 57 then some (c.toNat - 48) else none
  symbol d := UInt8.ofNat (48 + d)
  plus := chr '+'
  minus := chr '-'
  blank := isspace
  one_lt := by decide
  value_symbol := by decide
  blank_digit := by
    intro c digit
    have inside : 48 ≤ c ∧ c ≤ 57 := by
      by_contra outside
      exact digit (if_neg outside)
    exact isspace_of_isgraph (isgraph_of_isalnum (by simp [isalnum, inside]))
  value_plus := by decide
  value_minus := by decide
  blank_minus := by decide
  minus_ne_plus := by decide

def INT_MIN : Int := -2147483648
def INT_MAX : Int := 2147483647

/-- What an `int` holds. -/
def IsInt (v : Int) : Prop := INT_MIN ≤ v ∧ v ≤ INT_MAX

instance (v : Int) : Decidable (IsInt v) := inferInstanceAs (Decidable (_ ∧ _))

/-- What `std::stoi` throws. -/
inductive StoiError
  | invalidArgument | outOfRange
  deriving DecidableEq, Repr

def stoi (text : Str) : Except StoiError Int :=
  match decimal.read text with
  | none => .error .invalidArgument
  | some v => if IsInt v then .ok v else .error .outOfRange

/-! ### Ways out -/

/-- The texts the program prints before the chat begins. -/
inductive StartNotice
  | wrongProtocol | portOutOfRange | usage | noProtocol | creatingSocket | settingTimeout
  deriving DecidableEq, Repr

def StartNotice.stream : StartNotice → Stream
  | .usage => .cout
  | _ => .cerr

def StartNotice.text : StartNotice → String
  | .wrongProtocol => "ERR: You must select either tcp or udp protocol"
  | .portOutOfRange => "ERR: Port out of range."
  | .usage => "Usage: ./ipk -t <PROTOCOL> -s <SERVER IP> -p <PORT> -d <UDP_TIMEOUT> -r <UDP_RETRANSMISSION> "
  | .noProtocol => "ERR: No protocol selected."
  | .creatingSocket => "ERR: CREATING SOCKET."
  | .settingTimeout => "ERR: SETTING SOCKET TIMEOUT."

/-- How the program ends before the chat begins. -/
inductive Halt
  | exited (printed : StartNotice) (retState : ExitCode)
  /-- An exception that is not caught. -/
  | uncaught (e : StoiError)
  deriving DecidableEq, Repr

/-! ### `parse_args` -/

def SOCK_STREAM : UInt16 := 1
def SOCK_DGRAM : UInt16 := 2

/-- `connection_info`. -/
structure ConnectionInfo where
  ipHostname : Str
  port : Str
  udpTimeout : UInt16
  maxUdpRetransmission : UInt16
  sockType : UInt16
  deriving DecidableEq, Repr

/-- `new connection_info()`. -/
def ConnectionInfo.new : ConnectionInfo where
  ipHostname := []
  port := []
  udpTimeout := 0
  maxUdpRetransmission := 0
  sockType := 0

/-- An option with its `optarg`. -/
inductive Opt
  | t (optarg : Str)
  | s (optarg : Str)
  | p (optarg : Str)
  | d (optarg : Str)
  | r (optarg : Str)
  | h
  /-- A `?`: an unknown option, or one without its argument. -/
  | other
  deriving DecidableEq, Repr

/-- The locals of `parse_args`. -/
structure ArgParser where
  cliInfo : ConnectionInfo
  serverPort : Int
  deriving DecidableEq, Repr

namespace ArgParser

def start : ArgParser := ⟨.new, 0⟩

/-- A numeric argument. -/
def number (optarg : Str) : Except Halt Int := (stoi optarg).mapError .uncaught

/-- One iteration of the loop. -/
def option (a : ArgParser) : Opt → Except Halt ArgParser
  | .t optarg =>
    if optarg = bytes "tcp" then .ok { a with cliInfo.sockType := SOCK_STREAM }
    else if optarg = bytes "udp" then .ok { a with cliInfo.sockType := SOCK_DGRAM }
    else .error (.exited .wrongProtocol .failure)
  | .s optarg => .ok { a with cliInfo.ipHostname := optarg }
  | .p optarg =>
    match number optarg with
    | .error e => .error e
    | .ok serverPort =>
      if serverPort < 0 ∨ 65535 < serverPort then .error (.exited .portOutOfRange .failure)
      else .ok { a with cliInfo.port := optarg, serverPort := serverPort }
  | .d optarg => (number optarg).map fun v => { a with cliInfo.udpTimeout := UInt16.ofInt v }
  | .r optarg => (number optarg).map fun v => { a with cliInfo.maxUdpRetransmission := UInt16.ofInt v }
  | .h => .error (.exited .usage .success)
  | .other => .ok a

/-- The loop over the options. -/
def options : ArgParser → List Opt → Except Halt ArgParser
  | a, [] => .ok a
  | a, o :: rest =>
    match a.option o with
    | .error e => .error e
    | .ok a => options a rest

/-- The default values. -/
def defaults (a : ArgParser) : ConnectionInfo :=
  { a.cliInfo with
    udpTimeout := if a.cliInfo.udpTimeout = 0 then 250 else a.cliInfo.udpTimeout
    maxUdpRetransmission :=
      if a.cliInfo.maxUdpRetransmission = 0 then 3 else a.cliInfo.maxUdpRetransmission
    port := if a.serverPort = 0 then bytes "4567" else a.cliInfo.port }

end ArgParser

def parseArgs (opts : List Opt) : Except Halt ConnectionInfo :=
  match ArgParser.start.options opts with
  | .error e => .error e
  | .ok a =>
    if a.cliInfo.sockType ≠ SOCK_DGRAM ∧ a.cliInfo.sockType ≠ SOCK_STREAM then
      .error (.exited .noProtocol .failure)
    else .ok a.defaults

/-! ### Numbers -/

/-- **What `stoi` makes of a number that is written**, with or without something behind it. -/
theorem stoi_write {rest : Str} (stops : decimal.Stops rest) (v : Int) :
    stoi (decimal.write v ++ rest) = if IsInt v then .ok v else .error .outOfRange := by
  unfold stoi
  rw [Numerals.read_write stops]

theorem read_of_stoi {text : Str} {v : Int} (read : stoi text = .ok v) :
    decimal.read text = some v := by
  unfold stoi at read
  split at read
  next => cases read
  next v' found =>
    split at read
    · cases read
      exact found
    · cases read

namespace ArgParser

theorem number_eq_ok {text : Str} {v : Int} : number text = .ok v ↔ stoi text = .ok v := by
  unfold number
  cases stoi text with
  | error e => simp [Except.mapError]
  | ok v' => simp [Except.mapError]

end ArgParser

/-! ### The last option of a kind -/

/-- The last option that gives something. -/
def lastGiven {α β : Type} (given : α → Option β) : List α → Option β
  | [] => none
  | o :: rest => (lastGiven given rest).or (given o)

/-- The integer behind `-d`. -/
def Opt.timeout : Opt → Option Int
  | .d optarg => decimal.read optarg
  | _ => none

/-- The integer behind `-r`. -/
def Opt.retransmissions : Opt → Option Int
  | .r optarg => decimal.read optarg
  | _ => none

/-- The protocol behind `-t`. -/
def Opt.protocol : Opt → Option UInt16
  | .t optarg =>
    if optarg = bytes "tcp" then some SOCK_STREAM
    else if optarg = bytes "udp" then some SOCK_DGRAM
    else none
  | _ => none

namespace ArgParser

theorem map_number_eq_ok {text : Str} {f : Int → ArgParser} {a : ArgParser}
    (made : (number text).map f = .ok a) : ∃ v, decimal.read text = some v ∧ a = f v := by
  cases read : number text with
  | error e =>
    rw [read] at made
    cases made
  | ok v =>
    rw [read] at made
    cases made
    exact ⟨v, read_of_stoi (number_eq_ok.mp read), rfl⟩

/-- **What one option does** to the fields the program reads later. -/
structure Takes (a : ArgParser) (o : Opt) (a' : ArgParser) : Prop where
  timeout : a'.cliInfo.udpTimeout = o.timeout.elim a.cliInfo.udpTimeout UInt16.ofInt
  retransmissions : a'.cliInfo.maxUdpRetransmission =
    o.retransmissions.elim a.cliInfo.maxUdpRetransmission UInt16.ofInt
  protocol : a'.cliInfo.sockType = o.protocol.elim a.cliInfo.sockType id

theorem option_takes {a a' : ArgParser} {o : Opt} (made : a.option o = .ok a') : Takes a o a' := by
  cases o with
  | t optarg =>
    simp only [option] at made
    by_cases tcp : optarg = bytes "tcp"
    · rw [if_pos tcp] at made
      cases made
      exact ⟨rfl, rfl, by simp [Opt.protocol, tcp]⟩
    · rw [if_neg tcp] at made
      by_cases udp : optarg = bytes "udp"
      · rw [if_pos udp] at made
        cases made
        exact ⟨rfl, rfl, by rw [Opt.protocol, if_neg tcp, if_pos udp]; rfl⟩
      · rw [if_neg udp] at made
        cases made
  | s optarg =>
    cases made
    exact ⟨rfl, rfl, rfl⟩
  | p optarg =>
    simp only [option] at made
    split at made
    · cases made
    · split at made
      · cases made
      · cases made
        exact ⟨rfl, rfl, rfl⟩
  | d optarg =>
    obtain ⟨v, read, rfl⟩ := map_number_eq_ok made
    exact ⟨by simp [Opt.timeout, read], rfl, rfl⟩
  | r optarg =>
    obtain ⟨v, read, rfl⟩ := map_number_eq_ok made
    exact ⟨rfl, by simp [Opt.retransmissions, read], rfl⟩
  | h => cases made
  | other =>
    cases made
    exact ⟨rfl, rfl, rfl⟩

/-- **A field that every option of a kind replaces** holds the last of them. -/
theorem options_last {β γ : Type} (field : ArgParser → γ) (given : Opt → Option β) (put : β → γ)
    (step : ∀ {a o a'}, option a o = .ok a' → field a' = (given o).elim (field a) put)
    {a a' : ArgParser} {opts : List Opt} (made : a.options opts = .ok a') :
    field a' = (lastGiven given opts).elim (field a) put := by
  induction opts generalizing a with
  | nil =>
    cases made
    rfl
  | cons o rest ih =>
    unfold options at made
    split at made
    next => cases made
    next a₁ first =>
      rw [ih made, step first, lastGiven]
      cases lastGiven given rest with
      | none => rfl
      | some later => rfl

end ArgParser

/-- The field behind the last option, of which 16 bits are stored; a 0 stands for an absent one. -/
def setting (default : UInt16) (given : Option Int) : UInt16 :=
  if given.elim 0 UInt16.ofInt = 0 then default else given.elim 0 UInt16.ofInt

theorem toNat_ofInt (v : Int) : ((UInt16.ofInt v).toNat : Int) = v % 65536 := by
  have positive : 0 ≤ v % 65536 := Int.emod_nonneg v (by decide)
  have below : v % 65536 < 65536 := Int.emod_lt_of_pos v (by decide)
  show ((UInt16.ofNat (v % 65536).toNat).toNat : Int) = v % 65536
  rw [UInt16.toNat_ofNat_of_lt' (show (v % 65536).toNat < 65536 by omega)]
  exact Int.toNat_of_nonneg positive

theorem ofInt_eq_zero_iff (v : Int) : UInt16.ofInt v = 0 ↔ v % 65536 = 0 := by
  rw [← toNat_ofInt, ← UInt16.toNat_inj]
  exact Int.natCast_eq_zero.symm

/-- **What a field holds** for an option that is given. -/
theorem setting_some (default : UInt16) (v : Int) : ((setting default (some v)).toNat : Int) =
    if v % 65536 = 0 then (default.toNat : Int) else v % 65536 := by
  unfold setting
  simp only [Option.elim_some, ofInt_eq_zero_iff]
  split
  · rfl
  · exact toNat_ofInt v

/-- **What an accepted sequence of options leaves behind.** -/
structure Accepted (opts : List Opt) (info : ConnectionInfo) : Prop where
  timeout : info.udpTimeout = setting 250 (lastGiven Opt.timeout opts)
  retransmissions : info.maxUdpRetransmission = setting 3 (lastGiven Opt.retransmissions opts)
  protocol : lastGiven Opt.protocol opts = some info.sockType
  known : info.sockType = SOCK_DGRAM ∨ info.sockType = SOCK_STREAM

theorem parseArgs_ok {opts : List Opt} {info : ConnectionInfo}
    (accepted : parseArgs opts = .ok info) : Accepted opts info := by
  unfold parseArgs at accepted
  split at accepted
  next => cases accepted
  next a made =>
    split at accepted
    next => cases accepted
    next known =>
      cases accepted
      have known : a.cliInfo.sockType = SOCK_DGRAM ∨ a.cliInfo.sockType = SOCK_STREAM := by
        by_contra neither
        exact known (not_or.mp neither)
      have timeout := ArgParser.options_last (fun a => a.cliInfo.udpTimeout) Opt.timeout UInt16.ofInt
        (fun made => (ArgParser.option_takes made).timeout) made
      have retransmissions := ArgParser.options_last (fun a => a.cliInfo.maxUdpRetransmission)
        Opt.retransmissions UInt16.ofInt (fun made => (ArgParser.option_takes made).retransmissions) made
      have protocol := ArgParser.options_last (fun a => a.cliInfo.sockType) Opt.protocol id
        (fun made => (ArgParser.option_takes made).protocol) made
      refine ⟨?_, ?_, ?_, known⟩
      · simp only [ArgParser.defaults, timeout]
        rfl
      · simp only [ArgParser.defaults, retransmissions]
        rfl
      · show lastGiven Opt.protocol opts = some a.cliInfo.sockType
        cases last : lastGiven Opt.protocol opts with
        | some t => rw [protocol, last]; rfl
        | none =>
          -- without `-t` there is no protocol
          rw [protocol, last] at known
          rcases known with none | none
          · exact absurd none (by decide)
          · exact absurd none (by decide)

/-- **Any two integers that an `int` holds can be given** to the timing options, and any other one ends the
program. -/
theorem parseArgs_written (v r : Int) :
    parseArgs [.t (bytes "udp"), .d (decimal.write v), .r (decimal.write r)] =
      if IsInt v ∧ IsInt r then
        .ok ⟨[], bytes "4567", setting 250 (some v), setting 3 (some r), SOCK_DGRAM⟩
      else .error (.uncaught .outOfRange) := by
  have stops : decimal.Stops [] := by simp [Numerals.Stops]
  have number : ∀ v, ArgParser.number (decimal.write v) =
      if IsInt v then .ok v else .error (.uncaught .outOfRange) := by
    intro v
    have read := stoi_write stops v
    rw [List.append_nil] at read
    unfold ArgParser.number
    rw [read]
    split
    · rfl
    · rfl
  have udp : ArgParser.start.option (.t (bytes "udp")) =
      .ok { ArgParser.start with cliInfo.sockType := SOCK_DGRAM } := by decide
  unfold parseArgs
  rw [ArgParser.options, udp]
  simp only [ArgParser.options, ArgParser.option, number]
  by_cases both : IsInt v ∧ IsInt r
  · rw [if_pos both.1, if_pos both.2, if_pos both]
    rfl
  · rw [if_neg both]
    by_cases timeout : IsInt v
    · rw [if_pos timeout, if_neg fun retransmissions => both ⟨timeout, retransmissions⟩]
      rfl
    · rw [if_neg timeout]
      rfl

end Ipk24Chat
