import DeferredJobs.Report.Watch
import DeferredJobs.Yaml.Repetition
import DeferredJobs.Yaml.Printer

/-!
# Command line

The program reads a file of job records and either checks them once (`check FILE`) or watches them
(`watch FILE`). `Invocation.ofArguments` understands the arguments, `Invocation.load` the content
of the file, and `Invocation.report` gives what is printed.

* **Options** of the program may stand before or after the command, each at most once in either
  place. A value given after the command wins.
* **Values** follow their option directly, after an equals sign, or as the next argument; letters
  of options without a value may be run together.
-/

namespace DeferredJobs

/-- What is wrong with the arguments. -/
inductive UsageError where
  | unknownOption (argument : String)
  | unexpectedValue (option : String)
  | missingValue (option : String)
  | invalidValue (value : String)
  | repeatedOption
  | unexpectedArgument (argument : String)
  | missingCommand
  | missingFile
  | emptyFile
deriving DecidableEq

/-- The error in words. -/
def UsageError.message : UsageError → String
  | unknownOption a => "unknown option " ++ a
  | unexpectedValue o => "option " ++ o ++ " takes no value"
  | missingValue o => "option " ++ o ++ " needs a value"
  | invalidValue v => "invalid value " ++ v
  | repeatedOption => "an option is given twice"
  | unexpectedArgument a => "unexpected argument " ++ a
  | missingCommand => "a command is missing"
  | missingFile => "a file is missing"
  | emptyFile => "the name of a file is empty"

/-- The commands of the program. -/
inductive CommandName where
  | check
  | watch
deriving DecidableEq

def CommandName.ofString? : String → Option CommandName
  | "check" => some .check
  | "watch" => some .watch
  | _ => none

/-! ### Options -/

/-- An option by its name. -/
inductive OptionName where
  | network
  | unmetered
  | debug
  | now
  | interval
deriving DecidableEq

namespace OptionName

/-- Every option with its letter and its word. -/
def table : List (OptionName × Char × String) :=
  [(network, 'n', "network"), (unmetered, 'u', "unmetered"), (debug, 'd', "debug"),
    (now, 't', "now-ns"), (interval, 'i', "interval-ms")]

/-- Whether an option may stand after a command, or before any. Only a watch has an interval. -/
def allowedAfter (command : Option CommandName) : OptionName → Bool
  | interval => command == some .watch
  | _ => true

def ofLetter? (command : Option CommandName) (c : Char) : Option OptionName :=
  (table.find? fun (o, letter, _) => letter == c && o.allowedAfter command).map (·.1)

def ofWord? (command : Option CommandName) (w : String) : Option OptionName :=
  (table.find? fun (o, _, word) => word == w && o.allowedAfter command).map (·.1)

def takesValue : OptionName → Bool
  | now | interval => true
  | _ => false

end OptionName

/-- The options given in one place. -/
structure Given where
  network : Bool := false
  unmetered : Bool := false
  debug : Bool := false
  now : Option Nanos := none
  interval : Option UInt64 := none

/-- The number that decimal digits stand for, of which there is at least one. -/
def digitsValue? (ds : List Char) : Option Nat :=
  if ds.isEmpty || !ds.all Char.isDigit then none
  else some (ds.foldl (fun n c => n * 10 + (c.toNat - '0'.toNat)) 0)

/-- A clock reading in decimal digits, with a sign or without. -/
def readNanos? (s : String) : Option Nanos := do
  let n : Int ← match s.toList with
    | '-' :: ds => (digitsValue? ds).map fun n => -(n : Int)
    | '+' :: ds => (digitsValue? ds).map Int.ofNat
    | ds => (digitsValue? ds).map Int.ofNat
  if Int64.minValue.toInt ≤ n ∧ n ≤ Int64.maxValue.toInt then some (Int64.ofInt n) else none

/-- A number of milliseconds in decimal digits, with a plus sign or without. -/
def readMillis? (s : String) : Option UInt64 := do
  let n ← match s.toList with
    | '+' :: ds => digitsValue? ds
    | ds => digitsValue? ds
  if n < UInt64.size then some (UInt64.ofNat n) else none

namespace Given

/-- Sets an option without a value. -/
def setFlag (g : Given) : OptionName → Except UsageError Given
  | .network => if g.network then .error .repeatedOption else .ok { g with network := true }
  | .unmetered => if g.unmetered then .error .repeatedOption else .ok { g with unmetered := true }
  | .debug => if g.debug then .error .repeatedOption else .ok { g with debug := true }
  | .now => .error (.missingValue "--now-ns")
  | .interval => .error (.missingValue "--interval-ms")

/-- Sets an option with a value. -/
def setValue (g : Given) (value : String) : OptionName → Except UsageError Given
  | .now =>
    match readNanos? value with
    | none => .error (.invalidValue value)
    | some now => if g.now.isSome then .error .repeatedOption else .ok { g with now := some now }
  | .interval =>
    match readMillis? value with
    | none => .error (.invalidValue value)
    | some ms =>
      if g.interval.isSome then .error .repeatedOption else .ok { g with interval := some ms }
  | _ => .error (.unexpectedValue value)

/-- Reads letters that stand together after a dash. The last option may still wait for its
value. -/
def readLetters (command : Option CommandName) (g : Given) :
    List Char → Except UsageError (Given × Option OptionName)
  | [] => .ok (g, none)
  | c :: cs =>
    match OptionName.ofLetter? command c with
    | none => .error (.unknownOption (String.ofList ['-', c]))
    | some o =>
      if o.takesValue then
        match cs with
        | [] => .ok (g, some o)
        | '=' :: value => return (← g.setValue (String.ofList value) o, none)
        | value => return (← g.setValue (String.ofList value) o, none)
      else
        match g.setFlag o with
        | .error e => .error e
        | .ok g => g.readLetters command cs

/-- Reads a word after two dashes. The option may still wait for its value. -/
def readWord (command : Option CommandName) (g : Given) (cs : List Char) :
    Except UsageError (Given × Option OptionName) :=
  let word := String.ofList (cs.takeWhile (· != '='))
  match OptionName.ofWord? command word with
  | none => .error (.unknownOption ("--" ++ word))
  | some o =>
    match cs.dropWhile (· != '='), o.takesValue with
    | [], true => .ok (g, some o)
    | [], false => return (← g.setFlag o, none)
    | _ :: value, true => return (← g.setValue (String.ofList value) o, none)
    | _, false => .error (.unexpectedValue ("--" ++ word))

end Given

/-! ### Arguments -/

/-- The form of an argument. A single dash is an ordinary one. -/
inductive Argument where
  /-- Two dashes, after which no options follow. -/
  | endOfOptions
  | word (cs : List Char)
  | letters (cs : List Char)
  | ordinary (s : String)

def Argument.ofString (s : String) : Argument :=
  match s.toList with
  | ['-', '-'] => endOfOptions
  | '-' :: '-' :: cs => word cs
  | '-' :: c :: cs => letters (c :: cs)
  | _ => ordinary s

/-- Reads options up to the first ordinary argument or the end of options, and returns what
follows: the arguments from there on, and whether options may still follow. -/
def readOptions (command : Option CommandName) (g : Given) :
    List String → Except UsageError (Given × List String × Bool)
  | [] => .ok (g, [], true)
  | a :: as => do
    let (g, pending) ← match Argument.ofString a with
      | .endOfOptions => return (g, as, false)
      | .ordinary _ => return (g, a :: as, true)
      | .word cs => g.readWord command cs
      | .letters cs => g.readLetters command cs
    match pending, as with
    | none, as => readOptions command g as
    | some _, [] => .error (.missingValue a)
    | some o, value :: as =>
      let g ← g.setValue value o
      readOptions command g as

/-- Reads the arguments after a command: options and one file, in any order. -/
def readCommandArguments (command : CommandName) (args : List String) :
    Except UsageError (Given × String) := do
  let (g, args, optionsFollow) ← readOptions (some command) {} args
  match args with
  | [] => .error .missingFile
  | file :: rest =>
    if file.isEmpty then .error .emptyFile
    let (g, extra, _) ←
      if optionsFollow then
        readOptions (some command) g rest
      else .ok (g, rest, false)
    match extra with
    | [] => return (g, file)
    | a :: _ => .error (.unexpectedArgument a)

/-! ### Invocations -/

/-- What the program is asked to do. -/
structure Invocation where
  command : CommandName
  file : String
  connectivity : Connectivity
  now : Nanos
  debug : Bool
  /-- The time between the ticks of a watch. -/
  intervalMillis : UInt64

/-- Why an invocation fails. -/
inductive RunError where
  | unreadable (file : String)
  | malformed
deriving DecidableEq

/-- The error in words. -/
def RunError.message : RunError → String
  | unreadable file => "reading " ++ file
  | malformed => "parsing job records"

namespace Invocation

/-- What the arguments after the program's name ask for. -/
def ofArguments (args : List String) : Except UsageError Invocation := do
  let (before, args, optionsFollow) ← readOptions none {} args
  match args with
  | [] => .error .missingCommand
  | name :: args =>
    match if optionsFollow then CommandName.ofString? name else none with
    | none => .error (.unexpectedArgument name)
    | some command =>
      let (after, file) ← readCommandArguments command args
      return {
        command
        file
        connectivity := .ofSignals (before.network || after.network)
          (before.unmetered || after.unmetered)
        now := (after.now.or before.now).getD 0
        debug := before.debug || after.debug
        intervalMillis := max 1 (after.interval.getD 1000) }

/-- The records in the content of the file, which is missing where the file cannot be read. -/
def load (i : Invocation) (content : Option String) : Except RunError (List Record) :=
  match content with
  | none => .error (.unreadable i.file)
  | some text =>
    match Encoding.decodeYaml text with
    | none => .error .malformed
    | some records => .ok records

/-- What is printed for loaded records: the verdicts on them. A watch prints its notices only. -/
def report (i : Invocation) (records : List Record) : String :=
  match i.command with
  | .check =>
    (Encoding.Tree.list ((check records i.now i.connectivity).map Verdict.encode)).toYaml
  | .watch => ""

end Invocation

end DeferredJobs
