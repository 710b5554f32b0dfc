import Switchboard.Cli.Suggest
import Switchboard.Text.Integer
/-
# Reading the command line

The arguments are read left to right.

* `--name` or `--name=value` is a long option, `-x` a short one; a short option that
  takes a value takes the rest of its argument (after an optional `=`) when there is
  any, and short flags may share one argument. An option that takes a value and has
  none attached takes the next argument, unless that one looks like an option itself.
* `--` ends the options; every argument after it, and every argument that is not an
  option or an option's value, is unexpected, since the command has no positional
  arguments.
* An option's value is read when the option is complete: at the next option or at the
  end. So an unknown argument right after an option with a bad value is reported as
  unknown, while the next known option reports the bad value first.
* An option given twice is refused, as is a value attached to `--demo` or `--help`.
  `--help` prints the help as soon as it is reached.

The usage line in a refusal names the options recognised so far when the refusal is
about an unknown long option or an attached value (an unknown long option counts the
option suggested instead of it); otherwise it is the bare usage.
-/
namespace Switchboard.Cli

open Text

/-- What the command line sets. -/
structure Settings where
  host : String := "127.0.0.1"
  port : Nat := 8080
  allowedOrigin : String := defaultAllowedOrigin
  pongWaitSecs : Nat := 10
  maxFrameSize : Nat := 4096
  egressCapacity : Nat := 256
  presenceIntervalSecs : Nat := 5
  demo : Bool := false
  deriving DecidableEq, Repr

def Settings.config (s : Settings) : Config :=
  { allowedOrigin := s.allowedOrigin, pongWait := Time.Duration.ofSecs s.pongWaitSecs,
    maxFrameSize := s.maxFrameSize, egressCapacity := s.egressCapacity,
    presenceInterval := Time.Duration.ofSecs s.presenceIntervalSecs }

/-- Why a command line was refused: an argument that is no option (with the option suggested
instead), a value the option cannot take, a missing value, an option given twice, or a value
attached to an option that takes none. -/
inductive CliError where
  | unknownArgument (arg : String) (suggestion : Option Opt) (usage : String)
  | invalidValue (opt : Opt) (value : String) (reason : String)
  | missingValue (opt : Opt)
  | repeated (opt : Opt)
  | unexpectedValue (opt : Opt) (value : String) (usage : String)
  deriving DecidableEq, Repr

def tryHelp : String := "\n\nFor more information, try '--help'.\n"

/-- The text of a refusal, as printed on the error stream. -/
def CliError.render : CliError → String
  | .unknownArgument arg sug usage =>
    let tip := match sug with
      | some o => "\n\n  tip: a similar argument exists: '--" ++ o.long ++ "'"
      | none => ""
    "error: unexpected argument '" ++ arg ++ "' found" ++ tip ++ "\n\nUsage: " ++ usage ++ tryHelp
  | .invalidValue o v reason =>
    "error: invalid value '" ++ v ++ "' for '" ++ o.display ++ "': " ++ reason ++ tryHelp
  | .missingValue o => "error: a value is required for '" ++ o.display ++ "' but none was supplied" ++ tryHelp
  | .repeated o =>
    "error: the argument '" ++ o.display ++ "' cannot be used multiple times\n\nUsage: " ++ plainUsage ++
      tryHelp
  | .unexpectedValue o v usage =>
    "error: unexpected value '" ++ v ++ "' for '" ++ o.display ++ "' found; no more were expected" ++
      "\n\nUsage: " ++ usage ++ tryHelp

/-- The usage line naming the options recognised so far. -/
def usageWith (used : List Opt) : String :=
  if used.isEmpty then plainUsage else programName ++ String.join (used.map fun o => " " ++ o.display)

/-- Why reading stopped early: help was asked for, or the command line was refused. -/
inductive Stop where
  | help
  | refused (e : CliError)
  deriving DecidableEq, Repr

/-- The reader's state: the settings so far, the options recognised so far (first recognition
first), an option still to complete with the value it has (at most one), and whether `--` was
seen. -/
structure Reader where
  settings : Settings := {}
  used : List Opt := []
  pending : Option (Opt × List String) := none
  afterEscape : Bool := false

def addUsed (used : List Opt) (o : Opt) : List Opt := if used.contains o then used else used ++ [o]

def setValue (s : Settings) (o : Opt) (v : String) : Except CliError Settings :=
  let bad (reason : String) : Except CliError Settings := .error (.invalidValue o v reason)
  let count (f : Nat → Settings) : Except CliError Settings :=
    match readUInt64 v with
    | .ok n => .ok (f n)
    | .error e => bad e.message
  match o with
  | .host => .ok { s with host := v }
  | .allowedOrigin => .ok { s with allowedOrigin := v }
  | .port =>
    match readInt64 v with
    | .error e => bad e.message
    | .ok n =>
      if 0 ≤ n && n ≤ 65535 then .ok { s with port := n.toNat }
      else bad (toString n ++ " is not in 0..=65535")
  | .pongWaitSecs => count fun n => { s with pongWaitSecs := n }
  | .maxFrameSize => count fun n => { s with maxFrameSize := n }
  | .egressCapacity => count fun n => { s with egressCapacity := n }
  | .presenceIntervalSecs => count fun n => { s with presenceIntervalSecs := n }
  | .demo => .ok { s with demo := true }
  | .help => .ok s

/-- Takes in a complete option with its values. An option recognised for the first
time is counted as recognised even when its value is then refused. -/
def Reader.take (r : Reader) (o : Opt) (vals : List String) : Reader × Option Stop :=
  if o == .help then (r, some .help)
  else if o.takesValue && vals.isEmpty then (r, some (.refused (.missingValue o)))
  else if r.used.contains o then (r, some (.refused (.repeated o)))
  else
    let r := { r with used := r.used ++ [o] }
    match setValue r.settings o (vals.headD "") with
    | .ok s => ({ r with settings := s }, none)
    | .error e => (r, some (.refused e))

def Reader.resolve (r : Reader) : Reader × Option Stop :=
  match r.pending with
  | none => (r, none)
  | some (o, vals) => { r with pending := none }.take o vals

/-- Completes the pending option, then takes in an option with its values. -/
def Reader.react (r : Reader) (o : Opt) (vals : List String) : Except Stop Reader :=
  match r.resolve with
  | (_, some stop) => .error stop
  | (r, none) =>
    match r.take o vals with
    | (_, some stop) => .error stop
    | (r, none) => .ok r

def Reader.await (r : Reader) (o : Opt) : Except Stop Reader :=
  match r.resolve with
  | (_, some stop) => .error stop
  | (r, none) => .ok { r with pending := some (o, []) }

def unexpectedArg (arg : String) : Except Stop Reader :=
  .error (.refused (.unknownArgument arg none plainUsage))

/-- Refuses an unknown long option, suggesting a similar one. -/
def Reader.unknownLong (r : Reader) (name : String) : Except Stop Reader :=
  let used := r.resolve.1.used
  let sug := suggestLong name
  let used := match sug with | some o => addUsed used o | none => used
  .error (.refused (.unknownArgument ("--" ++ name) sug (usageWith used)))

def Reader.long (r : Reader) (name : String) (value : Option String) : Except Stop Reader :=
  match Opt.ofLong? name with
  | none => r.unknownLong name
  | some o =>
    if o.takesValue then
      match value with
      | some v => r.react o [v]
      | none => r.await o
    else
      match value with
      | some v => .error (.refused (.unexpectedValue o v (usageWith (addUsed r.used o))))
      | none => r.react o []

def Reader.shorts (r : Reader) : List Char → Except Stop Reader
  | [] => .ok r
  | c :: rest =>
    match Opt.ofShort? c with
    | none => .error (.refused (.unknownArgument ("-" ++ String.singleton c) none plainUsage))
    | some o =>
      if o.takesValue then
        match rest with
        | [] => r.await o
        | '=' :: v => r.react o [String.ofList v]
        | v => r.react o [String.ofList v]
      else
        match r.react o [] with
        | .ok r => r.shorts rest
        | .error stop => .error stop

def splitLong (body : String) : String × Option String :=
  match body.splitOn "=" with
  | [] => (body, none)
  | [name] => (name, none)
  | name :: rest => (name, some ("=".intercalate rest))

def Reader.step (r : Reader) (arg : String) : Except Stop Reader :=
  if r.afterEscape then unexpectedArg arg
  else if arg == "--" then .ok { r with afterEscape := true }
  else if arg.startsWith "--" then
    let (name, value) := splitLong (arg.drop 2).toString
    r.long name value
  else if arg.startsWith "-" && arg != "-" then r.shorts (arg.drop 1).toString.toList
  else
    match r.pending with
    | some (o, []) => .ok { r with pending := some (o, [arg]) }
    | _ => unexpectedArg arg

def Reader.run (r : Reader) : List String → Except Stop Reader
  | [] => .ok r
  | a :: rest =>
    match r.step a with
    | .ok r => r.run rest
    | .error stop => .error stop

/-- Reads a command line: the settings, or why it stopped. -/
def parseArgs (args : List String) : Except Stop Settings :=
  match ({} : Reader).run args with
  | .error stop => .error stop
  | .ok r =>
    match r.resolve with
    | (_, some stop) => .error stop
    | (r, none) => .ok r.settings

end Switchboard.Cli
