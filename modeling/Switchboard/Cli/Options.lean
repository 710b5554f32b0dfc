import Switchboard.Realtime.Config
/-
# The server's command line: options and help

The server takes only options, no positional arguments: where to listen (`-H` or
`--host`, `-p` or `--port`), the realtime settings (`--allowed-origin`, `--pong-wait-secs`,
`--max-frame-size`, `--egress-capacity`, `--presence-interval-secs`), `--demo` to seed
demo users, and `-h` or `--help`. Every option but `--demo` and `--help` takes one value.

An option is shown, in messages and usage lines, by its long name and then its value
name in angle brackets (`--port <PORT>`). The help text lists every option with its
short and long names, its help line on the next line, and its default.
-/
namespace Switchboard.Cli

def programName : String := "tsunagi-server"

inductive Opt where
  | host
  | port
  | allowedOrigin
  | pongWaitSecs
  | maxFrameSize
  | egressCapacity
  | presenceIntervalSecs
  | demo
  | help
  deriving DecidableEq, Repr

/-- How an option's value is read: any text, a port (a signed integer within `0..=65535`), or an
unsigned 64-bit count. -/
inductive ValueKind where
  | text
  | port
  | count
  deriving DecidableEq, Repr

namespace Opt

def all : List Opt :=
  [.host, .port, .allowedOrigin, .pongWaitSecs, .maxFrameSize, .egressCapacity,
    .presenceIntervalSecs, .demo, .help]

def long : Opt → String
  | .host => "host"
  | .port => "port"
  | .allowedOrigin => "allowed-origin"
  | .pongWaitSecs => "pong-wait-secs"
  | .maxFrameSize => "max-frame-size"
  | .egressCapacity => "egress-capacity"
  | .presenceIntervalSecs => "presence-interval-secs"
  | .demo => "demo"
  | .help => "help"

def short? : Opt → Option Char
  | .host => some 'H'
  | .port => some 'p'
  | .help => some 'h'
  | _ => none

/-- How the value is read, for options that take one. -/
def valueKind? : Opt → Option ValueKind
  | .host | .allowedOrigin => some .text
  | .port => some .port
  | .pongWaitSecs | .maxFrameSize | .egressCapacity | .presenceIntervalSecs => some .count
  | .demo | .help => none

def takesValue (o : Opt) : Bool := o.valueKind?.isSome

/-- The value's name: the long name upper-cased, dashes as underscores. -/
def valueName (o : Opt) : String :=
  String.ofList (o.long.toList.map fun c => if c == '-' then '_' else c.toUpper)

def display (o : Opt) : String :=
  "--" ++ o.long ++ (if o.takesValue then " <" ++ o.valueName ++ ">" else "")

def helpLine : Opt → String
  | .host => "Host address to bind the server to"
  | .port => "Port number to bind the server to"
  | .allowedOrigin => "The only Origin accepted at WebSocket upgrade"
  | .pongWaitSecs => "Read deadline in seconds; pings are sent at 9/10 of it"
  | .maxFrameSize => "Maximum inbound frame size in bytes"
  | .egressCapacity => "Outbound queue capacity per connection"
  | .presenceIntervalSecs => "Presence diff interval in seconds"
  | .demo => "Seed demo users (alice / bob / carol) and sessions"
  | .help => "Print help"

/-- The default value's text, for options that have one. -/
def default? : Opt → Option String
  | .host => some "127.0.0.1"
  | .port => some "8080"
  | .allowedOrigin => some defaultAllowedOrigin
  | .pongWaitSecs => some "10"
  | .maxFrameSize => some "4096"
  | .egressCapacity => some "256"
  | .presenceIntervalSecs => some "5"
  | .demo | .help => none

def ofLong? (name : String) : Option Opt := all.find? (·.long == name)

def ofShort? (c : Char) : Option Opt := all.find? (·.short? == some c)

def helpEntry (o : Opt) : String :=
  let names := match o.short? with
    | some c => "  -" ++ String.singleton c ++ ", "
    | none => "      "
  let value := if o.takesValue then " <" ++ o.valueName ++ ">" else ""
  let dflt := match o.default? with
    | some d => " [default: " ++ d ++ "]"
    | none => ""
  names ++ "--" ++ o.long ++ value ++ "\n          " ++ o.helpLine ++ dflt ++ "\n"

end Opt

def plainUsage : String := programName ++ " [OPTIONS]"

def helpText : String :=
  "Real-time presence and messaging server\n\nUsage: " ++ plainUsage ++ "\n\nOptions:\n" ++
    String.join (Opt.all.map Opt.helpEntry)

end Switchboard.Cli
