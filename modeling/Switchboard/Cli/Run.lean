import Switchboard.Cli.Parse
import Switchboard.Store.Basic
/-
# Running the server from the command line

A command line that asks for help prints the help text and exits with 0; one that is
refused prints the refusal on the error stream and exits with 2. Otherwise the server
seeds the demo users when asked, starts the realtime core, and binds its listener.

Binding needs an address: any IPv4 address (dotted, each part decimal, octal with a
leading zero, or hex after `0x`, the last part filling the bytes left), an IPv6
address of this host (see `ipv6Bindable`), or `localhost` in any ASCII case; names
that need a lookup find none. A failed bind logs a server error and exits with 1. A
bound server logs that it listens and serves until a termination signal or an
interrupt arrives, then shuts the realtime core down, logs that it is done, and exits
with 0.

Every run past the command line logs to standard output, one timestamped line per
event; the outcome then leaves standard output out.
-/
namespace Switchboard.Cli

open Text

/-- A signal asking the server to stop: a termination request, or an interrupt as from Ctrl+C. -/
inductive Signal where
  | terminate
  | interrupt
  deriving DecidableEq, Repr

/-- How a run ended, as seen from outside. The exit status is none when the run had to be stopped
from outside, and standard output none when it holds log lines. -/
structure Outcome where
  exitCode : Option Nat
  timedOut : Bool := false
  listening : Bool := false
  seededDemo : Bool := false
  received : Option Signal := none
  shutdownComplete : Bool := false
  serverError : Bool := false
  stdout : Option String := some ""
  stderr : String := ""
  deriving DecidableEq, Repr

/-- The users, sessions, group and follow of the demo. -/
def demoStore : Store :=
  let users : List (Int × String × Bool) := [(1, "alice", true), (2, "bob", true), (3, "carol", false)]
  let s := users.foldl (fun s (id, name, isPublic) =>
    ((s.addUser ⟨⟨id⟩, name, isPublic⟩).openSession (name ++ "-token") ⟨id⟩).addGroupMember ⟨1⟩ ⟨id⟩)
    ({} : Store)
  s.follow ⟨3⟩ ⟨1⟩

/-- The value of a number in one part of an IPv4 address: decimal, octal after a
leading zero, hex after `0x`. -/
def addressPart (s : String) : Option Nat :=
  let cs := s.toList
  let digitsIn (base : Nat) (ds : List Char) : Option Nat :=
    ds.foldl (fun acc c => acc.bind fun n =>
      let d := if c.isDigit then some (c.toNat - '0'.toNat)
        else if 'a' ≤ c.toLower && c.toLower ≤ 'f' then some (c.toLower.toNat - 'a'.toNat + 10)
        else none
      d.bind fun d => if d < base then some (n * base + d) else none) (some 0)
  match cs with
  | [] => none
  | '0' :: 'x' :: hs | '0' :: 'X' :: hs => digitsIn 16 hs
  | '0' :: os => digitsIn 8 os
  | ds => digitsIn 10 ds

/-- An IPv4 address as the resolver reads it: one to four parts, every part but the
last a byte, the last filling the bytes left. -/
def isIpv4 (h : String) : Bool :=
  let parts := h.splitOn "."
  match parts.mapM addressPart with
  | none => false
  | some ns =>
    let k := ns.length
    1 ≤ k && k ≤ 4 && (ns.dropLast.all (· < 256)) && ns.getLast?.all (· < Nat.pow 256 (5 - k))

def decimalByte? (p : String) : Option Nat :=
  let cs := p.toList
  if cs.isEmpty || cs.length > 3 || !cs.all Char.isDigit || (cs.length > 1 && cs.head? == some '0') then
    none
  else (p.toNat?).filter (· < 256)

def hexGroup? (g : String) : Option Nat :=
  let cs := g.toList
  if cs.isEmpty || cs.length > 4 then none
  else
    cs.foldl (fun acc c => acc.bind fun n =>
      if c.isDigit then some (n * 16 + (c.toNat - '0'.toNat))
      else if 'a' ≤ c.toLower && c.toLower ≤ 'f' then some (n * 16 + (c.toLower.toNat - 'a'.toNat + 10))
      else none) (some 0)

/-- A strict dotted IPv4 address (four decimal bytes) as two 16-bit groups. -/
def dottedQuadGroups? (s : String) : Option (List Nat) :=
  match (s.splitOn ".").mapM decimalByte? with
  | some [a, b, c, d] => some [a * 256 + b, c * 256 + d]
  | _ => none

/-- The 16-bit groups a run of colon-separated groups stands for; only the last may be a
dotted IPv4 address, which stands for two. -/
def groupsOf? (groups : List String) (tailMayBeQuad : Bool) : Option (List Nat) :=
  match groups.getLast? with
  | none => some []
  | some last => do
    let front ← groups.dropLast.mapM hexGroup?
    match hexGroup? last with
    | some g => some (front ++ [g])
    | none => if tailMayBeQuad then (dottedQuadGroups? last).map (front ++ ·) else none

/-- The eight groups of an IPv6 address, bracketed or not: eight written out, or fewer
around one `::` that stands for at least one zero group; a dotted IPv4 address may end
it. -/
def ipv6Groups? (h : String) : Option (List Nat) :=
  let inner := if h.startsWith "[" && h.endsWith "]" then ((h.drop 1).dropEnd 1).toString else h
  let runOf (s : String) : List String := if s.isEmpty then [] else s.splitOn ":"
  match inner.splitOn "::" with
  | [whole] => (groupsOf? (whole.splitOn ":") true).filter (·.length == 8)
  | [before, after] =>
    match groupsOf? (runOf before) false, groupsOf? (runOf after) true with
    | some b, some a =>
      if b.length + a.length ≤ 7 then some (b ++ List.replicate (8 - b.length - a.length) 0 ++ a)
      else none
    | _, _ => none
  | _ => none

/-- An IPv6 address the listener can bind to: the unspecified address, the loopback, an
IPv4-mapped address (IPv4 binds to any address), or a multicast address whose scope
does not name an interface. Other unicast addresses are not the host's own, and a
link-local one would need an interface. -/
def ipv6Bindable : List Nat → Bool
  | [0, 0, 0, 0, 0, 0, 0, 0] => true
  | [0, 0, 0, 0, 0, 0, 0, 1] => true
  | [0, 0, 0, 0, 0, 0xFFFF, _, _] => true
  | g :: _ => 0xFF00 ≤ g && g % 256 != 1 && g % 256 != 2
  | [] => false

def bindable (host : String) : Bool :=
  isIpv4 host || (ipv6Groups? host).any ipv6Bindable || asciiLower host == "localhost"
where
  asciiLower (s : String) : String := s.map Char.toLower

/-- The outcome of running the server with these arguments, stopped by `signal` once it
listens, or left running when none comes. -/
def runOutcome (args : List String) (signal : Option Signal) : Outcome :=
  match parseArgs args with
  | .error .help => { exitCode := some 0, stdout := some helpText }
  | .error (.refused e) => { exitCode := some 2, stderr := e.render }
  | .ok s =>
    let ran : Outcome := { exitCode := none, seededDemo := s.demo, stdout := none }
    if !bindable s.host then { ran with exitCode := some 1, serverError := true }
    else
      match signal with
      | some sig =>
        { ran with exitCode := some 0, listening := true, received := some sig, shutdownComplete := true }
      | none => { ran with timedOut := true, listening := true }

def seededLine : String := "Seeded demo users: alice-token, bob-token, carol-token (group 1)"

def listeningLines (s : Settings) : List String :=
  let addr := s.host ++ ":" ++ toString s.port
  ["Realtime server listening on " ++ addr, "Connect to: ws://" ++ addr ++ "/ws",
    "Press Ctrl+C to shutdown gracefully"]

def receivedLine : Signal → String
  | .terminate => "Received SIGTERM, shutting down gracefully"
  | .interrupt => "Received Ctrl+C, shutting down gracefully"

def shutdownLine : String := "Server shutdown complete"

end Switchboard.Cli
