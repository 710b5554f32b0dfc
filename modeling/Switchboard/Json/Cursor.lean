import Switchboard.Json.Value
import Switchboard.Decimal.Nearest
/-
# Reading JSON text: positions, strings and numbers

A reader walks the text with a `Cursor`: the characters left, the position reached,
and how many more arrays or objects may still be opened (128 at the start). A position
is a line (from 1) and a column that counts the bytes read on that line. An error is
reported either where the reader stands, or one byte further when it is about the byte
it looked at without taking it (at the end of the text, where it stands).

Strings take the escapes `\" \\ \/ \b \f \n \r \t` and `\uXXXX`; a high surrogate must
be followed by `\u` and a low one. A control character, an unknown escape or a stray
low surrogate is an error.

Numbers follow the JSON grammar. An integer without fraction or exponent stays exact
when it fits 64 bits unsigned, or 64 bits signed for a negative one (`-0` is the double
`-0.0`). Otherwise the digits are gathered into a 64-bit significand, digits past its
capacity dropped (those before the point still count in the exponent), and the
significand, rounded to a double, is multiplied or divided by the double nearest to
`10^|exponent|`; beyond `10^308` a negative exponent divides by `10^308` in steps, and
a product that overflows is "number out of range".
-/
namespace Switchboard.Json

/-- What went wrong while reading JSON text; `message` is a record decoder's complaint (a wrong
type, a missing or repeated field). -/
inductive ReadErrorCode where
  | eofList
  | eofObject
  | eofString
  | eofValue
  | expectedColon
  | expectedListCommaOrEnd
  | expectedObjectCommaOrEnd
  | expectedIdent
  | expectedValue
  | invalidEscape
  | invalidNumber
  | numberOutOfRange
  | controlCharacter
  | keyMustBeString
  | loneLeadingSurrogate
  | trailingComma
  | trailingCharacters
  | unexpectedEndOfHexEscape
  | recursionLimit
  | message (text : String)

def ReadErrorCode.text : ReadErrorCode → String
  | .eofList => "EOF while parsing a list"
  | .eofObject => "EOF while parsing an object"
  | .eofString => "EOF while parsing a string"
  | .eofValue => "EOF while parsing a value"
  | .expectedColon => "expected `:`"
  | .expectedListCommaOrEnd => "expected `,` or `]`"
  | .expectedObjectCommaOrEnd => "expected `,` or `\x7d`"
  | .expectedIdent => "expected ident"
  | .expectedValue => "expected value"
  | .invalidEscape => "invalid escape"
  | .invalidNumber => "invalid number"
  | .numberOutOfRange => "number out of range"
  | .controlCharacter => "control character (\\u0000-\\u001F) found while parsing a string"
  | .keyMustBeString => "key must be a string"
  | .loneLeadingSurrogate => "lone leading surrogate in hex escape"
  | .trailingComma => "trailing comma"
  | .trailingCharacters => "trailing characters"
  | .unexpectedEndOfHexEscape => "unexpected end of hex escape"
  | .recursionLimit => "recursion limit exceeded"
  | .message t => t

/-- A place in the text: line from 1, column in bytes from the line start. -/
structure Pos where
  line : Nat
  column : Nat

def Pos.after (p : Pos) (c : Char) : Pos :=
  if c = '\n' then ⟨p.line + 1, 0⟩ else ⟨p.line, p.column + c.utf8Size⟩

/-- The place after one more byte, the first byte of `c`. -/
def Pos.afterByte (p : Pos) (c : Char) : Pos :=
  if c = '\n' then ⟨p.line + 1, 0⟩ else ⟨p.line, p.column + 1⟩

structure ReadError where
  code : ReadErrorCode
  pos : Pos

/-- `<what> at line L column C`. -/
def ReadError.text (e : ReadError) : String :=
  e.code.text ++ " at line " ++ toString e.pos.line ++ " column " ++ toString e.pos.column

structure Cursor where
  rest : List Char
  pos : Pos
  depth : Nat

/-- The start of a text; 128 arrays or objects may be open at once. -/
def Cursor.start (s : String) : Cursor := ⟨s.toList, ⟨1, 0⟩, 128⟩

def Cursor.peek (c : Cursor) : Option Char := c.rest.head?

def Cursor.next (c : Cursor) : Cursor :=
  match c.rest with
  | ch :: t => { c with rest := t, pos := c.pos.after ch }
  | [] => c

/-- The place one byte on, or here at the end. -/
def Cursor.peekPos (c : Cursor) : Pos :=
  match c.rest with
  | ch :: _ => c.pos.afterByte ch
  | [] => c.pos

def Cursor.fail (c : Cursor) (code : ReadErrorCode) : ReadError := ⟨code, c.pos⟩

def Cursor.failPeek (c : Cursor) (code : ReadErrorCode) : ReadError := ⟨code, c.peekPos⟩

/-- Takes `k` characters known to be single-byte and not line breaks. -/
def Cursor.skipAscii (c : Cursor) (k : Nat) : Cursor :=
  { c with rest := c.rest.drop k, pos := ⟨c.pos.line, c.pos.column + k⟩ }

def isJsonBlank (c : Char) : Bool := c == ' ' || c == '\n' || c == '\t' || c == '\r'

/-- Drops white space, keeping count of the place. -/
def skipBlanks : List Char → Pos → List Char × Pos
  | ch :: t, p => if isJsonBlank ch then skipBlanks t (p.after ch) else (ch :: t, p)
  | [], p => ([], p)

def Cursor.skipWs (c : Cursor) : Cursor :=
  let (r, p) := skipBlanks c.rest c.pos
  { c with rest := r, pos := p }

def endPos : List Char → Pos → Pos
  | ch :: t, p => endPos t (p.after ch)
  | [], p => p

/-- The place `k` bytes on, counting into a character if one is cut; `none` if fewer
than `k` bytes are left. -/
def bytesOn : List Char → Pos → Nat → Option Pos
  | _, p, 0 => some p
  | ch :: t, p, k + 1 =>
    if ch.utf8Size ≤ k + 1 then bytesOn t (p.after ch) (k + 1 - ch.utf8Size)
    else some ⟨p.line, p.column + k + 1⟩
  | [], _, _ + 1 => none

def hexValue (c : Char) : Option Nat :=
  if '0' ≤ c ∧ c ≤ '9' then some (c.toNat - 48)
  else if 'a' ≤ c ∧ c ≤ 'f' then some (c.toNat - 87)
  else if 'A' ≤ c ∧ c ≤ 'F' then some (c.toNat - 55)
  else none

/-- The four bytes after `\u` as a number. Fewer than four bytes left is the end of the
string; four that are not all hex digits are an invalid escape, reported after them. -/
def Cursor.hex4 (c : Cursor) : Except ReadError (Nat × Cursor) :=
  let digits := match c.rest with
    | a :: b :: d :: e :: _ =>
      match hexValue a, hexValue b, hexValue d, hexValue e with
      | some w, some x, some y, some z => some (((w * 16 + x) * 16 + y) * 16 + z)
      | _, _, _, _ => none
    | _ => none
  match digits with
  | some n => .ok (n, c.skipAscii 4)
  | none =>
    match bytesOn c.rest c.pos 4 with
    | some p => .error ⟨.invalidEscape, p⟩
    | none => .error ⟨.eofString, endPos c.rest c.pos⟩

/-- The character a `\u` escape stands for, starting after the `u`: one code unit, or a
surrogate pair written as two escapes. -/
def Cursor.unicodeEscape (c : Cursor) : Except ReadError (Char × Cursor) := do
  let (n, c) ← c.hex4
  if 0xDC00 ≤ n ∧ n ≤ 0xDFFF then throw (c.fail .loneLeadingSurrogate)
  if n < 0xD800 ∨ n > 0xDBFF then return (Char.ofNat n, c)
  match c.rest with
  | [] => throw (c.fail .eofString)
  | '\\' :: _ =>
    let c := c.next
    match c.rest with
    | [] => throw (c.fail .eofString)
    | 'u' :: _ =>
      let (n2, c) ← c.next.hex4
      if n2 < 0xDC00 ∨ n2 > 0xDFFF then throw (c.fail .loneLeadingSurrogate)
      return (Char.ofNat (((n - 0xD800) * 1024 + (n2 - 0xDC00)) + 0x10000), c)
    | _ :: _ => throw (c.failPeek .unexpectedEndOfHexEscape)
  | _ :: _ => throw (c.failPeek .unexpectedEndOfHexEscape)

def Cursor.escape (c : Cursor) : Except ReadError (Char × Cursor) :=
  match c.rest with
  | [] => .error (c.fail .eofString)
  | e :: _ =>
    match e with
    | '"' => .ok ('"', c.next)
    | '\\' => .ok ('\\', c.next)
    | '/' => .ok ('/', c.next)
    | 'b' => .ok ('\x08', c.next)
    | 'f' => .ok ('\x0c', c.next)
    | 'n' => .ok ('\n', c.next)
    | 'r' => .ok ('\r', c.next)
    | 't' => .ok ('\t', c.next)
    | 'u' => c.next.unicodeEscape
    | _ => .error (c.failPeek .invalidEscape)

/-- The rest of a string literal after its opening quote, up to and with the closing
quote; `fuel` bounds the characters left. -/
def Cursor.stringBody (fuel : Nat) (c : Cursor) (acc : List Char) :
    Except ReadError (String × Cursor) :=
  match fuel with
  | 0 => .error (c.fail .eofString)
  | fuel + 1 =>
    match c.rest with
    | [] => .error (c.fail .eofString)
    | '"' :: _ => .ok (String.ofList acc.reverse, c.next)
    | '\\' :: _ => do
      let (ch, c') ← c.next.escape
      c'.stringBody fuel (ch :: acc)
    | ch :: _ =>
      if ch.toNat < 0x20 then .error (c.failPeek .controlCharacter)
      else c.next.stringBody fuel (ch :: acc)

def Cursor.string (c : Cursor) : Except ReadError (String × Cursor) :=
  c.stringBody (c.rest.length + 1) []

def u64Max : Nat := Nat.pow 2 64 - 1

def i32Max : Nat := Nat.pow 2 31 - 1

def leadingDigits : List Char → List Nat
  | c :: t => if c.isDigit then (c.toNat - 48) :: leadingDigits t else []
  | [] => []

/-- Appends digits to a significand while it stays within 64 bits; how many it took. -/
def accumulate (sig : Nat) : List Nat → Nat × Nat
  | d :: ds =>
    if sig * 10 + d ≤ u64Max then
      let (s, k) := accumulate (sig * 10 + d) ds
      (s, k + 1)
    else (sig, 0)
  | [] => (sig, 0)

/-- Reads exponent digits into a 32-bit signed value: the value, or how many digits
were read when the next one would overflow (that one included). -/
def exponentDigits (acc : Nat) (read : Nat) : List Nat → Nat ⊕ Nat
  | d :: ds =>
    if acc * 10 + d > i32Max then .inr (read + 1)
    else exponentDigits (acc * 10 + d) (read + 1) ds
  | [] => .inl acc

def clampI32 (e : Int) : Int := max (-(Nat.pow 2 31)) (min e (Nat.pow 2 31 - 1))

/-- Scales a double by `10^e` the way the reader does; `none` on overflow. -/
def scaleByPow10 (fuel : Nat) (f : Float) (e : Int) : Option Float :=
  if e.natAbs ≤ 308 then
    if 0 ≤ e then
      let g := f * Decimal.pow10 e.toNat
      if g.isInf then none else some g
    else some (f / Decimal.pow10 e.natAbs)
  else if f == 0 then some f
  else if 0 ≤ e then none
  else match fuel with
    | 0 => some f
    | fuel + 1 => scaleByPow10 fuel (f / Decimal.pow10 308) (e + 308)

/-- The double for `± sig · 10^e`, or an out-of-range error where the reader stands. -/
def Cursor.fromParts (c : Cursor) (positive : Bool) (sig : Nat) (e : Int) :
    Except ReadError (Json × Cursor) :=
  match scaleByPow10 8 (Decimal.nearest sig 1) e with
  | some f => .ok (.float (if positive then f else -f), c)
  | none => .error (c.fail .numberOutOfRange)

def Cursor.exponentPart (c : Cursor) (positive : Bool) (sig : Nat) (start : Int) :
    Except ReadError (Json × Cursor) :=
  let c1 := c.next
  let (positiveExp, c2) := match c1.peek with
    | some '+' => (true, c1.next)
    | some '-' => (false, c1.next)
    | _ => (true, c1)
  match c2.rest with
  | [] => .error (c2.fail .eofValue)
  | d :: _ =>
    if !d.isDigit then .error (c2.failPeek .invalidNumber)
    else
      let ds := leadingDigits c2.rest
      match exponentDigits 0 0 ds with
      | .inl v =>
        let e := if positiveExp then clampI32 (start + v) else clampI32 (start - v)
        (c2.skipAscii ds.length).fromParts positive sig e
      | .inr k =>
        if sig ≠ 0 ∧ positiveExp then .error ((c2.skipAscii k).fail .numberOutOfRange)
        else .ok (.float (if positive then 0.0 else -0.0), c2.skipAscii ds.length)

def Cursor.fractionPart (c : Cursor) (positive : Bool) (sig : Nat) (start : Int) :
    Except ReadError (Json × Cursor) :=
  let c1 := c.next
  let ds := leadingDigits c1.rest
  let (sig', taken) := accumulate sig ds
  let c2 := c1.skipAscii ds.length
  let e := start - taken
  if taken = ds.length ∧ ds.length = 0 then
    match c1.rest with
    | [] => .error (c1.failPeek .eofValue)
    | _ => .error (c1.failPeek .invalidNumber)
  else
    match c2.peek with
    | some 'e' | some 'E' => c2.exponentPart positive sig' e
    | _ => c2.fromParts positive sig' e

/-- An integer with no fraction or exponent: exact when it fits. -/
def integerValue (positive : Bool) (sig : Nat) : Json :=
  if positive then .int sig
  else if sig = 0 then .float (-0.0)
  else if sig ≤ Nat.pow 2 63 then .int (-(sig : Int))
  else .float (-(Decimal.nearest sig 1))

/-- What follows the integer digits; `exact` when none were dropped, `e` counts the
dropped ones. -/
def Cursor.afterDigits (c : Cursor) (positive : Bool) (sig : Nat) (e : Int) (exact : Bool) :
    Except ReadError (Json × Cursor) :=
  match c.peek with
  | some '.' => c.fractionPart positive sig e
  | some 'e' | some 'E' => c.exponentPart positive sig e
  | _ => if exact then .ok (integerValue positive sig, c) else c.fromParts positive sig e

/-- A number; the cursor stands after the minus sign of a negative one. -/
def Cursor.number (c : Cursor) (positive : Bool) : Except ReadError (Json × Cursor) :=
  match c.rest with
  | [] => .error (c.fail .eofValue)
  | '0' :: t =>
    match t with
    | d :: _ => if d.isDigit then .error (c.next.failPeek .invalidNumber)
                else c.next.afterDigits positive 0 0 true
    | [] => c.next.afterDigits positive 0 0 true
  | d :: _ =>
    if d.isDigit then
      let ds := leadingDigits c.rest
      let (sig, taken) := accumulate 0 ds
      let c' := c.skipAscii ds.length
      if taken < ds.length then c'.afterDigits positive sig (ds.length - taken) false
      else c'.afterDigits positive sig 0 true
    else .error (c.failPeek .invalidNumber)

end Switchboard.Json
