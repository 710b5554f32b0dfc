import Switchboard.Json.Cursor
import Switchboard.Json.Unexpected
/-
# Reading JSON values

`Json.parse` reads a whole text as one value: white space around it, nothing after
it. Arrays and objects complain about a trailing comma, a missing comma or colon, a key
that is not a string, and the end of the text inside them; object members keep the
last of a repeated key. Opening a 128th nested array or object is an error.

An object whose first key is `embeddedTextKey` stands for a value written as text: its
value must be a string, which is read as a whole JSON text of its own (with its own
nesting limit, and errors placed within it), and the object must close right after it.

`Cursor.skipValue` passes over a value whose content nobody asks for. It checks the
grammar the same way except in four places: numbers are not converted (so they are
never out of range), strings only need well-formed escapes (any `\u` code unit goes, and
a control character is reported where it stands), there is no nesting limit, and after
a comma it wants a value or a key, so `[1,]` reads as "expected value" and `{"a":1,}` as
"key must be a string".

`Cursor.invalidType` is the error of a record reader that finds a value of the wrong
kind: it reads scalars to name them and stops at an array or object.
-/
namespace Switchboard.Json

/-- Takes the rest of a literal word (`ull` of `null`), character by character. -/
def Cursor.word (c : Cursor) : List Char → Except ReadError Cursor
  | [] => .ok c
  | w :: ws =>
    match c.rest with
    | [] => .error (c.fail .eofValue)
    | ch :: _ => if ch = w then c.next.word ws else .error (c.failPeek .expectedIdent)

def Cursor.colon (c : Cursor) : Except ReadError Cursor :=
  let c := c.skipWs
  match c.rest with
  | ':' :: _ => .ok c.next
  | _ :: _ => .error (c.failPeek .expectedColon)
  | [] => .error (c.failPeek .eofObject)

/-- One level less of allowed nesting, or the error for one level too many. -/
def Cursor.enter (c : Cursor) : Except ReadError Cursor :=
  if c.depth ≤ 1 then .error (c.failPeek .recursionLimit)
  else .ok { c.next with depth := c.depth - 1 }

/-- The error for a value of the wrong kind where a record reader wanted `expected`:
scalars are read to name them, the error then stands after them; an array or object is
named without reading it. -/
def Cursor.invalidType (c : Cursor) (expected : String) : ReadError :=
  let found : Except ReadError (Unexpected × Cursor) :=
    match c.rest with
    | 'n' :: _ => do let c' ← c.next.word ['u', 'l', 'l']; pure (.null, c')
    | 't' :: _ => do let c' ← c.next.word ['r', 'u', 'e']; pure (.bool true, c')
    | 'f' :: _ => do let c' ← c.next.word ['a', 'l', 's', 'e']; pure (.bool false, c')
    | '-' :: _ => do let (j, c') ← c.next.number false; pure (Unexpected.ofJson j, c')
    | '"' :: _ => do let (s, c') ← c.next.string; pure (.str s, c')
    | '[' :: _ => .ok (.seq, c)
    | '{' :: _ => .ok (.map, c)
    | d :: _ =>
      if d.isDigit then do let (j, c') ← c.number true; pure (Unexpected.ofJson j, c')
      else .error (c.failPeek .expectedValue)
    | [] => .error (c.failPeek .expectedValue)
  match found with
  | .ok (u, c') => c'.fail (.message (u.typeError expected))
  | .error e => e

def embeddedTextKey : String := "$serde_json::private::RawValue"

/-- Closes an object after its embedded text, leaving the cursor on the brace. -/
def Cursor.closeEmbedded (c : Cursor) : Except ReadError Cursor :=
  let c := c.skipWs
  match c.rest with
  | '}' :: _ => .ok c
  | ',' :: _ => .error (c.failPeek .trailingComma)
  | [] => .error (c.failPeek .eofObject)
  | _ :: _ => .error (c.failPeek .trailingCharacters)

/-- An object that stands for embedded text, read with `raw`; the cursor stands after the
opening brace, and `none` means an ordinary object. The result leaves the cursor on the
closing brace. -/
def Cursor.embedded? (raw : String → Except ReadError Json) (c : Cursor) :
    Option (Except ReadError (Json × Cursor)) :=
  let c := c.skipWs
  match c.rest with
  | '"' :: _ =>
    match c.next.string with
    | .ok (key, c1) =>
      if key = embeddedTextKey then
        some (do
          let c2 ← c1.colon
          let c3 := c2.skipWs
          let (text, c4) ← match c3.rest with
            | [] => .error (c3.failPeek .eofValue)
            | '"' :: _ => c3.next.string
            | _ :: _ => .error (c3.invalidType "raw value")
          let v ← raw text
          let c5 ← c4.closeEmbedded
          pure (v, c5))
      else none
    | .error _ => none
  | _ => none

mutual
/-- A value; `raw` reads embedded text. `fuel` bounds the nesting and the items read. -/
def Cursor.value (raw : String → Except ReadError Json) (fuel : Nat) (c : Cursor) :
    Except ReadError (Json × Cursor) :=
  match fuel with
  | 0 => .error (c.fail .eofValue)
  | fuel + 1 =>
    let c := c.skipWs
    match c.rest with
    | [] => .error (c.failPeek .eofValue)
    | 'n' :: _ => do let c' ← c.next.word ['u', 'l', 'l']; pure (.null, c')
    | 't' :: _ => do let c' ← c.next.word ['r', 'u', 'e']; pure (.bool true, c')
    | 'f' :: _ => do let c' ← c.next.word ['a', 'l', 's', 'e']; pure (.bool false, c')
    | '-' :: _ => c.next.number false
    | '"' :: _ => do let (s, c') ← c.next.string; pure (.str s, c')
    | '[' :: _ => do
      let inner ← c.enter
      let (items, c') ← Cursor.items raw fuel inner true []
      pure (.arr items, { c'.next with depth := c.depth })
    | '{' :: _ => do
      let inner ← c.enter
      match inner.embedded? raw with
      | some r => do
        let (v, c') ← r
        pure (v, { c'.next with depth := c.depth })
      | none => do
        let (fields, c') ← Cursor.members raw fuel inner true []
        pure (.obj fields, { c'.next with depth := c.depth })
    | d :: _ => if d.isDigit then c.number true else .error (c.failPeek .expectedValue)

def Cursor.items (raw : String → Except ReadError Json) (fuel : Nat) (c : Cursor) (first : Bool)
    (acc : List Json) :
    Except ReadError (List Json × Cursor) :=
  match fuel with
  | 0 => .error (c.fail .eofList)
  | fuel + 1 =>
    let c := c.skipWs
    match c.rest with
    | [] => .error (c.failPeek .eofList)
    | ']' :: _ => .ok (acc.reverse, c)
    | ch :: _ =>
      if first then do
        let (v, c') ← c.value raw fuel
        Cursor.items raw fuel c' false (v :: acc)
      else if ch = ',' then
        let c1 := c.next.skipWs
        match c1.rest with
        | ']' :: _ => .error (c1.failPeek .trailingComma)
        | [] => .error (c1.failPeek .eofValue)
        | _ :: _ => do
          let (v, c') ← c1.value raw fuel
          Cursor.items raw fuel c' false (v :: acc)
      else .error (c.failPeek .expectedListCommaOrEnd)

def Cursor.members (raw : String → Except ReadError Json) (fuel : Nat) (c : Cursor)
    (first : Bool) (acc : Fields) :
    Except ReadError (Fields × Cursor) :=
  match fuel with
  | 0 => .error (c.fail .eofObject)
  | fuel + 1 =>
    let c := c.skipWs
    match c.rest with
    | '}' :: _ => .ok (acc, c)
    | [] => .error (c.failPeek .eofObject)
    | ch :: _ =>
      let keyAt : Except ReadError Cursor :=
        if first then .ok c
        else if ch = ',' then .ok c.next.skipWs
        else .error (c.failPeek .expectedObjectCommaOrEnd)
      do
        let k ← keyAt
        match k.rest with
        | '"' :: _ =>
          let (key, c1) ← k.next.string
          let c2 ← c1.colon
          let (v, c3) ← c2.value raw fuel
          Cursor.members raw fuel c3 false (Fields.insert key v acc)
        | '}' :: _ => .error (k.failPeek .trailingComma)
        | [] => .error (k.failPeek .eofValue)
        | _ :: _ => .error (k.failPeek .keyMustBeString)
end

/-- Passes over the rest of a string literal whose content nobody asks for: an escape
needs only its form (`\u` and four hex digits, whatever code unit they make), and a
control character is reported where it stands. `fuel` bounds the characters left. -/
def Cursor.skipStringBody (fuel : Nat) (c : Cursor) : Except ReadError Cursor :=
  match fuel with
  | 0 => .error (c.fail .eofString)
  | fuel + 1 =>
    match c.rest with
    | [] => .error (c.fail .eofString)
    | '"' :: _ => .ok c.next
    | '\\' :: _ =>
      let c1 := c.next
      match c1.rest with
      | [] => .error (c1.fail .eofString)
      | e :: _ =>
        if e = 'u' then do
          let (_, c2) ← c1.next.hex4
          c2.skipStringBody fuel
        else if ['"', '\\', '/', 'b', 'f', 'n', 'r', 't'].contains e then c1.next.skipStringBody fuel
        else .error (c1.failPeek .invalidEscape)
    | ch :: _ =>
      if ch.toNat < 0x20 then .error (c.fail .controlCharacter)
      else c.next.skipStringBody fuel

def Cursor.skipString (c : Cursor) : Except ReadError Cursor :=
  c.skipStringBody (c.rest.length + 1)

/-- The grammar of a number, passed over without converting it. -/
def Cursor.skipNumber (c : Cursor) : Except ReadError Cursor :=
  let afterInt : Except ReadError Cursor :=
    match c.rest with
    | '0' :: t =>
      match t with
      | d :: _ => if d.isDigit then .error (c.next.failPeek .invalidNumber) else .ok c.next
      | [] => .ok c.next
    | d :: _ =>
      if d.isDigit then .ok (c.skipAscii (leadingDigits c.rest).length)
      else .error (c.failPeek .invalidNumber)
    | [] => .error (c.fail .invalidNumber)
  let skipExponent (c : Cursor) : Except ReadError Cursor :=
    let c1 := c.next
    let c2 := match c1.peek with
      | some '+' | some '-' => c1.next
      | _ => c1
    match c2.rest with
    | d :: _ =>
      if d.isDigit then .ok (c2.skipAscii (leadingDigits c2.rest).length)
      else .error (c2.failPeek .invalidNumber)
    | [] => .error (c2.fail .invalidNumber)
  do
    let c ← afterInt
    match c.peek with
    | some '.' =>
      let c1 := c.next
      let n := (leadingDigits c1.rest).length
      if n = 0 then .error (c1.failPeek .invalidNumber)
      else
        let c2 := c1.skipAscii n
        match c2.peek with
        | some 'e' | some 'E' => skipExponent c2
        | _ => .ok c2
    | some 'e' | some 'E' => skipExponent c
    | _ => .ok c

mutual
def Cursor.skipValue (fuel : Nat) (c : Cursor) : Except ReadError Cursor :=
  match fuel with
  | 0 => .error (c.fail .eofValue)
  | fuel + 1 =>
    let c := c.skipWs
    match c.rest with
    | [] => .error (c.failPeek .eofValue)
    | 'n' :: _ => c.next.word ['u', 'l', 'l']
    | 't' :: _ => c.next.word ['r', 'u', 'e']
    | 'f' :: _ => c.next.word ['a', 'l', 's', 'e']
    | '-' :: _ => c.next.skipNumber
    | '"' :: _ => c.next.skipString
    | '[' :: _ => Cursor.skipItems fuel c.next true
    | '{' :: _ => Cursor.skipMembers fuel c.next true
    | d :: _ => if d.isDigit then c.skipNumber else .error (c.failPeek .expectedValue)

def Cursor.skipItems (fuel : Nat) (c : Cursor) (first : Bool) : Except ReadError Cursor :=
  match fuel with
  | 0 => .error (c.fail .eofList)
  | fuel + 1 =>
    let c := c.skipWs
    match c.rest with
    | [] => .error (c.failPeek .eofList)
    | ']' :: _ => .ok c.next
    | ch :: _ =>
      if first then do
        let c' ← c.skipValue fuel
        Cursor.skipItems fuel c' false
      else if ch = ',' then do
        let c' ← c.next.skipValue fuel
        Cursor.skipItems fuel c' false
      else .error (c.failPeek .expectedListCommaOrEnd)

def Cursor.skipMembers (fuel : Nat) (c : Cursor) (first : Bool) : Except ReadError Cursor :=
  match fuel with
  | 0 => .error (c.fail .eofObject)
  | fuel + 1 =>
    let c := c.skipWs
    match c.rest with
    | [] => .error (c.failPeek .eofObject)
    | '}' :: _ => .ok c.next
    | ch :: _ =>
      let keyAt : Except ReadError Cursor :=
        if first then .ok c
        else if ch = ',' then .ok c.next.skipWs
        else .error (c.failPeek .expectedObjectCommaOrEnd)
      do
        let k ← keyAt
        match k.rest with
        | '"' :: _ =>
          let c1 ← k.next.skipString
          let c2 ← c1.colon
          let c3 ← c2.skipValue fuel
          Cursor.skipMembers fuel c3 false
        | [] => .error (k.failPeek .eofValue)
        | _ :: _ => .error (k.failPeek .keyMustBeString)
end

/-- Enough fuel for any value in the rest of the text: every step takes a character. -/
def Cursor.fuel (c : Cursor) : Nat := 2 * c.rest.length + 2

def Cursor.finish (c : Cursor) : Except ReadError Unit :=
  let c := c.skipWs
  match c.rest with
  | [] => .ok ()
  | _ :: _ => .error (c.failPeek .trailingCharacters)

/-- Reads a whole text as one value, with embedded texts nested at most `depth` deep. -/
def parseWithin : Nat → String → Except ReadError Json
  | 0, _ => .error ⟨.recursionLimit, ⟨1, 0⟩⟩
  | depth + 1, s => do
    let c := Cursor.start s
    let (v, c') ← c.value (parseWithin depth) c.fuel
    c'.finish
    pure v

/-- Reads a whole text as one value. An embedded text is shorter than the text around
it, so as many levels as the text has characters always suffice. -/
def parse (s : String) : Except ReadError Json := parseWithin (s.length + 1) s

end Switchboard.Json
