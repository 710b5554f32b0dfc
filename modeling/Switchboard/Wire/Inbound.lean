import Switchboard.Json.Reader
import Switchboard.Json.Decode
/-
# Events from clients

A frame from a client is read as an envelope record straight from its text: an object
with a string `type` and any `payload` (missing means `null`), members in any order,
unknown members passed over (their content is checked for grammar only), a repeated
`type` or `payload` an error; or an array `[type, payload]`. Complaints about the record
itself (a missing or repeated field, too short an array) are placed after the reader
has closed the object or array; errors inside values are placed where they arose.

The payload is decoded only once the tag is known, into one of three records:
`SendMessage` (message, receiver id and session token, all optional), `SendGroupMessage`
(message and group id, optional) and `SendTyping` (receiver id and typing flag, both
required). Missing optional fields are the empty text, `0` and none.
-/
namespace Switchboard.Wire

open Json

/-- An event as a client sent it: its tag text and raw payload. -/
structure Inbound where
  tag : String
  payload : Json

/-- An error while reading a record from text: placed already, or a complaint about the
record whose place is fixed once the reader has closed the record. -/
inductive Fault where
  | placed (e : ReadError)
  | loose (msg : String) (at_ : Cursor)

/-- Closes an object after its members; the cursor reached and any error. -/
def closeObject (c : Cursor) : Cursor × Option ReadError :=
  let c := c.skipWs
  match c.rest with
  | '}' :: _ => (c.next, none)
  | ',' :: _ => (c, some (c.failPeek .trailingComma))
  | _ :: _ => (c, some (c.failPeek .trailingCharacters))
  | [] => (c, some (c.failPeek .eofObject))

/-- Closes an array after the elements a record took; the cursor reached and any error. -/
def closeArray (c : Cursor) : Cursor × Option ReadError :=
  let c := c.skipWs
  match c.rest with
  | ']' :: _ => (c.next, none)
  | ',' :: _ =>
    let c2 := c.next.skipWs
    match c2.rest with
    | ']' :: _ => (c2, some (c2.failPeek .trailingComma))
    | _ => (c2, some (c2.failPeek .trailingCharacters))
  | _ :: _ => (c, some (c.failPeek .trailingCharacters))
  | [] => (c, some (c.failPeek .eofList))

def readStringField (c : Cursor) : Except ReadError (String × Cursor) :=
  let c := c.skipWs
  match c.rest with
  | [] => .error (c.failPeek .eofValue)
  | '"' :: _ => c.next.string
  | _ :: _ => .error (c.invalidType "a string")

/-- The members of an envelope object, with what was seen so far. -/
def envelopeMembers (fuel : Nat) (c : Cursor) (first : Bool) (tag : Option String)
    (payload : Option Json) : Except Fault ((Option String × Option Json) × Cursor) :=
  match fuel with
  | 0 => .error (.placed (c.fail .eofObject))
  | fuel + 1 =>
    let c := c.skipWs
    match c.rest with
    | '}' :: _ => .ok ((tag, payload), c)
    | [] => .error (.placed (c.failPeek .eofObject))
    | ch :: _ =>
      let keyAt : Except Fault Cursor :=
        if first then .ok c
        else if ch = ',' then .ok c.next.skipWs
        else .error (.placed (c.failPeek .expectedObjectCommaOrEnd))
      do
        let k ← keyAt
        match k.rest with
        | '"' :: _ =>
          let (key, c1) ← (k.next.string).mapError Fault.placed
          if key = "type" then
            if tag.isSome then throw (.loose (duplicateField "type") c1)
            let c2 ← c1.colon.mapError Fault.placed
            let (s, c3) ← (readStringField c2).mapError Fault.placed
            envelopeMembers fuel c3 false (some s) payload
          else if key = "payload" then
            if payload.isSome then throw (.loose (duplicateField "payload") c1)
            let c2 ← c1.colon.mapError Fault.placed
            let (v, c3) ← (c2.value Json.parse c2.fuel).mapError Fault.placed
            envelopeMembers fuel c3 false tag (some v)
          else
            let c2 ← c1.colon.mapError Fault.placed
            let c3 ← (c2.skipValue c2.fuel).mapError Fault.placed
            envelopeMembers fuel c3 false tag payload
        | '}' :: _ => .error (.placed (k.failPeek .trailingComma))
        | [] => .error (.placed (k.failPeek .eofValue))
        | _ :: _ => .error (.placed (k.failPeek .keyMustBeString))

def envelopeName : String := "struct InboundEnvelope"

/-- The elements of an envelope array: the tag, then the payload if present. -/
def envelopeElements (c : Cursor) : Except Fault (Inbound × Cursor) := do
  let c := c.skipWs
  match c.rest with
  | [] => throw (.placed (c.failPeek .eofList))
  | ']' :: _ => throw (.loose (invalidLength 0 (envelopeName ++ " with 2 elements")) c)
  | _ :: _ =>
    let (tag, c1) ← (readStringField c).mapError Fault.placed
    let c1 := c1.skipWs
    match c1.rest with
    | [] => throw (.placed (c1.failPeek .eofList))
    | ']' :: _ => pure (⟨tag, .null⟩, c1)
    | ',' :: _ =>
      let c2 := c1.next.skipWs
      match c2.rest with
      | ']' :: _ => throw (.placed (c2.failPeek .trailingComma))
      | [] => throw (.placed (c2.failPeek .eofValue))
      | _ :: _ =>
        let (v, c3) ← (c2.value Json.parse c2.fuel).mapError Fault.placed
        pure (⟨tag, v⟩, c3)
    | _ :: _ => throw (.placed (c1.failPeek .expectedListCommaOrEnd))

/-- Settles a record read: a loose complaint is placed after closing the record; a
record read whole must then close cleanly. -/
def settle {α : Type} (close : Cursor → Cursor × Option ReadError) :
    Except Fault (α × Cursor) → Except ReadError (α × Cursor)
  | .error (.placed e) => .error e
  | .error (.loose msg c) => .error ((close c).1.fail (.message msg))
  | .ok (a, c) =>
    match close c with
    | (_, some e) => .error e
    | (c', none) => .ok (a, c')

/-- Reads a client's frame text as an envelope. -/
def Inbound.read (text : String) : Except ReadError Inbound := do
  let c := (Cursor.start text).skipWs
  let (env, c') ← match c.rest with
    | [] => .error (c.failPeek .eofValue)
    | '{' :: _ => do
      let inner ← c.enter
      settle closeObject (do
        let ((tag, payload), c1) ← envelopeMembers inner.fuel inner true none none
        match tag with
        | some t => pure (⟨t, payload.getD .null⟩, c1)
        | none => throw (.loose (missingField "type") c1))
    | '[' :: _ => do
      let inner ← c.enter
      settle closeArray (envelopeElements inner)
    | _ :: _ => .error (c.invalidType envelopeName)
  c'.finish
  pure env

structure SendMessage where
  message : String
  receiverId : Int
  sessionToken : Option String
  deriving Repr

structure SendGroupMessage where
  message : String
  groupId : Int
  deriving Repr

structure SendTyping where
  receiverId : Int
  isTyping : Bool
  deriving Repr

def SendMessage.spec : RecordSpec :=
  ⟨"SendMessagePayload", [.of "message" decodeString true, .of "receiver_id" decodeI64 true,
    .of "session_token" decodeOptString true]⟩

def SendGroupMessage.spec : RecordSpec :=
  ⟨"SendGroupMessagePayload", [.of "message" decodeString true, .of "group_id" decodeI64 true]⟩

def SendTyping.spec : RecordSpec :=
  ⟨"SendTypingPayload", [.of "receiver_id" decodeI64 false, .of "is_typing" decodeBool false]⟩

def nth (vs : List (Option Json)) (i : Nat) : Option Json := (vs[i]?).join

def SendMessage.decode (j : Json) : Except String SendMessage := do
  let vs ← SendMessage.spec.values j
  pure ⟨fieldOr decodeString "" (nth vs 0), fieldOr decodeI64 0 (nth vs 1),
    fieldOr decodeOptString none (nth vs 2)⟩

def SendGroupMessage.decode (j : Json) : Except String SendGroupMessage := do
  let vs ← SendGroupMessage.spec.values j
  pure ⟨fieldOr decodeString "" (nth vs 0), fieldOr decodeI64 0 (nth vs 1)⟩

def SendTyping.decode (j : Json) : Except String SendTyping := do
  let vs ← SendTyping.spec.values j
  pure ⟨fieldOr decodeI64 0 (nth vs 0), fieldOr decodeBool false (nth vs 1)⟩

end Switchboard.Wire
