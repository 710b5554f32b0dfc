import Switchboard.Json.Unexpected
/-
# Decoding records from JSON values

A request payload is a JSON value decoded into a record of named fields. An object
gives the fields by name: its members are looked at in key order, a member that names
a field must have that field's type (the first one that does not is the error),
members that name no field are ignored, and then the first field in declaration order
that is missing and has no default is the error. An array gives the fields by position:
a missing element takes the field's default or is an error, and an array longer than
the record is an error. Any other value is not a record.

The field decoders take a signed 64-bit integer (`i64`), a string, a boolean, or an
optional string where `null` means none.
-/
namespace Switchboard.Json

/-- A decoder of one field's value; the error is the complaint's text. -/
abbrev Decoder (α : Type) := Json → Except String α

def i64Max : Int := Nat.pow 2 63 - 1

/-- A signed 64-bit integer. A larger unsigned one is an invalid value, a double or any
other value an invalid type. -/
def decodeI64 : Decoder Int
  | .int n => if n > i64Max then .error ((Unexpected.int n).valueError "i64") else .ok n
  | j => .error ((Unexpected.ofJson j).typeError "i64")

def decodeString : Decoder String
  | .str s => .ok s
  | j => .error ((Unexpected.ofJson j).typeError "a string")

def decodeBool : Decoder Bool
  | .bool b => .ok b
  | j => .error ((Unexpected.ofJson j).typeError "a boolean")

/-- An optional string: `null` is none. -/
def decodeOptString : Decoder (Option String)
  | .null => .ok none
  | j => (decodeString j).map some

/-- A field of a record: its name, the check of its type, and whether it may be missing. -/
structure FieldSpec where
  name : String
  check : Json → Except String Unit
  hasDefault : Bool

def FieldSpec.of {α : Type} (name : String) (d : Decoder α) (hasDefault : Bool) : FieldSpec :=
  ⟨name, fun j => (d j).map fun _ => (), hasDefault⟩

/-- A record: its name for messages and its fields in declaration order. -/
structure RecordSpec where
  name : String
  fields : List FieldSpec

/-- Checks the members of an object against the record, in key order. -/
def RecordSpec.checkMembers (r : RecordSpec) : Fields → Except String Unit
  | [] => .ok ()
  | (k, v) :: rest =>
    match r.fields.find? (·.name == k) with
    | some f => do f.check v; r.checkMembers rest
    | none => r.checkMembers rest

/-- Checks the elements of an array against the fields, in order. -/
def RecordSpec.checkElements (r : RecordSpec) (total : Nat) :
    Nat → List FieldSpec → List Json → Except String Unit
  | _, [], [] => .ok ()
  | _, [], _ :: _ => .error (invalidLength total "fewer elements in array")
  | i, f :: fs, [] =>
    if f.hasDefault then r.checkElements total (i + 1) fs []
    else .error (invalidLength i ("struct " ++ r.name ++ " with " ++
      toString r.fields.length ++ " elements"))
  | i, f :: fs, j :: js => do f.check j; r.checkElements total (i + 1) fs js

/-- The raw value of each field in declaration order (`none` when missing), once the
value has been checked to be this record. -/
def RecordSpec.values (r : RecordSpec) (j : Json) : Except String (List (Option Json)) :=
  match j with
  | .obj fs => do
    r.checkMembers fs
    match r.fields.find? (fun f => !f.hasDefault && (fs.lookup f.name).isNone) with
    | some f => .error (missingField f.name)
    | none => .ok (r.fields.map fun f => fs.lookup f.name)
  | .arr items => do
    r.checkElements items.length 0 r.fields items
    .ok ((List.range r.fields.length).map fun i => items[i]?)
  | j => .error ((Unexpected.ofJson j).typeError ("struct " ++ r.name))

/-- A checked field's value, or its default when missing. -/
def fieldOr {α : Type} (d : Decoder α) (dflt : α) : Option Json → α
  | some j => match d j with
    | .ok a => a
    | .error _ => dflt
  | none => dflt

end Switchboard.Json
