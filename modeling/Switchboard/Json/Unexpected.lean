import Switchboard.Json.Writer
import Switchboard.Text.Debug
/-
# What a decoder found instead

When a record field or a record itself gets a value of the wrong kind, the error names
what was found and what was expected: `invalid type: integer `5`, expected a string`.
`Unexpected` is the found side, `Unexpected.text` its wording: `null`, a boolean or
integer in backquotes, a double in its shortest digits, a string debug-quoted, and
`sequence` or `map` for arrays and objects.
-/
namespace Switchboard.Json

/-- The kind and value a decoder found. -/
inductive Unexpected where
  | null
  | bool (b : Bool)
  | int (n : Int)
  | float (x : Float)
  | str (s : String)
  | seq
  | map

def Unexpected.text : Unexpected → String
  | .null => "null"
  | .bool b => "boolean `" ++ toString b ++ "`"
  | .int n => "integer `" ++ toString n ++ "`"
  | .float x => "floating point `" ++ floatText x ++ "`"
  | .str s => "string " ++ Text.debugQuote s
  | .seq => "sequence"
  | .map => "map"

def Unexpected.ofJson : Json → Unexpected
  | .null => .null
  | .bool b => .bool b
  | .int n => .int n
  | .float x => .float x
  | .str s => .str s
  | .arr _ => .seq
  | .obj _ => .map

/-- `invalid type: <found>, expected <what>`. -/
def Unexpected.typeError (found : Unexpected) (expected : String) : String :=
  "invalid type: " ++ found.text ++ ", expected " ++ expected

/-- `invalid value: <found>, expected <what>`. -/
def Unexpected.valueError (found : Unexpected) (expected : String) : String :=
  "invalid value: " ++ found.text ++ ", expected " ++ expected

/-- `invalid length <n>, expected <what>`. -/
def invalidLength (n : Nat) (expected : String) : String :=
  "invalid length " ++ toString n ++ ", expected " ++ expected

/-- ``missing field `name` ``. -/
def missingField (name : String) : String :=
  "missing field `" ++ name ++ "`"

/-- ``duplicate field `name` ``. -/
def duplicateField (name : String) : String :=
  "duplicate field `" ++ name ++ "`"

end Switchboard.Json
