/-
# JSON values

The events on the wire, their payloads and the opaque notification payloads are JSON.
A value keeps the one distinction of numbers that its text shows: an integer that the
reader kept exact (from `-2^63` up to `2^64 - 1`) is `int`, every other number is a
double. Objects hold their members in increasing key order, one member per key; a
later write to a key replaces the earlier one (`Json.Fields.insert`), so an object
built from text keeps the last of duplicate keys.
-/
namespace Switchboard

/-- A JSON value. Object members are in increasing key order with distinct keys. -/
inductive Json where
  | null
  | bool (b : Bool)
  | int (n : Int)
  | float (x : Float)
  | str (s : String)
  | arr (items : List Json)
  | obj (fields : List (String × Json))
  deriving Inhabited

namespace Json

abbrev Fields := List (String × Json)

/-- Puts a member in its place by key, replacing the member of that key if any. -/
def Fields.insert (k : String) (v : Json) : Fields → Fields
  | [] => [(k, v)]
  | (k', v') :: rest =>
    if k < k' then (k, v) :: (k', v') :: rest
    else if k = k' then (k, v) :: rest
    else (k', v') :: Fields.insert k v rest

/-- The object holding these members, each inserted in turn (the last of a key wins). -/
def ofFields (fs : List (String × Json)) : Json :=
  .obj (fs.foldl (fun acc (k, v) => Fields.insert k v acc) [])

/-- The value of a key in an object, `none` for a missing key or a non-object. -/
def get? (j : Json) (k : String) : Option Json :=
  match j with
  | .obj fs => fs.lookup k
  | _ => none

def ofOption {α : Type} (f : α → Json) : Option α → Json
  | some a => f a
  | none => .null

def set (j : Json) (k : String) (v : Json) : Json :=
  match j with
  | .obj fs => .obj (Fields.insert k v fs)
  | _ => j

end Json

end Switchboard
