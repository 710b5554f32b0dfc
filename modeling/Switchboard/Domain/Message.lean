import Switchboard.Text.Blank
/-
# Message bodies and field validation

A message body is the text of a direct message: not blank, and at most 250 runes. The
blank test comes first, so an overlong text of white space is blank.

A `Validator` collects one complaint per request field: the first failing check of a
field is kept and later ones for that field are ignored. The complaints come out in
increasing byte order of the field names, which is the order the error events of a
request are sent in.
-/
namespace Switchboard

def maxBodyRunes : Nat := 250

inductive BodyError where
  | blank
  | tooLong (actual : Nat)
  deriving DecidableEq, Repr

def BodyError.message : BodyError → String
  | .blank => "Message cannot be empty"
  | .tooLong _ => "Message is too long (maximum 250 characters)"

def notBlank (s : String) : Bool := !Text.allBlank s

def maxRunes (s : String) (max : Nat) : Bool := Text.runeCount s ≤ max

structure MessageBody where
  text : String
  deriving DecidableEq, Repr

/-- Checks a text as a message body: blank first, then the length. -/
def MessageBody.make (s : String) : Except BodyError MessageBody :=
  if !notBlank s then .error .blank
  else if !maxRunes s maxBodyRunes then .error (.tooLong (Text.runeCount s))
  else .ok ⟨s⟩

/-- Complaints by field, in increasing field order, one per field. -/
structure Validator where
  errors : List (String × String) := []
  deriving Repr

/-- Keeps the first complaint of a field, in field order. -/
def insertFirst (field msg : String) : List (String × String) → List (String × String)
  | [] => [(field, msg)]
  | (f, m) :: rest =>
    if field < f then (field, msg) :: (f, m) :: rest
    else if field = f then (f, m) :: rest
    else (f, m) :: insertFirst field msg rest

def Validator.check (v : Validator) (ok : Bool) (field msg : String) : Validator :=
  if ok then v else ⟨insertFirst field msg v.errors⟩

def Validator.hasErrors (v : Validator) : Bool := !v.errors.isEmpty

/-- A validator fed a list of checks `(ok, field, message)` in order. -/
def Validator.ofChecks (checks : List (Bool × String × String)) : Validator :=
  checks.foldl (fun v (ok, f, m) => v.check ok f m) {}

end Switchboard
