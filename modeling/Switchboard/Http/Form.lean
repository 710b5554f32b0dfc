import Switchboard.Text.Utf8
import Switchboard.Text.Blank
/-
# Query strings and cookies

A query string is read as `application/x-www-form-urlencoded` pairs: split on `&`,
empty pieces skipped, each piece split at its first `=` (a piece without one is a name
with the empty value). In names and values `+` stands for a space, `%` with two hex
digits for that byte (any other `%` stays as it is), and the bytes are then read as
UTF-8 with replacement.

The session cookie is looked for in the Cookie headers in order. A header whose value
is not visible ASCII is skipped; the others are split on `;`, each pair is trimmed and
split at its first `=`, and the first pair whose name is exactly the cookie's name gives
the value.
-/
namespace Switchboard.Http

def hexValue (b : UInt8) : Option Nat :=
  if 0x30 ≤ b && b ≤ 0x39 then some (b.toNat - 0x30)
  else if 0x41 ≤ b && b ≤ 0x46 then some (b.toNat - 0x41 + 10)
  else if 0x61 ≤ b && b ≤ 0x66 then some (b.toNat - 0x61 + 10)
  else none

/-- Percent-decodes bytes: `%` and two hex digits is that byte. -/
def percentDecode : List UInt8 → List UInt8
  | [] => []
  | b :: h :: l :: more =>
    if b == 0x25 then
      match hexValue h, hexValue l with
      | some x, some y => UInt8.ofNat (x * 16 + y) :: percentDecode more
      | _, _ => b :: percentDecode (h :: l :: more)
    else b :: percentDecode (h :: l :: more)
  | b :: rest => b :: percentDecode rest

/-- A name or value of a form: `+` as a space, percent-decoded, read as UTF-8. -/
def formText (bs : List UInt8) : String :=
  Text.decodeLossy (percentDecode (bs.map fun b => if b == 0x2B then 0x20 else b))

def splitOn (sep : UInt8) (bs : List UInt8) : List (List UInt8) :=
  bs.splitOn sep

def splitFirst (sep : UInt8) (bs : List UInt8) : Option (List UInt8 × List UInt8) :=
  match bs.idxOf? sep with
  | some i => some (bs.take i, bs.drop (i + 1))
  | none => none

/-- The name and value pairs of a query string, in order. -/
def formPairs (query : String) : List (String × String) :=
  (splitOn 0x26 query.toUTF8.toList).filterMap fun piece =>
    if piece.isEmpty then none
    else
      match splitFirst 0x3D piece with
      | some (n, v) => some (formText n, formText v)
      | none => some (formText piece, "")

def trimBlank (s : String) : String :=
  String.ofList ((s.toList.dropWhile Text.isBlank).reverse.dropWhile Text.isBlank).reverse

/-- A trimmed cookie pair split at its first `=`: the name before it and the value after it;
nothing for a pair without `=`. -/
def cookiePair? (pair : String) : Option (String × String) :=
  match (trimBlank pair).toList.span (· != '=') with
  | (name, _ :: value) => some (String.ofList name, String.ofList value)
  | (_, []) => none

/-- The cookie pairs of Cookie header values, in order: every value split on `;`. -/
def cookiePairs (headers : List String) : List (String × String) :=
  (headers.flatMap fun h => (h.toList.splitOn ';').map String.ofList).filterMap cookiePair?

/-- The value of the first cookie of this name among the Cookie header values. -/
def cookieValue (name : String) (headers : List String) : Option String :=
  (cookiePairs headers).lookup name

end Switchboard.Http
