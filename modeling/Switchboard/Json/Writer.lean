import Switchboard.Json.Value
import Switchboard.Decimal.Shortest
/-
# Compact JSON text

The text a value is sent as: no blanks, members in their stored (increasing key)
order, integers in decimal, doubles in their shortest digits. A string escapes the
quote, the backslash and the control characters below `U+0020`; the five with a short
form use it (`\b \f \n \r \t`), the others `\u00XX` in lowercase hex. Everything else,
non-ASCII included, is written as it is. The frame-size limit counts the bytes of this
text, so its length matters as much as its content.
-/
namespace Switchboard.Json

/-- Doubles are written with the fewest digits that read back: positionally while the
point stands at most sixteen digits in, a whole number with `.0`, down to `0.0000ddd`,
else `d.ddde-7` or `d.ddde+22` style, the exponent always signed. -/
def numberLayout : Decimal.Layout := ⟨16, -4, ".0", "e", true⟩

/-- The text of a double; a value with no finite text is written `null`. -/
def floatText (x : Float) : String :=
  if x.isNaN || x.isInf then "null" else numberLayout.render x

def hexDigit (n : Nat) : Char :=
  if n < 10 then Char.ofNat (48 + n) else Char.ofNat (87 + n)

def escapeChar (c : Char) : String :=
  match c with
  | '"' => "\\\""
  | '\\' => "\\\\"
  | '\n' => "\\n"
  | '\r' => "\\r"
  | '\t' => "\\t"
  | '\x08' => "\\b"
  | '\x0c' => "\\f"
  | c =>
    if c.toNat < 0x20 then
      "\\u00" ++ String.singleton (hexDigit (c.toNat / 16)) ++ String.singleton (hexDigit (c.toNat % 16))
    else String.singleton c

def quote (s : String) : String :=
  "\"" ++ String.join (s.toList.map escapeChar) ++ "\""

mutual
/-- Compact text of a value. -/
def render : Json → String
  | .null => "null"
  | .bool true => "true"
  | .bool false => "false"
  | .int n => toString n
  | .float x => floatText x
  | .str s => quote s
  | .arr items => "[" ++ renderItems items ++ "]"
  | .obj fields => "\x7b" ++ renderFields fields ++ "\x7d"

def renderItems : List Json → String
  | [] => ""
  | [j] => render j
  | j :: rest => render j ++ "," ++ renderItems rest

def renderFields : List (String × Json) → String
  | [] => ""
  | [(k, v)] => quote k ++ ":" ++ render v
  | (k, v) :: rest => quote k ++ ":" ++ render v ++ "," ++ renderFields rest
end

end Switchboard.Json
