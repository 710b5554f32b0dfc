import Switchboard.Text.Printable
/-
# Debug-quoted text

Error messages show an offending string between double quotes, escaped so that every
character is visible: `\0 \t \r \n`, the backslash and the double quote get a backslash
form; a character that is not printable, or that only extends the character before it
(a combining mark, a variation selector), is written `\u{hex}` with lowercase digits and
no leading zeros; every other character stands as it is.

Which characters are not printable and which extend the one before them is given by the
tables of `Text.Printable`; printable ASCII needs no look-up.
-/
namespace Switchboard.Text

/-- Lowercase hex digits of `n`, without leading zeros. -/
def hexText (n : Nat) : String :=
  String.ofList (Nat.toDigits 16 n)

def debugChar (c : Char) : String :=
  match c with
  | '\x00' => "\\0"
  | '\t' => "\\t"
  | '\r' => "\\r"
  | '\n' => "\\n"
  | '\\' => "\\\\"
  | '"' => "\\\""
  | c =>
    if 0x20 ≤ c.toNat && c.toNat < 0x7F then String.singleton c
    else if inRanges unprintable c.toNat || inRanges extending c.toNat then
      "\\u" ++ "\x7b" ++ hexText c.toNat ++ "\x7d"
    else String.singleton c

/-- The string between double quotes, every character visible. -/
def debugQuote (s : String) : String :=
  "\"" ++ String.join (s.toList.map debugChar) ++ "\""

example : debugQuote "a\"b\x01" = "\"a\\\"b\\u\x7b1\x7d\"" := by decide

end Switchboard.Text
