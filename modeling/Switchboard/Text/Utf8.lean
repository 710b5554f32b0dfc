/-
# Reading UTF-8 bytes

`decodeLossy` reads bytes as UTF-8 text, replacing what is not UTF-8 by U+FFFD: each
maximal start of a well-formed sequence that breaks off, and each byte that cannot
start one, becomes one replacement character. A lead byte fixes the range of its first
continuation byte (`E0` needs `A0..BF`, `ED` needs `80..9F`, `F0` needs `90..BF`,
`F4` needs `80..8F`, the others `80..BF`), which rules out overlong forms, surrogates
and code points past `U+10FFFF`. `isUtf8` says whether nothing had to be replaced.
-/
namespace Switchboard.Text

def isCont (b : UInt8) : Bool := 0x80 ≤ b && b ≤ 0xBF

def contBits (b : UInt8) : Nat := b.toNat % 64

/-- The sequence length a lead byte starts, with the range its first continuation
byte must lie in; none for a byte that starts nothing. -/
def leadShape (b : UInt8) : Option (Nat × UInt8 × UInt8) :=
  if 0xC2 ≤ b && b ≤ 0xDF then some (2, 0x80, 0xBF)
  else if b == 0xE0 then some (3, 0xA0, 0xBF)
  else if b == 0xED then some (3, 0x80, 0x9F)
  else if 0xE1 ≤ b && b ≤ 0xEF then some (3, 0x80, 0xBF)
  else if b == 0xF0 then some (4, 0x90, 0xBF)
  else if b == 0xF4 then some (4, 0x80, 0x8F)
  else if 0xF1 ≤ b && b ≤ 0xF3 then some (4, 0x80, 0xBF)
  else none

/-- How many of the bytes continue a sequence that needs `need` more, the first of them
within `lo..hi` and the others any continuation byte. -/
def contRun (need : Nat) (lo hi : UInt8) (bs : List UInt8) : Nat :=
  match need, bs with
  | 0, _ => 0
  | _ + 1, [] => 0
  | n + 1, b :: rest => if lo ≤ b && b ≤ hi then 1 + contRun n 0x80 0xBF rest else 0

def replacement : Char := Char.ofNat 0xFFFD

/-- The character of a complete sequence. -/
def seqChar (lead : UInt8) (conts : List UInt8) : Char :=
  let start := match conts.length with
    | 1 => lead.toNat % 32
    | 2 => lead.toNat % 16
    | _ => lead.toNat % 8
  Char.ofNat (conts.foldl (fun acc b => acc * 64 + contBits b) start)

/-- Decodes with replacement; the flag is false once something was replaced. -/
def decodeWithin : Nat → List UInt8 → List Char × Bool
  | 0, _ => ([], true)
  | _ + 1, [] => ([], true)
  | n + 1, b :: rest =>
    if b < 0x80 then
      let (cs, ok) := decodeWithin n rest
      (Char.ofNat b.toNat :: cs, ok)
    else
      match leadShape b with
      | none =>
        let (cs, _) := decodeWithin n rest
        (replacement :: cs, false)
      | some (len, lo, hi) =>
        let k := contRun (len - 1) lo hi rest
        if k = len - 1 then
          let (cs, ok) := decodeWithin n (rest.drop k)
          (seqChar b (rest.take k) :: cs, ok)
        else
          let (cs, _) := decodeWithin n (rest.drop k)
          (replacement :: cs, false)

/-- The text of bytes read as UTF-8, with replacement characters where they are not. -/
def decodeLossy (bs : List UInt8) : String := String.ofList (decodeWithin bs.length bs).1

def isUtf8 (bs : List UInt8) : Bool := (decodeWithin bs.length bs).2

example : decodeLossy [0x61, 0xC3, 0xA9] = "aé" := by decide
example : decodeLossy [0xE3, 0x81, 0x61] = String.ofList [replacement, 'a'] := by decide
example : decodeLossy [0xFF, 0x61] = String.ofList [replacement, 'a'] := by decide

end Switchboard.Text
