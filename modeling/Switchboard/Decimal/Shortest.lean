import Switchboard.Decimal.Nearest
/-
# Shortest decimal text of a double

A finite positive double is `m · 2^e`. Every real in its rounding interval reads back
as that double; the interval reaches half a unit of the last place to either side
(a quarter below when `m` is the smallest normal mantissa, where the spacing halves),
and includes its ends exactly when `m` is even, since a tie then rounds to `m`.

`Binary.shortest` walks the decimal grids `10^E` from coarse to fine. On each grid it
tests the two grid points around the value: the first grid with a point inside the
interval gives the fewest digits, and of two such points the nearer to the value wins,
an exact tie going to the even one. Trailing zeros are then moved into the exponent.
`Layout` is the second half: where the digits go, and when an exponent is written.
-/
namespace Switchboard.Decimal

/-- A finite positive double split into mantissa and exponent, with the lower side of
its rounding interval in quarters of `2^exp` (`2` normally, `1` at a power of two). -/
structure Binary where
  mant : Nat
  exp : Int
  lowerQuarters : Nat

def Binary.ofBits (bits : UInt64) : Binary :=
  let b := bits.toNat % Nat.pow 2 63
  let biased : Nat := b / Nat.pow 2 52
  let frac : Nat := b % Nat.pow 2 52
  if biased = 0 then ⟨frac, -1074, 2⟩
  else ⟨frac + Nat.pow 2 52, (biased : Int) - 1075, if frac = 0 ∧ biased > 1 then 1 else 2⟩

/-- Compares `c₁ · 2^a₁ · 10^b₁` with `c₂ · 2^a₂ · 10^b₂` exactly. -/
def scaledCompare (c₁ : Nat) (a₁ b₁ : Int) (c₂ : Nat) (a₂ b₂ : Int) : Ordering :=
  let a := min a₁ a₂
  let b := min b₁ b₂
  compare (c₁ * Nat.pow 2 (a₁ - a).toNat * Nat.pow 10 (b₁ - b).toNat)
    (c₂ * Nat.pow 2 (a₂ - a).toNat * Nat.pow 10 (b₂ - b).toNat)

/-- The grid point `d · 10^E` reads back as the double `x`. -/
def Binary.accepts (x : Binary) (d : Nat) (E : Int) : Bool :=
  let lo := scaledCompare (4 * x.mant - x.lowerQuarters) (x.exp - 2) 0 d 0 E
  let hi := scaledCompare d 0 E (4 * x.mant + 2) (x.exp - 2) 0
  if x.mant % 2 = 0 then lo != .gt && hi != .gt else lo == .lt && hi == .lt

def Binary.floorAt (x : Binary) (E : Int) : Nat :=
  (x.mant * Nat.pow 2 x.exp.toNat * Nat.pow 10 (-E).toNat) / (Nat.pow 2 (-x.exp).toNat * Nat.pow 10 E.toNat)

/-- How the value compares with the midpoint between grid points `L` and `L + 1`. -/
def Binary.compareMid (x : Binary) (L : Nat) (E : Int) : Ordering :=
  scaledCompare (2 * x.mant) x.exp 0 (2 * L + 1) 0 E

/-- The point of the grid `10^E` that the value is written as, if one reads back:
the nearer of the two around the value, an exact tie to the even one. -/
def Binary.pickAt (x : Binary) (E : Int) : Option Nat :=
  let L := x.floorAt E
  let lowOk := x.accepts L E
  let highOk := x.accepts (L + 1) E
  if lowOk && highOk then
    match x.compareMid L E with
    | .lt => some L
    | .gt => some (L + 1)
    | .eq => some (if L % 2 = 0 then L else L + 1)
  else if lowOk then some L
  else if highOk then some (L + 1)
  else none

def pow10AtMost (k : Int) (c : Nat) (a : Int) : Bool :=
  scaledCompare 1 0 k c a 0 != .gt

/-- The decimal exponent of the leading digit: `10^k ≤ m · 2^e < 10^(k+1)`. The estimate
from the binary length is off by at most one either way. -/
def Binary.leadExponent (x : Binary) : Int :=
  let est : Int := ((bitLength x.mant : Int) - 1 + x.exp) * 30103 / 100000
  let up := if pow10AtMost (est + 1) x.mant x.exp then est + 1 else est
  let up := if pow10AtMost (up + 1) x.mant x.exp then up + 1 else up
  let down := if pow10AtMost up x.mant x.exp then up else up - 1
  if pow10AtMost down x.mant x.exp then down else down - 1

def stripZeros (d : Nat) (E : Int) : Nat × Int :=
  if h : 0 < d ∧ d % 10 = 0 then stripZeros (d / 10) (E + 1) else (d, E)
termination_by d
decreasing_by exact Nat.div_lt_self h.1 (by decide)

/-- The fewest decimal digits that read back as the double, and the exponent of the
last one: the value is written `d · 10^E`. Seventeen digits always suffice. -/
def Binary.shortest (x : Binary) : Nat × Int :=
  let k := x.leadExponent
  let found := (List.range 17).findSome? fun (i : Nat) =>
    (x.pickAt (k - i)).map fun d => (d, k - i)
  match found with
  | some (d, E) => stripZeros d E
  | none => stripZeros (x.floorAt (k - 16)) (k - 16)

/-- Where decimal digits `d · 10^E` are placed. With `n` digits the point stands after
`n + E` of them: positionally when that is at most `maxPoint` (with `intSuffix` after a
whole number), as `0.000ddd` when it is at least `minPoint`, and otherwise as one digit,
the rest after a point, then `expMark` and the exponent, signed `-` when negative and
`+` when positive if `plusSign` asks for it. -/
structure Layout where
  maxPoint : Int
  minPoint : Int
  intSuffix : String
  expMark : String
  plusSign : Bool

def zeros (n : Nat) : String := String.ofList (List.replicate n '0')

/-- The digits `d · 10^E` placed by the layout. -/
def Layout.place (l : Layout) (d : Nat) (E : Int) : String :=
  let ds := (Nat.repr d).toList
  let n := ds.length
  let point : Int := n + E
  if 0 ≤ E ∧ point ≤ l.maxPoint then
    String.ofList ds ++ zeros E.toNat ++ l.intSuffix
  else if 0 < point ∧ point ≤ l.maxPoint then
    String.ofList (ds.take point.toNat) ++ "." ++ String.ofList (ds.drop point.toNat)
  else if l.minPoint ≤ point ∧ point ≤ 0 then
    "0." ++ zeros (-point).toNat ++ String.ofList ds
  else
    let mant := match ds with
      | [c] => String.singleton c
      | c :: rest => String.singleton c ++ "." ++ String.ofList rest
      | [] => ""
    let exponent := point - 1
    mant ++ l.expMark ++ (if l.plusSign && 0 < exponent then "+" else "") ++ toString exponent

/-- Text of a finite double: sign, then zero as `0` with the whole-number suffix, or
the shortest digits placed by the layout. -/
def Layout.render (l : Layout) (x : Float) : String :=
  let bits := x.toBits
  let sign := if bits.toNat ≥ Nat.pow 2 63 then "-" else ""
  if bits.toNat % Nat.pow 2 63 = 0 then sign ++ "0" ++ l.intSuffix
  else
    let (d, E) := (Binary.ofBits bits).shortest
    sign ++ l.place d E

end Switchboard.Decimal
