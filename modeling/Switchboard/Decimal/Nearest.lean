/-
# The double nearest to a rational

Reading a decimal number needs two exact conversions: an integer that does not fit
in 53 bits, and the powers of ten up to `10^308`, each to the double nearest to it.
`nearestBits p q` builds the IEEE 754 binary64 bit pattern of the double nearest to
`p / q` in exact `Nat` arithmetic: a mantissa of 53 bits (fewer below the normal
range), the remainder deciding the last bit, ties going to the even mantissa. Past the
largest finite double there is no nearest double and the answer is `none`.
-/
namespace Switchboard.Decimal

def bitLength (n : Nat) : Nat := if n = 0 then 0 else n.log2 + 1

/-- `p / q ≥ 2 ^ k` for an integer exponent `k`, decided on naturals. -/
def atLeastPow2 (p q : Nat) (k : Int) : Bool :=
  if 0 ≤ k then q * Nat.pow 2 k.toNat ≤ p else q ≤ p * Nat.pow 2 (-k).toNat

/-- Exponent of the last mantissa bit of the double nearest to `p / q` (for `p > 0`):
the mantissa then has 53 bits, or fewer at the subnormal floor `-1074`. -/
def lastBitExponent (p q : Nat) : Int :=
  let e0 : Int := (bitLength p : Int) - bitLength q - 53
  let e1 := if atLeastPow2 p q (e0 + 53) then e0 + 1 else e0
  max e1 (-1074)

/-- `num / den` rounded to the nearest natural, ties to the even one. -/
def roundHalfEven (num den : Nat) : Nat :=
  let m := num / den
  let r := num % den
  if 2 * r > den ∨ (2 * r = den ∧ m % 2 = 1) then m + 1 else m

/-- Bits of the double nearest to `p / q`, ties to even; `none` when that is past the
largest finite double. A zero numerator gives positive zero. -/
def nearestBits (p q : Nat) : Option UInt64 :=
  if p = 0 then some 0
  else
    let e := lastBitExponent p q
    let m :=
      if 0 ≤ e then roundHalfEven p (q * Nat.pow 2 e.toNat)
      else roundHalfEven (p * Nat.pow 2 (-e).toNat) q
    -- rounding up may carry into a 54th bit
    let (m, e) := if m = Nat.pow 2 53 then (Nat.pow 2 52, e + 1) else (m, e)
    if m < Nat.pow 2 52 then some (UInt64.ofNat m)
    else
      let biased := e + 1075
      if biased ≥ 2047 then none
      else some (UInt64.ofNat (biased.toNat * Nat.pow 2 52 + (m - Nat.pow 2 52)))

def nearest (p q : Nat) : Float :=
  match nearestBits p q with
  | some b => Float.ofBits b
  | none => Float.ofBits 0x7FF0000000000000

/-- `10 ^ k` as the nearest double, the table a decimal reader scales by. -/
def pow10 (k : Nat) : Float := nearest (Nat.pow 10 k) 1

example : nearestBits 1 1 = some 0x3FF0000000000000 := by decide
example : nearestBits 1 10 = some 0x3FB999999999999A := by decide
example : nearestBits (Nat.pow 2 53 + 1) 1 = some 0x4340000000000000 := by decide

end Switchboard.Decimal
