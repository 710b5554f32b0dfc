/-
# Connection keys

Each connection gets a random key, written as a version-4 UUID: 32 lowercase hex
digits in groups of 8, 4, 4, 4 and 12 joined by hyphens, with version digit `4` and
the variant bits `10`. `ConnectionKey.text` builds it from 128 random bits.
-/
namespace Switchboard.ConnectionKey

/-- Lowercase hex digits of `n`, exactly `w` of them. -/
def hexDigits (w : Nat) (n : Nat) : List Char :=
  (List.range w).reverse.map fun i =>
    let d := n / Nat.pow 16 i % 16
    if d < 10 then Char.ofNat (48 + d) else Char.ofNat (87 + d)

/-- The UUID text of 128 random bits, with version and variant set. -/
def text (bits : Nat) : String :=
  let b := bits % Nat.pow 2 128
  -- version 4 in bits 76..79, variant 10 in bits 62..63
  let b := b - (b / Nat.pow 2 76 % 16) * Nat.pow 2 76 + 4 * Nat.pow 2 76
  let b := b - (b / Nat.pow 2 62 % 4) * Nat.pow 2 62 + 2 * Nat.pow 2 62
  let ds := hexDigits 32 b
  String.ofList (ds.take 8 ++ ['-'] ++ (ds.drop 8).take 4 ++ ['-'] ++ (ds.drop 12).take 4 ++
    ['-'] ++ (ds.drop 16).take 4 ++ ['-'] ++ ds.drop 20)

end Switchboard.ConnectionKey
