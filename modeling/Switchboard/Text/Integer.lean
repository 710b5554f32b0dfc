/-
# Reading integers from text

Decimal integer text for a signed or an unsigned 64-bit word: an optional `+` (or `-`,
for signed words only) and then decimal digits. The digits are read left to right and
the first problem found is the one reported: a character that is not a digit, or a
value that has left the word's range. Empty text and a sign alone have messages of
their own.
-/
namespace Switchboard.Text

/-- Why integer text was refused. -/
inductive IntError where
  | empty
  | invalidDigit
  | tooLarge
  | tooSmall
  deriving DecidableEq, Repr

def IntError.message : IntError → String
  | .empty => "cannot parse integer from empty string"
  | .invalidDigit => "invalid digit found in string"
  | .tooLarge => "number too large to fit in target type"
  | .tooSmall => "number too small to fit in target type"

/-- Accumulates digits into a magnitude at most `bound`; `outOfRange` is the refusal for a
magnitude past it. -/
def readDigits (bound : Nat) (outOfRange : IntError) : List Char → Nat → Except IntError Nat
  | [], acc => .ok acc
  | c :: rest, acc =>
    if c.isDigit then
      let acc := acc * 10 + (c.toNat - '0'.toNat)
      if acc > bound then .error outOfRange else readDigits bound outOfRange rest acc
    else .error .invalidDigit

/-- Reads a signed 64-bit integer. -/
def readInt64 (s : String) : Except IntError Int :=
  match s.toList with
  | [] => .error .empty
  | ['+'] | ['-'] => .error .invalidDigit
  | '+' :: ds => (readDigits (Nat.pow 2 63 - 1) .tooLarge ds 0).map Int.ofNat
  | '-' :: ds => (readDigits (Nat.pow 2 63) .tooSmall ds 0).map fun n => -(Int.ofNat n)
  | ds => (readDigits (Nat.pow 2 63 - 1) .tooLarge ds 0).map Int.ofNat

/-- Reads an unsigned 64-bit integer. -/
def readUInt64 (s : String) : Except IntError Nat :=
  match s.toList with
  | [] => .error .empty
  | ['+'] => .error .invalidDigit
  | '+' :: ds => readDigits (Nat.pow 2 64 - 1) .tooLarge ds 0
  | ds => readDigits (Nat.pow 2 64 - 1) .tooLarge ds 0

end Switchboard.Text
