import Switchboard.Time.Duration
/-
# Readings of the monotonic clock

Timers are set against the monotonic clock. The platform keeps a reading as whole seconds, a
signed 64-bit count, and nanoseconds below a second. Setting a timer `d` after now adds `d` to
the reading: whole seconds carry out of the nanoseconds, and once the seconds pass `2^63 - 1` the
addition panics (`overflow when adding duration to instant`), so the timer is never set.
-/
namespace Switchboard.Time

/-- The largest count of seconds a reading of the monotonic clock holds, `2^63 - 1`. -/
def maxMonoSecs : Nat := 9223372036854775807

/-- A reading of the monotonic clock. -/
structure Monotonic where
  secs : Nat
  nanos : Nat
  secs_le : secs ≤ maxMonoSecs
  nanos_lt : nanos < nanosPerSec

namespace Monotonic

def boot : Monotonic := ⟨0, 0, Nat.zero_le _, by decide⟩

/-- The reading `n` nanoseconds after `t` exists: adding them does not overflow. -/
def fits (t : Monotonic) (n : Nat) : Bool := decide (t.secs + (t.nanos + n) / nanosPerSec ≤ maxMonoSecs)

/-- Whole seconds added to a reading carry nothing out of its nanoseconds. -/
theorem fits_secs (t : Monotonic) (s : Nat) : t.fits (s * nanosPerSec) = decide (t.secs + s ≤ maxMonoSecs) := by
  have h := t.nanos_lt
  have hdiv : (t.nanos + s * nanosPerSec) / nanosPerSec = s := by
    rw [Nat.add_mul_div_right _ _ (by decide : 0 < nanosPerSec), Nat.div_eq_of_lt h, Nat.zero_add]
  simp only [fits, hdiv]

/-- A later reading that exists has every earlier one. -/
theorem fits_of_le {t : Monotonic} {m n : Nat} (hmn : m ≤ n) (h : t.fits n = true) : t.fits m = true := by
  simp only [fits, decide_eq_true_eq] at h ⊢
  have := Nat.div_le_div_right (c := nanosPerSec) (Nat.add_le_add_left hmn t.nanos)
  omega

end Monotonic

end Switchboard.Time
