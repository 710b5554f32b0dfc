/-
# Durations

A duration is whole seconds, at most `2^64 - 1`, and nanoseconds below `10^9`.
Building one from seconds and nanoseconds carries whole seconds out of the nanoseconds
and fails when the seconds then pass the limit. Multiplying by a whole number fails on
the same limit. Dividing by a whole number rounds the total nanoseconds down.

The heartbeat runs at nine tenths of the read deadline: `Duration.ninetenths?` is
`⌊9n / 10⌋` nanoseconds for a deadline of `n` nanoseconds, and fails exactly when
`9n` reaches `2^64 · 10^9`.
-/
namespace Switchboard.Time

def nanosPerSec : Nat := 1000000000

def maxSecs : Nat := Nat.pow 2 64 - 1

structure Duration where
  secs : Nat
  nanos : Nat
  deriving DecidableEq, Repr

namespace Duration

def totalNanos (d : Duration) : Nat := d.secs * nanosPerSec + d.nanos

def ofNanos (n : Nat) : Duration := ⟨n / nanosPerSec, n % nanosPerSec⟩

def ofSecs (s : Nat) : Duration := ⟨s, 0⟩

def ofMillis (ms : Nat) : Duration := ⟨ms / 1000, ms % 1000 * 1000000⟩

/-- Seconds and nanoseconds, the whole seconds of the nanoseconds carried over;
`none` when the seconds pass the limit. -/
def make? (secs nanos : Nat) : Option Duration :=
  let s := secs + nanos / nanosPerSec
  if s ≤ maxSecs then some ⟨s, nanos % nanosPerSec⟩ else none

/-- `k` times the duration; `none` when the seconds pass the limit. -/
def mul? (d : Duration) (k : Nat) : Option Duration :=
  let total := d.nanos * k
  let s := d.secs * k + total / nanosPerSec
  if s ≤ maxSecs then some ⟨s, total % nanosPerSec⟩ else none

def div (d : Duration) (k : Nat) : Duration := ofNanos (d.totalNanos / k)

/-- Nine tenths of the duration, or `none` when nine times it is past the limit. -/
def ninetenths? (d : Duration) : Option Duration :=
  (d.mul? 9).map (·.div 10)

end Duration

end Switchboard.Time
