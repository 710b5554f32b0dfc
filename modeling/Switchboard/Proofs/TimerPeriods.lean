import Switchboard.Cli.Parse
import Switchboard.Live.World
/-!
# Timer periods

The realtime core runs two periodic timers: each connection's heartbeat, at the ping interval,
and the presence ticker, at the presence interval. A timer whose period is zero cannot run at
all. The ping interval is nine tenths of the read deadline, computed as nine times the deadline,
then divided by ten.

For a read deadline of `n` nanoseconds, nine times it overflows exactly when `9n` reaches
`2^64 · 10^9` (`Duration.ninetenths?_eq_none_iff`); otherwise the ping interval is `⌊9n / 10⌋`
nanoseconds (`Duration.totalNanos_of_ninetenths?`), below the deadline exactly when the deadline
is positive, and non-zero exactly when it is at least two nanoseconds.

The command line gives both periods in whole seconds. A heartbeat with a non-zero period exists
exactly when the read deadline is at least a second and nine times it stays below `2^64`
seconds. The presence ticker sets its first tick one interval after the start on the monotonic
clock, so it runs exactly when its interval is at least a second and the start's reading plus
the interval stays within `2^63 - 1` seconds. Each queue holds at least one event. Main
statement, `timer_periods`; both bounds are reached by flag values
(`timer_periods_at_flag_bounds`).
-/

namespace Switchboard

open Time

namespace Time.Duration

@[simp] theorem totalNanos_ofNanos (n : Nat) : (ofNanos n).totalNanos = n := by
  simp only [ofNanos, totalNanos]
  exact Nat.div_add_mod' n nanosPerSec

@[simp] theorem totalNanos_ofSecs (s : Nat) : (ofSecs s).totalNanos = s * nanosPerSec := by
  simp [ofSecs, totalNanos]

@[simp] theorem totalNanos_div (d : Duration) (k : Nat) : (d.div k).totalNanos = d.totalNanos / k :=
  totalNanos_ofNanos _

theorem mul_totalNanos (d : Duration) (k : Nat) :
    k * d.totalNanos = d.nanos * k + nanosPerSec * (d.secs * k) := by
  unfold totalNanos
  rw [Nat.mul_add, Nat.add_comm]
  congr 1 <;> ac_rfl

/-- The seconds of `k` times a duration are the whole seconds of `k` times its length. -/
theorem mul_secs (d : Duration) (k : Nat) :
    d.secs * k + d.nanos * k / nanosPerSec = k * d.totalNanos / nanosPerSec := by
  rw [mul_totalNanos, Nat.add_mul_div_left _ _ (by decide : 0 < nanosPerSec)]
  exact Nat.add_comm _ _

/-- Multiplying fails exactly when the product passes the largest count of seconds. -/
theorem mul?_eq_none_iff (d : Duration) (k : Nat) :
    d.mul? k = none ↔ (maxSecs + 1) * nanosPerSec ≤ k * d.totalNanos := by
  simp only [mul?, mul_secs]
  constructor
  · intro h
    split at h
    · cases h
    · rename_i hgt
      exact (Nat.le_div_iff_mul_le (by decide)).1 (by omega)
  · intro h
    have hle := (Nat.le_div_iff_mul_le (by decide)).2 h
    rw [if_neg (by omega)]

theorem totalNanos_of_mul? {d m : Duration} {k : Nat} (h : d.mul? k = some m) :
    m.totalNanos = k * d.totalNanos := by
  simp only [mul?] at h
  split at h
  · cases h
    rw [mul_totalNanos]
    show (d.secs * k + d.nanos * k / nanosPerSec) * nanosPerSec + d.nanos * k % nanosPerSec = _
    simp only [nanosPerSec]
    omega
  · cases h

theorem ninetenths?_eq_none_iff (d : Duration) :
    d.ninetenths? = none ↔ (maxSecs + 1) * nanosPerSec ≤ 9 * d.totalNanos := by
  simp [ninetenths?, mul?_eq_none_iff]

theorem totalNanos_of_ninetenths? {d p : Duration} (h : d.ninetenths? = some p) :
    p.totalNanos = 9 * d.totalNanos / 10 := by
  obtain ⟨m, hm, rfl⟩ := Option.map_eq_some_iff.1 h
  rw [totalNanos_div, totalNanos_of_mul? hm]

end Time.Duration

open Time.Duration

namespace Cli.Settings

variable (s : Settings)

/-- From whole seconds, a non-zero ping interval exists exactly when the read deadline is at
least a second and nine times it is still a count of seconds. -/
theorem pingInterval_pos_iff :
    (∃ p, s.config.pingInterval? = some p ∧ 0 < p.totalNanos) ↔
      0 < s.pongWaitSecs ∧ 9 * s.pongWaitSecs ≤ maxSecs := by
  have hmax : maxSecs = 18446744073709551615 := rfl
  have hn : s.config.pongWait.totalNanos = s.pongWaitSecs * nanosPerSec := totalNanos_ofSecs _
  cases hp : s.config.pingInterval? with
  | none =>
    have hover := (ninetenths?_eq_none_iff _).1 hp
    rw [hn] at hover
    simp only [reduceCtorEq, false_and, exists_false, false_iff, not_and]
    intro _
    simp only [nanosPerSec, hmax] at hover ⊢
    omega
  | some p =>
    have hlen := totalNanos_of_ninetenths? hp
    have hfits : ¬ (maxSecs + 1) * nanosPerSec ≤ 9 * s.config.pongWait.totalNanos := fun h => by
      have hnone : s.config.pingInterval? = none := (ninetenths?_eq_none_iff _).2 h
      rw [hnone] at hp
      cases hp
    rw [hn] at hlen hfits
    simp only [Option.some.injEq, exists_eq_left', hlen]
    simp only [nanosPerSec, hmax] at hfits ⊢
    omega

theorem presenceInterval_pos_iff :
    0 < s.config.presenceInterval.totalNanos ↔ 0 < s.presenceIntervalSecs := by
  simp [config, nanosPerSec]

/-- The first presence tick after a start at `origin` has a reading exactly when the interval's
seconds fit after the start's. -/
theorem presenceInterval_fits_iff (origin : Monotonic) :
    origin.fits s.config.presenceInterval.totalNanos = true ↔ origin.secs + s.presenceIntervalSecs ≤ maxMonoSecs := by
  have hn : s.config.presenceInterval.totalNanos = s.presenceIntervalSecs * nanosPerSec := totalNanos_ofSecs _
  rw [hn, Monotonic.fits_secs, decide_eq_true_iff]

end Cli.Settings

/-- The presence ticker is armed exactly when its period is non-zero and its first tick has a
reading on the monotonic clock. -/
theorem Live.World.start_presenceNext_isSome (hub : Hub) (c : Config) (origin : Monotonic) :
    (Live.World.start hub c origin).presenceNext.isSome ↔
      0 < c.presenceInterval.totalNanos ∧ origin.fits c.presenceInterval.totalNanos = true := by
  simp [Live.World.start, Nat.pos_iff_ne_zero]

/-- The periods of the heartbeat and of the presence ticker: when nine times the read deadline
overflows, what the ping interval is otherwise, and which command lines give both timers a
period they can run at, the presence ticker's first tick a reading on the monotonic clock. -/
theorem timer_periods (d : Duration) (s : Cli.Settings) (hub : Hub) (origin : Monotonic) :
    (d.ninetenths? = none ↔ (maxSecs + 1) * nanosPerSec ≤ 9 * d.totalNanos) ∧
    (∀ p, d.ninetenths? = some p → p.totalNanos = 9 * d.totalNanos / 10 ∧
      (p.totalNanos < d.totalNanos ↔ 0 < d.totalNanos) ∧ (0 < p.totalNanos ↔ 2 ≤ d.totalNanos)) ∧
    ((∃ p, s.config.pingInterval? = some p ∧ 0 < p.totalNanos) ↔
      0 < s.pongWaitSecs ∧ 9 * s.pongWaitSecs ≤ maxSecs) ∧
    ((Live.World.start hub s.config origin).presenceNext.isSome ↔
      0 < s.presenceIntervalSecs ∧ origin.secs + s.presenceIntervalSecs ≤ maxMonoSecs) ∧
    1 ≤ (Egress.make s.config.egressCapacity).capacity := by
  refine ⟨ninetenths?_eq_none_iff d, fun p hp => ?_, s.pingInterval_pos_iff, ?_, ?_⟩
  · have hlen := totalNanos_of_ninetenths? hp
    refine ⟨hlen, ?_, ?_⟩ <;> omega
  · rw [Live.World.start_presenceNext_isSome, s.presenceInterval_pos_iff, s.presenceInterval_fits_iff]
  · exact Nat.le_max_right _ _

/-- A read deadline of zero seconds gives a zero ping interval, one of the largest count of
seconds gives none, a presence interval of zero seconds is zero, and one of the largest count
of seconds has no first tick even on a clock started at boot. -/
theorem timer_periods_at_flag_bounds :
    ({ pongWaitSecs := 0 } : Cli.Settings).config.pingInterval? = some ⟨0, 0⟩ ∧
    ({ pongWaitSecs := maxSecs } : Cli.Settings).config.pingInterval? = none ∧
    ({ presenceIntervalSecs := 0 } : Cli.Settings).config.presenceInterval.totalNanos = 0 ∧
    (Live.World.start {} ({ presenceIntervalSecs := maxSecs } : Cli.Settings).config).presenceNext = none := by
  refine ⟨by decide, by decide, by decide, by decide⟩

end Switchboard
