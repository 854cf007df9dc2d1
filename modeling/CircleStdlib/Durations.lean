import Mathlib.Algebra.Order.Group.Nat
import Mathlib.Data.Int.Order.Basic
import Mathlib.Algebra.Ring.Int.Defs

/-!
The two conversions of a duration to the microseconds that the scheduler takes:
`__libcpp_thread_sleep_for` and `__libcpp_condvar_timedwait` with `timespec_diff_us`. The
scheduler's arguments are `unsigned`. The values of type `long long` are integers here, as
long as the 64-bit arithmetic on them does not overflow; its division rounds towards zero.
-/

namespace CircleStdlib.Durations

def toUnsigned (value : Int) : Nat := (value % 2 ^ 32).toNat

inductive Pause where
  | usSleep (us : Nat)
  | yield
  deriving DecidableEq, Repr

def Pause.microseconds : Pause → Nat
  | .usSleep us => us
  | .yield => 0

-- `__libcpp_thread_sleep_for`.
def threadSleepFor (ns : Int) : Pause :=
  let us := ns.tdiv 1000
  if us > 0 then .usSleep (toUnsigned us) else .yield

structure Timespec where
  sec : Int
  nsec : Int
  valid : 0 ≤ nsec ∧ nsec < 1000000000

structure UniversalTime where
  sec : UInt32
  us : UInt32

def timespecDiffUs (abs : Timespec) (now : UniversalTime) : Int :=
  let absUs := abs.sec * 1000000 + abs.nsec.tdiv 1000
  let nowTotalUs := (now.sec.toNat : Int) * 1000000 + now.us.toNat
  let delta := absUs - nowTotalUs
  if delta > 0 then delta else 0

-- The argument of `DownWithTimeout` in `__libcpp_condvar_timedwait`.
def timedwaitTimeout (ts : Timespec) (now : UniversalTime) : Nat :=
  let deltaUs := timespecDiffUs ts now
  toUnsigned (if deltaUs < 0 then 0 else deltaUs)

/-! Deadlines count nanoseconds, and the clock counts microseconds. -/

def Timespec.nanoseconds (ts : Timespec) : Int := ts.sec * 1000000000 + ts.nsec

def UniversalTime.nanoseconds (now : UniversalTime) : Int :=
  (now.sec.toNat * 1000000 + now.us.toNat) * 1000

def remaining (ts : Timespec) (now : UniversalTime) : Int :=
  max 0 (ts.nanoseconds - now.nanoseconds)

/-- The wait asks for the time that is left, so that it does not end before the deadline. -/
structure WaitsLongEnough (ts : Timespec) (now : UniversalTime) : Prop where
  meets : (timedwaitTimeout ts now : Int) * 1000 = remaining ts now
  notBefore : ts.nanoseconds ≤ now.nanoseconds + timedwaitTimeout ts now * 1000

theorem toUnsigned_lt (value : Int) : toUnsigned value < 2 ^ 32 := by
  unfold toUnsigned
  omega

theorem toUnsigned_small (value : Int) (positive : 0 ≤ value) (small : value < 2 ^ 32) :
    (toUnsigned value : Int) = value := by
  unfold toUnsigned
  omega

theorem sleepFor_us (ns : Nat) :
    (threadSleepFor ns).microseconds = toUnsigned (ns / 1000 : Nat) := by
  unfold threadSleepFor
  have whole : (ns : Int).tdiv 1000 = (ns / 1000 : Nat) := by
    rw [Int.tdiv_eq_ediv_of_nonneg (by omega)]
    rfl
  rw [whole]
  dsimp only
  split
  · rfl
  · have none : (ns / 1000 : Nat) = 0 := by omega
    rw [none]
    rfl

theorem remaining_nonneg (ts : Timespec) (now : UniversalTime) : 0 ≤ remaining ts now := by
  unfold remaining
  omega

/-- The part of the deadline below a microsecond is dropped. -/
theorem diffUs_remaining (ts : Timespec) (now : UniversalTime) :
    timespecDiffUs ts now = remaining ts now / 1000 := by
  have valid := ts.valid
  have rounded : ts.nsec.tdiv 1000 = ts.nsec / 1000 := Int.tdiv_eq_ediv_of_nonneg valid.1
  unfold timespecDiffUs remaining Timespec.nanoseconds UniversalTime.nanoseconds
  rw [rounded]
  dsimp only
  split <;> omega

theorem timeout_remaining (ts : Timespec) (now : UniversalTime) :
    timedwaitTimeout ts now = toUnsigned (remaining ts now / 1000) := by
  have positive := remaining_nonneg ts now
  have kept : ¬ remaining ts now / 1000 < 0 := by omega
  unfold timedwaitTimeout
  rw [diffUs_remaining]
  dsimp only
  rw [if_neg kept]

theorem sleep_kept_iff (ns : Nat) :
    ns / 1000 ≤ (threadSleepFor ns).microseconds ↔ ns / 1000 < 2 ^ 32 := by
  rw [sleepFor_us]
  constructor
  · exact fun kept => Nat.lt_of_le_of_lt kept (toUnsigned_lt _)
  · intro narrow
    have same := toUnsigned_small (ns / 1000 : Nat) (by omega) (by omega)
    omega

theorem wait_kept_iff (ts : Timespec) (now : UniversalTime) :
    WaitsLongEnough ts now ↔
      remaining ts now % 1000 = 0 ∧ remaining ts now / 1000 < 2 ^ 32 := by
  have positive := remaining_nonneg ts now
  constructor
  · rintro ⟨meets, -⟩
    rw [timeout_remaining] at meets
    have below := toUnsigned_lt (remaining ts now / 1000)
    omega
  · rintro ⟨whole, narrow⟩
    have same := toUnsigned_small (remaining ts now / 1000) (by omega) narrow
    have meets : (timedwaitTimeout ts now : Int) * 1000 = remaining ts now := by
      rw [timeout_remaining, same]
      omega
    refine ⟨meets, ?_⟩
    rw [meets]
    unfold remaining
    omega

/-- For every duration, every deadline and every current time: a sleep asks for at least the
whole microseconds of the duration exactly when these are less than 2^32, and a timed wait
for the time that is left exactly when that is a whole number of microseconds below 2^32. -/
theorem durations_kept_iff_narrow (ns : Nat) (ts : Timespec) (now : UniversalTime) :
    (ns / 1000 ≤ (threadSleepFor ns).microseconds ↔ ns / 1000 < 2 ^ 32) ∧
      (WaitsLongEnough ts now ↔
        remaining ts now % 1000 = 0 ∧ remaining ts now / 1000 < 2 ^ 32) :=
  ⟨sleep_kept_iff ns, wait_kept_iff ts now⟩

/-- A sleep of 2^32 microseconds asks for none, a wait of 4295 seconds for 32704
microseconds, and one of 999 nanoseconds for none. -/
theorem long_shortened :
    (threadSleepFor 4294967296000).microseconds = 0 ∧
      timedwaitTimeout ⟨4295, 0, by decide⟩ ⟨0, 0⟩ = 32704 ∧
      timedwaitTimeout ⟨0, 1999, by decide⟩ ⟨0, 1⟩ = 0 ∧
      ¬ 4294967296000 / 1000 ≤ (threadSleepFor 4294967296000).microseconds ∧
      ¬ WaitsLongEnough ⟨4295, 0, by decide⟩ ⟨0, 0⟩ ∧
      ¬ WaitsLongEnough ⟨0, 1999, by decide⟩ ⟨0, 1⟩ := by
  refine ⟨by decide, by decide, by decide, by decide, ?_, ?_⟩
  · exact fun waits => absurd waits.meets (by decide)
  · exact fun waits => absurd waits.notBefore (by decide)

end CircleStdlib.Durations
