import EnvironmentOperator.Time.Span
/-!
Points in time: whole seconds since 1970 and nanoseconds within the second. A leap second is the second
before it with a thousand million nanoseconds or more.
-/
namespace EnvironmentOperator

structure Instant where
  seconds : Int
  nanos : Nat
deriving DecidableEq

namespace Instant

def secondsPerDay : Int := 86400

def timeOfDay (t : Instant) : Int := t.seconds % secondsPerDay

def inLeapSecond (t : Instant) : Bool := decide (Span.nanosPerSecond ≤ t.nanos)

def wholeSeconds (t : Instant) : Instant :=
  ⟨t.seconds, if t.inLeapSecond then Span.nanosPerSecond else 0⟩

def plusSeconds (t : Instant) (n : Nat) : Instant := ⟨t.seconds + n, t.nanos⟩

def le (a b : Instant) : Bool :=
  decide (a.seconds < b.seconds ∨ a.seconds = b.seconds ∧ a.nanos ≤ b.nanos)

def latest (a b : Instant) : Instant := if a.le b then b else a

/-- A leap second strictly between the two times of day is counted once. -/
def leapBetween (a b : Instant) : Int :=
  if b.timeOfDay < a.timeOfDay ∧ b.inLeapSecond = true then 1
  else if a.timeOfDay < b.timeOfDay ∧ a.inLeapSecond = true then -1
  else 0

def nanosSince (a b : Instant) : Int :=
  (a.seconds - b.seconds + leapBetween a b) * Span.nanosPerSecond + ((a.nanos : Int) - b.nanos)

def since (a b : Instant) : Span := Span.ofNanos (nanosSince a b).toNat

@[simp] theorem wholeSeconds_wholeSeconds (t : Instant) : t.wholeSeconds.wholeSeconds = t.wholeSeconds := by
  unfold wholeSeconds inLeapSecond
  by_cases h : Span.nanosPerSecond ≤ t.nanos <;> simp [h]

theorem le_latest_left (a b : Instant) : a.le (latest a b) = true := by
  unfold latest
  by_cases h : a.le b = true
  · simp [h]
  · rw [if_neg h]
    simp [le]

theorem le_total (a b : Instant) : a.le b = true ∨ b.le a = true := by
  simp only [le, decide_eq_true_eq]; omega

end Instant

end EnvironmentOperator
