import EnvironmentOperator.Reconcile.Echo

namespace EnvironmentOperator

theorem Instant.leapBetween_bounds {a : Instant} (h : a.inLeapSecond = false) (b : Instant) :
    0 ≤ leapBetween a b ∧ leapBetween a b ≤ 1 := by
  unfold leapBetween
  rw [h]
  split
  · decide
  · simp

theorem Instant.inLeapSecond_plusSeconds (a : Instant) (n : Nat) :
    (a.plusSeconds n).inLeapSecond = a.inLeapSecond := by
  unfold inLeapSecond plusSeconds
  rfl

theorem Instant.nanosSince_plusSeconds {a : Instant} (h : a.inLeapSecond = false) (n : Nat) (b : Instant) :
    nanosSince a b ≤ nanosSince (a.plusSeconds n) b := by
  have hseconds : a.seconds - b.seconds + leapBetween a b ≤
      (a.plusSeconds n).seconds - b.seconds + leapBetween (a.plusSeconds n) b := by
    have hbefore := leapBetween_bounds h b
    have hafter := leapBetween_bounds ((inLeapSecond_plusSeconds a n).trans h) b
    cases n with
    | zero => simp [plusSeconds]
    | succ n =>
        simp only [plusSeconds] at hafter ⊢
        omega
  have hnanos := Int.mul_le_mul_of_nonneg_right hseconds (Int.natCast_nonneg Span.nanosPerSecond)
  unfold nanosSince
  exact Int.add_le_add hnanos (Int.le_refl _)

namespace Environment

variable {env : Environment} {interval : Span} {now : Instant}

def Fresh (env : Environment) (interval : Span) (now : Instant) : Prop :=
  ∃ status updated, env.status = some status ∧ env.statusIsCurrent status = true ∧
    status.lastUpdatedAt? = some updated ∧ (now.since updated).totalNanos < interval.totalNanos

theorem remaining_isSome {age : Span} :
    (remaining interval age).isSome = true ↔ age.totalNanos < interval.totalNanos := by
  unfold remaining
  split
  · rename_i hage
    exact iff_of_true rfl hage
  · rename_i hage
    exact iff_of_false Bool.false_ne_true hage

theorem statusEchoDelay_eq_some {left : Span} : env.statusEchoDelay interval now = some left ↔
    env.metadata.deletionTimestamp.isSome = false ∧ env.hasFinalizer = true ∧
      ∃ status, env.status = some status ∧ env.statusIsCurrent status = true ∧
        ∃ updated, status.lastUpdatedAt? = some updated ∧ remaining interval (now.since updated) = some left := by
  simp only [statusEchoDelay, Option.bind_eq_bind, Option.ite_none_left_eq_some, Option.ite_none_right_eq_some,
    Option.bind_eq_some_iff, Bool.or_eq_true, not_or, Bool.not_eq_true, Bool.not_eq_eq_eq_not, Bool.not_true,
    Bool.not_eq_false, and_assoc]

theorem statusEchoDelay_isSome : (env.statusEchoDelay interval now).isSome = true ↔
    env.metadata.deletionTimestamp.isSome = false ∧ env.hasFinalizer = true ∧ env.Fresh interval now := by
  rw [Option.isSome_iff_exists]
  constructor
  · rintro ⟨left, h⟩
    obtain ⟨hlive, hmarked, status, hstatus, hcurrent, updated, hupdated, hleft⟩ := statusEchoDelay_eq_some.1 h
    exact ⟨hlive, hmarked, status, updated, hstatus, hcurrent, hupdated,
      remaining_isSome.1 (Option.isSome_of_eq_some hleft)⟩
  · rintro ⟨hlive, hmarked, status, updated, hstatus, hcurrent, hupdated, hage⟩
    obtain ⟨left, hleft⟩ := Option.isSome_iff_exists.1 (remaining_isSome.2 hage)
    exact ⟨left, statusEchoDelay_eq_some.2 ⟨hlive, hmarked, status, hstatus, hcurrent, updated, hupdated, hleft⟩⟩

theorem Fresh.before (h : now.inLeapSecond = false) {n : Nat} (hfresh : env.Fresh interval (now.plusSeconds n)) :
    env.Fresh interval now := by
  obtain ⟨status, updated, hstatus, hcurrent, hupdated, hage⟩ := hfresh
  refine ⟨status, updated, hstatus, hcurrent, hupdated, ?_⟩
  have hgrows := Instant.nanosSince_plusSeconds h n updated
  simp only [Instant.since, Span.totalNanos_ofNanos] at hage ⊢
  omega

end Environment

end EnvironmentOperator
