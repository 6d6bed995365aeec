import EnvironmentOperator.Proofs.Reconcile.Periodic

namespace EnvironmentOperator

namespace Instant

variable {t u : Instant}

def sinceEpoch (t : Instant) : Int := t.seconds * Span.nanosPerSecond + t.nanos

theorem nanosSince_eq_sub (ht : t.inLeapSecond = false) (hu : u.inLeapSecond = false) :
    nanosSince t u = t.sinceEpoch - u.sinceEpoch := by
  rw [nanosSince_of_plain ht hu, sinceEpoch, sinceEpoch]
  simp only [Span.nanosPerSecond]
  omega

theorem sinceEpoch_le (ht : t.inLeapSecond = false) (h : t.le u = true) : t.sinceEpoch ≤ u.sinceEpoch := by
  have hnanos := nanos_lt ht
  rw [Rfc3339.le_iff] at h
  simp only [sinceEpoch, Span.nanosPerSecond] at hnanos ⊢
  omega

def age (t u : Instant) : Int := max 0 (t.sinceEpoch - u.sinceEpoch)

theorem age_le_age {t' : Instant} (ht : t.inLeapSecond = false) (h : t.le t' = true) (u : Instant) :
    age t u ≤ age t' u := by
  have hle := sinceEpoch_le ht h
  simp only [age]
  omega

theorem totalNanos_since (ht : t.inLeapSecond = false) (hu : u.inLeapSecond = false) :
    ((t.since u).totalNanos : Int) = age t u := by
  rw [since, Span.totalNanos_ofNanos, nanosSince_eq_sub ht hu, age]
  omega

end Instant

theorem Span.eq_ofNanos_iff {d : Span} {n : Nat} :
    d = Span.ofNanos n ↔ d.nanos < Span.nanosPerSecond ∧ d.totalNanos = n := by
  obtain ⟨seconds, nanos⟩ := d
  simp only [ofNanos, totalNanos, nanosPerSecond, mk.injEq]
  omega

namespace Environment

variable {env : Environment} {now later updated : Instant} {interval d d' : Span}

structure Reported (env : Environment) (updated : Instant) : Prop where
  live : env.metadata.deletionTimestamp = none
  marked : finalizer ∈ env.metadata.finalizerList
  observed : ∃ status generation, env.status = some status ∧ status.observedGeneration = some generation ∧
    env.metadata.generation = some generation ∧ status.lastUpdatedAt? = some updated

theorem statusIsCurrent_iff {status : EnvironmentStatus} : env.statusIsCurrent status = true ↔
    ∃ generation, status.observedGeneration = some generation ∧ env.metadata.generation = some generation := by
  rw [statusIsCurrent]
  cases status.observedGeneration with
  | none => simp
  | some generation => simp [eq_comm]

theorem reported_iff : env.Reported updated ↔ env.metadata.deletionTimestamp.isSome = false ∧ env.hasFinalizer = true ∧
    ∃ status, env.status = some status ∧ env.statusIsCurrent status = true ∧ status.lastUpdatedAt? = some updated := by
  simp only [statusIsCurrent_iff, hasFinalizer, List.contains_iff_mem, Option.isSome_eq_false_iff,
    Option.isNone_iff_eq_none]
  constructor
  · rintro ⟨hlive, hmarked, status, generation, hstatus, hobserved, hgeneration, hupdated⟩
    exact ⟨hlive, hmarked, status, hstatus, ⟨generation, hobserved, hgeneration⟩, hupdated⟩
  · rintro ⟨hlive, hmarked, status, hstatus, ⟨generation, hobserved, hgeneration⟩, hupdated⟩
    exact ⟨hlive, hmarked, status, generation, hstatus, hobserved, hgeneration, hupdated⟩

structure Left (interval : Span) (now updated : Instant) (d : Span) : Prop where
  young : Instant.age now updated < interval.totalNanos
  rest : (d.totalNanos : Int) = interval.totalNanos - Instant.age now updated
  whole : d.nanos < Span.nanosPerSecond

theorem left_iff (hnow : now.inLeapSecond = false) (hupdated : updated.inLeapSecond = false) :
    remaining interval (now.since updated) = some d ↔ Left interval now updated d := by
  have hage := Instant.totalNanos_since hnow hupdated
  rw [remaining_eq_some, Span.eq_ofNanos_iff]
  constructor
  · rintro ⟨hyoung, hwhole, hrest⟩
    exact ⟨by omega, by omega, hwhole⟩
  · rintro ⟨hyoung, hrest, hwhole⟩
    exact ⟨by omega, hwhole, by omega⟩

theorem Left.pos (h : Left interval now updated d) : 0 < d.totalNanos ∧ d.totalNanos ≤ interval.totalNanos := by
  have hyoung := h.young
  have hrest := h.rest
  have hage : 0 ≤ Instant.age now updated := Int.le_max_left ..
  omega

theorem Left.earlier (hnow : now.inLeapSecond = false) (hle : now.le later = true)
    (h : Left interval later updated d') : ∃ d, Left interval now updated d ∧ d'.totalNanos ≤ d.totalNanos := by
  obtain ⟨hyoung, hrest, -⟩ := h
  have hage := Instant.age_le_age hnow hle updated
  refine ⟨Span.ofNanos (interval.totalNanos - Instant.age now updated).toNat, ⟨by omega, ?_, ?_⟩, ?_⟩
  · rw [Span.totalNanos_ofNanos]
    omega
  · exact Nat.mod_lt _ (by decide)
  · rw [Span.totalNanos_ofNanos]
    omega

theorem echo_iff_left (hplain : env.Plain) (hnow : now.inLeapSecond = false) :
    env.statusEchoDelay interval now = some d ↔ ∃ updated, env.Reported updated ∧ Left interval now updated d := by
  have hcalm {status : EnvironmentStatus} {updated : Instant} (hstatus : env.status = some status)
      (hupdated : status.lastUpdatedAt? = some updated) : updated.inLeapSecond = false :=
    hplain updated ((previousUpdate_eq hstatus).trans hupdated)
  rw [statusEchoDelay_eq_some]
  constructor
  · rintro ⟨hlive, hmarked, status, hstatus, hcurrent, updated, hupdated, hleft⟩
    exact ⟨updated, reported_iff.2 ⟨hlive, hmarked, status, hstatus, hcurrent, hupdated⟩,
      (left_iff hnow (hcalm hstatus hupdated)).1 hleft⟩
  · rintro ⟨updated, hreported, hleft⟩
    obtain ⟨hlive, hmarked, status, hstatus, hcurrent, hupdated⟩ := reported_iff.1 hreported
    exact ⟨hlive, hmarked, status, hstatus, hcurrent, updated, hupdated,
      (left_iff hnow (hcalm hstatus hupdated)).2 hleft⟩

theorem echo_earlier (hplain : env.Plain) (hnow : now.inLeapSecond = false) (hlater : later.inLeapSecond = false)
    (hle : now.le later = true) (h : env.statusEchoDelay interval later = some d') :
    ∃ d, env.statusEchoDelay interval now = some d ∧ d'.totalNanos ≤ d.totalNanos := by
  obtain ⟨updated, hreported, hleft⟩ := (echo_iff_left hplain hlater).1 h
  obtain ⟨d, hleft, hshrinks⟩ := hleft.earlier hnow hle
  exact ⟨d, (echo_iff_left hplain hnow).2 ⟨updated, hreported, hleft⟩, hshrinks⟩

/-- An event is an echo for exactly what is left of the interval, while there is something left of it; that never grows
as the clock goes on, and once there is nothing left there is nothing later. -/
theorem echo_delay_exact (env : Environment) (seconds : Nat) (hplain : env.Plain) (hnow : now.inLeapSecond = false) :
    (∀ d, env.statusEchoDelay (Span.ofSeconds seconds) now = some d ↔
      ∃ updated, env.Reported updated ∧ Left (Span.ofSeconds seconds) now updated d) ∧
    (∀ d, env.statusEchoDelay (Span.ofSeconds seconds) now = some d →
      0 < d.totalNanos ∧ d.totalNanos ≤ (Span.ofSeconds seconds).totalNanos) ∧
    ∀ later : Instant, later.inLeapSecond = false → now.le later = true →
      (∀ d d', env.statusEchoDelay (Span.ofSeconds seconds) now = some d →
        env.statusEchoDelay (Span.ofSeconds seconds) later = some d' → d'.totalNanos ≤ d.totalNanos) ∧
      (env.statusEchoDelay (Span.ofSeconds seconds) now = none →
        env.statusEchoDelay (Span.ofSeconds seconds) later = none) := by
  refine ⟨fun d => echo_iff_left hplain hnow, ?_, ?_⟩
  · intro d h
    obtain ⟨updated, -, hleft⟩ := (echo_iff_left hplain hnow).1 h
    exact hleft.pos
  · intro later hlater hle
    constructor
    · intro d d' h h'
      obtain ⟨d₀, h₀, hshrinks⟩ := echo_earlier hplain hnow hlater hle h'
      cases h.symm.trans h₀
      exact hshrinks
    · intro h
      refine Option.eq_none_iff_forall_ne_some.2 fun d' h' => ?_
      obtain ⟨d₀, h₀, -⟩ := echo_earlier hplain hnow hlater hle h'
      cases h.symm.trans h₀

section QuarterPast

def quarterPast : Environment where
  metadata := { generation := some 2, finalizers := some ["other.example/hold", finalizer] }
  spec := { language := "go" }
  status := some { lastUpdated := some "2026-03-01T13:00:00.25+01:00", observedGeneration := some 2 }

theorem reported_quarterPast : quarterPast.Reported ⟨1772366400, 250000000⟩ where
  live := rfl
  marked := by decide
  observed := ⟨_, 2, rfl, rfl, rfl, by decide +kernel⟩

theorem plain_quarterPast : quarterPast.Plain := by
  intro u hu
  have hread : Status.previousUpdate quarterPast = some ⟨1772366400, 250000000⟩ := by decide +kernel
  cases hread.symm.trans hu
  rfl

theorem echo_delay_exact_quarterPast :
    quarterPast.statusEchoDelay (Span.ofSeconds 600) ⟨1772366500, 0⟩ = some ⟨500, 250000000⟩ ∧
      quarterPast.statusEchoDelay (Span.ofSeconds 600) ⟨1772367001, 0⟩ = none := by
  have hover : quarterPast.statusEchoDelay (Span.ofSeconds 600) ⟨1772367000, 250000000⟩ = none := by decide +kernel
  constructor
  · refine ((echo_delay_exact quarterPast 600 plain_quarterPast rfl).1 _).2 ⟨_, reported_quarterPast, ?_⟩
    exact ⟨by decide, by decide, by decide⟩
  · exact ((echo_delay_exact quarterPast 600 plain_quarterPast rfl).2.2 _ rfl (by decide)).2 hover

end QuarterPast

end Environment

end EnvironmentOperator
