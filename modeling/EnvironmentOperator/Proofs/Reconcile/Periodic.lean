import EnvironmentOperator.Proofs.Reconcile.Retry
import EnvironmentOperator.Proofs.Reconcile.Steady

namespace EnvironmentOperator

open Cluster Environment

namespace Instant

variable {t u : Instant} {d : Span}

/-- The clock after so long, when neither reading is a leap second. -/
def plus (t : Instant) (d : Span) : Instant :=
  ⟨t.seconds + ((t.nanos + d.totalNanos) / Span.nanosPerSecond : Nat), (t.nanos + d.totalNanos) % Span.nanosPerSecond⟩

theorem nanos_lt (h : t.inLeapSecond = false) : t.nanos < Span.nanosPerSecond := by
  simpa [inLeapSecond] using h

theorem inLeapSecond_plus (t : Instant) (d : Span) : (t.plus d).inLeapSecond = false := by
  have hnanos := Nat.mod_lt (t.nanos + d.totalNanos) (show 0 < Span.nanosPerSecond by decide)
  exact decide_eq_false (Nat.not_le.2 hnanos)

theorem nanosSince_of_plain (ht : t.inLeapSecond = false) (hu : u.inLeapSecond = false) :
    nanosSince t u = (t.seconds - u.seconds) * Span.nanosPerSecond + ((t.nanos : Int) - u.nanos) := by
  simp [nanosSince, leapBetween, ht, hu]

theorem nanosSince_plus (ht : t.inLeapSecond = false) (hu : u.inLeapSecond = false) (d : Span) :
    nanosSince (t.plus d) u = nanosSince t u + d.totalNanos := by
  rw [nanosSince_of_plain (inLeapSecond_plus t d) hu, nanosSince_of_plain ht hu]
  simp only [plus, Span.nanosPerSecond]
  omega

theorem nanosSince_neg_iff (ht : t.inLeapSecond = false) (hu : u.inLeapSecond = false) :
    nanosSince t u < 0 ↔ u.le t = false := by
  have htnanos := nanos_lt ht
  have hunanos := nanos_lt hu
  rw [nanosSince_of_plain ht hu, le, decide_eq_false_iff_not]
  simp only [Span.nanosPerSecond] at *
  omega

end Instant

namespace Environment

variable {env : Environment} {interval d : Span} {t u : Instant} {status : EnvironmentStatus}

theorem previousUpdate_eq (hstatus : env.status = some status) :
    Status.previousUpdate env = status.lastUpdatedAt? := by
  rw [Status.previousUpdate, hstatus, Option.bind_some]

def Ahead (env : Environment) (t : Instant) : Prop := ∃ u, Status.previousUpdate env = some u ∧ u.le t = false

def Plain (env : Environment) : Prop := ∀ u, Status.previousUpdate env = some u → u.inLeapSecond = false

theorem ahead_iff (h : Status.previousUpdate env = some u) : env.Ahead t ↔ u.le t = false := by
  simp [Ahead, h]

theorem fresh_iff (hstatus : env.status = some status) (hcurrent : env.statusIsCurrent status = true) :
    env.Fresh interval t ↔ 0 < interval.totalNanos ∧
      ∃ u, status.lastUpdatedAt? = some u ∧ t.nanosSince u < interval.totalNanos := by
  have hage (u : Instant) : (t.since u).totalNanos < interval.totalNanos ↔
      0 < interval.totalNanos ∧ t.nanosSince u < interval.totalNanos := by
    rw [Instant.since, Span.totalNanos_ofNanos]
    omega
  constructor
  · rintro ⟨status', u, hstatus', -, hu, hyoung⟩
    cases hstatus.symm.trans hstatus'
    exact ⟨((hage u).1 hyoung).1, u, hu, ((hage u).1 hyoung).2⟩
  · rintro ⟨hinterval, u, hu, hyoung⟩
    exact ⟨status, u, hstatus, hcurrent, hu, (hage u).2 ⟨hinterval, hyoung⟩⟩

theorem remaining_eq_some {age left : Span} : remaining interval age = some left ↔
    age.totalNanos < interval.totalNanos ∧ left = Span.ofNanos (interval.totalNanos - age.totalNanos) := by
  simp [remaining, eq_comm]

theorem echo_again (ht : t.inLeapSecond = false) (hplain : env.Plain)
    (h : env.statusEchoDelay interval t = some d) :
    (env.statusEchoDelay interval (t.plus d)).isSome = true ↔ env.Ahead t := by
  obtain ⟨hlive, hmarked, status, hstatus, hcurrent, u, hu, hleft⟩ := statusEchoDelay_eq_some.1 h
  obtain ⟨hyoung, rfl⟩ := remaining_eq_some.1 hleft
  have hprevious := (previousUpdate_eq hstatus).trans hu
  have hbefore := Instant.nanosSince_neg_iff ht (hplain u hprevious)
  have hsum := Instant.nanosSince_plus ht (hplain u hprevious)
    (Span.ofNanos (interval.totalNanos - (t.since u).totalNanos))
  -- The second age is the first one, as it was before it was clamped, plus the rest of the interval.
  rw [statusEchoDelay_isSome, fresh_iff hstatus hcurrent, hu, ahead_iff hprevious, ← hbefore]
  simp only [Instant.since, Span.totalNanos_ofNanos] at hyoung hsum ⊢
  simp only [hlive, hmarked, hsum, Option.some.injEq, exists_eq_left', true_and]
  omega

end Environment

namespace Pass

variable {settings : Settings} {t : Instant} {c c' : Cluster} {ns name : String}

structure Reports (t : Instant) (env env' : Environment) : Prop where
  live : env'.metadata.deletionTimestamp.isSome = false
  marked : env'.hasFinalizer = true
  status : ∃ status, env'.status = some status ∧ env'.statusIsCurrent status = true ∧
    status.lastUpdated = some (Status.timeText env t)

theorem reports_of_converged (h : Reachable c)
    (hrun : (run settings t ns name).run (answerer t) c = (.ok .converged, c')) :
    ∃ o env o' env', Stored c (Environment.address (some ns) name).key o env ∧
      Stored c' (Environment.address (some ns) name).key o' env' ∧ Reports t env env' := by
  have houtcome := (run_along settings t ns name h.kept).run
  rw [hrun] at houtcome
  obtain ⟨hcalm, o, env, s, c₁, o₁, env₁, c₂, hconverges⟩ := houtcome
  obtain ⟨rfl, rfl⟩ := scope_of_stored h.kept hconverges.stored hconverges.scope
  obtain ⟨o', env', l, _, hsteady⟩ := hconverges.steady hcalm
  obtain ⟨generation, version, conditions, hgeneration, -, hstored'⟩ := hconverges.reports
  obtain ⟨rfl, rfl⟩ := hstored'.unique hsteady.stored
  refine ⟨o, env, _, _, hconverges.stored, hsteady.stored, hsteady.live, hsteady.marked, _, rfl, ?_, ?_⟩
  · simp [statusIsCurrent, reportedEnvironment, Status.reportedAs, Metadata.exchanged, hgeneration]
  · simp [Status.timeText, Status.previousUpdate, hconverges.marks.status]

theorem Reports.echo_iff {env env' : Environment} {interval : Span} (h : Reports t env env')
    (hinterval : 0 < interval.totalNanos) (ht : t.inLeapSecond = false) (hplain : env'.Plain) :
    (env'.statusEchoDelay interval (t.plus interval)).isSome = true ↔ env'.Ahead t := by
  obtain ⟨status, hstatus, hcurrent, -⟩ := h.status
  have hprevious := previousUpdate_eq hstatus
  rw [statusEchoDelay_isSome, fresh_iff hstatus hcurrent, ← hprevious]
  simp only [h.live, h.marked, hinterval, true_and, Ahead]
  refine exists_congr fun u => and_congr_right fun hu => ?_
  rw [Instant.nanosSince_plus ht (hplain u hu), ← Instant.nanosSince_neg_iff ht (hplain u hu)]
  omega

theorem inYearRange_nextTimestamp {previous : Option Instant} (ht : Status.InYearRange t)
    (hprevious : ∀ u, previous = some u → (Rfc3339.dateOf u).year ≤ 9999) :
    Status.InYearRange (Status.nextTimestamp previous t) := by
  cases previous with
  | none => exact ht
  | some u =>
      have hbefore := hprevious u rfl
      rw [Status.InYearRange] at ht
      rw [Status.nextTimestamp, Status.InYearRange, Rfc3339.year_latest]
      omega

theorem Reports.updated {env env' : Environment} (h : Reports t env env') (ht : Status.InYearRange t)
    (hprevious : ∀ u, Status.previousUpdate env = some u → (Rfc3339.dateOf u).year ≤ 9999) :
    ∃ l, Status.previousUpdate env' = some l := by
  obtain ⟨status, hstatus, -, htext⟩ := h.status
  rw [previousUpdate_eq hstatus, EnvironmentStatus.lastUpdatedAt?, htext, Option.bind_some, Status.timeText]
  exact ⟨_, Rfc3339.parse?_write (inYearRange_nextTimestamp ht hprevious)⟩

theorem Reports.echo {env env' : Environment} {interval : Span} {l t' : Instant} (h : Reports t env env')
    (hinterval : 0 < interval.totalNanos) (hl : Status.previousUpdate env' = some l)
    (hearly : t'.nanosSince l < interval.totalNanos) :
    env'.statusEchoDelay interval t' = some (Span.ofNanos (interval.totalNanos - (t'.nanosSince l).toNat)) := by
  obtain ⟨status, hstatus, hcurrent, -⟩ := h.status
  refine statusEchoDelay_eq_some.2 ⟨h.live, h.marked, status, hstatus, hcurrent, l,
    (previousUpdate_eq hstatus).symm.trans hl, remaining_eq_some.2 ?_⟩
  rw [Instant.since, Span.totalNanos_ofNanos]
  refine ⟨?_, rfl⟩
  omega

end Pass

namespace Reconcile

section Skip

variable {settings : Settings} {t : Instant} {env : Environment} {d : Span}

def skip (d : Span) : Program PassError Action := .measure (.requeued .statusEcho) (.done (.requeueAfter d))

def Skips (settings : Settings) (t : Instant) (env : Environment) : Prop := ∃ d, reconcile settings t env = skip d

theorem reconcile_eq_skip : reconcile settings t env = skip d ↔
    env.statusEchoDelay settings.successInterval t = some d := by
  unfold reconcile
  cases env.statusEchoDelay settings.successInterval t with
  | none => constructor <;> intro h <;> cases h
  | some left => constructor <;> intro h <;> cases h <;> rfl

theorem skips_iff : Skips settings t env ↔ (env.statusEchoDelay settings.successInterval t).isSome = true := by
  simp only [Skips, reconcile_eq_skip, Option.isSome_iff_exists]

end Skip

section Noon

def noon : Instant := ⟨43200, 0⟩

def eleven : Instant := ⟨39600, 0⟩

theorem skip_eleven : reconcile {} eleven (aliceIn (Pass.afterPass noon)) = skip ⟨600, 0⟩ :=
  reconcile_eq_skip.2 (by decide +kernel)

theorem updated_noon : Status.previousUpdate (aliceIn (Pass.afterPass noon)) = some noon := by decide +kernel

theorem plain_noon : (aliceIn (Pass.afterPass noon)).Plain := by
  intro u hu
  cases updated_noon.symm.trans hu
  rfl

theorem converged_noon : (Pass.run {} noon "team" "alice").run (answerer noon) (Pass.submitted (some "alice") []) =
    (.ok .converged, Pass.afterPass noon) := Pass.run_of_fst (by with_unfolding_all rfl)

end Noon

section Converged

variable {settings : Settings} {t : Instant} {c c' : Cluster} {ns name : String}

theorem successInterval_pos (h : 1 ≤ settings.successSeconds) : 0 < settings.successInterval.totalNanos := by
  rw [Settings.successInterval, Span.totalNanos_ofSeconds]
  exact Nat.mul_pos h (by decide)

/-- An event that has been answered without a pass is answered so again when its delay has run out, or when the
interval after a pass has, exactly as long as the clock has not reached the time in the status. -/
theorem skips_iff_ahead (settings : Settings) (hinterval : 1 ≤ settings.successSeconds) (ht : t.inLeapSecond = false) :
    (∀ env d, env.Plain → reconcile settings t env = skip d → (Skips settings (t.plus d) env ↔ env.Ahead t)) ∧
      ∀ c c' ns name o env, Reachable c → (Pass.run settings t ns name).run (answerer t) c = (.ok .converged, c') →
        Stored c' (Environment.address (some ns) name).key o env → env.Plain →
        (Skips settings (t.plus settings.successInterval) env ↔ env.Ahead t) := by
  constructor
  · intro env d hplain hskip
    rw [skips_iff]
    exact echo_again ht hplain (reconcile_eq_skip.1 hskip)
  · intro c c' ns name o env h hrun hstored hplain
    obtain ⟨_, env₀, o', env', -, hstored', hreports⟩ := Pass.reports_of_converged h hrun
    obtain ⟨rfl, rfl⟩ := hstored'.unique hstored
    rw [skips_iff]
    exact hreports.echo_iff (successInterval_pos hinterval) ht hplain

theorem skips_iff_ahead_noon : Skips {} (eleven.plus ⟨600, 0⟩) (aliceIn (Pass.afterPass noon)) ∧
    ¬Skips {} (noon.plus ⟨600, 0⟩) (aliceIn (Pass.afterPass noon)) := by
  constructor
  · exact ((skips_iff_ahead {} (by decide) rfl).1 _ _ plain_noon skip_eleven).2 ⟨noon, updated_noon, rfl⟩
  · intro hskips
    obtain ⟨o, hstored⟩ := stored_alice (c := Pass.afterPass noon) (by with_unfolding_all rfl)
    have hahead := ((skips_iff_ahead {} (by decide) rfl).2 _ _ _ _ o _ Pass.reachable_submitted converged_noon
      hstored plain_noon).1 hskips
    cases (ahead_iff updated_noon).1 hahead

theorem periodic_skipped : ¬∀ (settings : Settings) (t : Instant), 1 ≤ settings.successSeconds →
    t.inLeapSecond = false →
    (∀ env d, env.Plain → reconcile settings t env = skip d → ¬Skips settings (t.plus d) env) ∧
      ∀ c c' ns name o env, Reachable c → (Pass.run settings t ns name).run (answerer t) c = (.ok .converged, c') →
        Stored c' (Environment.address (some ns) name).key o env → env.Plain →
        ¬Skips settings (t.plus settings.successInterval) env := by
  intro h
  refine (h {} eleven (by decide) rfl).1 _ _ plain_noon skip_eleven ?_
  exact skips_iff.2 (by decide +kernel)

/-- Until the interval after the stored time has run out, an event for what a converged pass has stored is answered
with the rest of the interval, and no pass. -/
theorem skips_until_due (settings : Settings) (h : Reachable c) (hinterval : 1 ≤ settings.successSeconds)
    (ht : 1970 ≤ (Rfc3339.dateOf t).year ∧ (Rfc3339.dateOf t).year ≤ 9999)
    (hbefore : ∀ o env u, Stored c (Environment.address (some ns) name).key o env →
      Status.previousUpdate env = some u → (Rfc3339.dateOf u).year ≤ 9999)
    (hrun : (Pass.run settings t ns name).run (answerer t) c = (.ok .converged, c')) :
    ∃ o env l, Stored c' (Environment.address (some ns) name).key o env ∧ Status.previousUpdate env = some l ∧
      ∀ t' : Instant, t'.nanosSince l < settings.successInterval.totalNanos → ∃ d,
        env.statusEchoDelay settings.successInterval t' = some d ∧ reconcile settings t' env = skip d ∧
          d = Span.ofNanos (settings.successInterval.totalNanos - (t'.nanosSince l).toNat) ∧
          0 < d.totalNanos ∧ d.totalNanos ≤ settings.successInterval.totalNanos := by
  obtain ⟨o₀, env₀, o, env, hstored₀, hstored, hreports⟩ := Pass.reports_of_converged h hrun
  have hyear : Status.InYearRange t := ⟨by omega, ht.2⟩
  obtain ⟨l, hl⟩ := hreports.updated hyear fun u hu => hbefore o₀ env₀ u hstored₀ hu
  refine ⟨o, env, l, hstored, hl, ?_⟩
  intro t' hearly
  have hecho := hreports.echo (successInterval_pos hinterval) hl hearly
  have hpos := successInterval_pos hinterval
  refine ⟨_, hecho, reconcile_eq_skip.2 hecho, rfl, ?_⟩
  rw [Span.totalNanos_ofNanos]
  omega

theorem skips_until_due_noon : ∃ o env l, Stored (Pass.afterPass noon) alice.key o env ∧
    Status.previousUpdate env = some l ∧ ∀ t' : Instant, t'.nanosSince l < 600000000000 → ∃ d,
      env.statusEchoDelay ⟨600, 0⟩ t' = some d ∧ reconcile {} t' env = skip d ∧
        d = Span.ofNanos (600000000000 - (t'.nanosSince l).toNat) ∧ 0 < d.totalNanos ∧
        d.totalNanos ≤ 600000000000 := by
  refine skips_until_due {} Pass.reachable_submitted (by decide) (by decide) ?_ converged_noon
  intro o env u hstored hu
  obtain ⟨rfl, rfl⟩ := Pass.stored_submitted.unique hstored
  cases hu

end Converged

end Reconcile

end EnvironmentOperator
