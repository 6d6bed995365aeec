import EnvironmentOperator.Proofs.Reconcile.Steady
import EnvironmentOperator.Proofs.Time.Lenient

namespace EnvironmentOperator

namespace Instant

variable {t l : Instant}

theorem eq_of_le_of_le (h : t.le l = true) (h' : l.le t = true) : t = l := by
  obtain ⟨seconds, nanos⟩ := t
  obtain ⟨seconds', nanos'⟩ := l
  rw [Rfc3339.le_iff] at h h'
  simp only [mk.injEq] at h h' ⊢
  omega

theorem le_trans {s : Instant} (h : s.le t = true) (h' : t.le l = true) : s.le l = true := by
  rw [Rfc3339.le_iff] at h h' ⊢
  omega

theorem wholeSeconds_le (t : Instant) : t.wholeSeconds.le t = true :=
  Rfc3339.le_of_wholeSeconds ((le_total t t).elim id id)

theorem le_iff_of_wholeSeconds (hl : l.wholeSeconds = l) (h : t.wholeSeconds.le l = true) :
    t.le l = true ↔ t.wholeSeconds = t ∨ l.le t = false := by
  constructor
  · intro hle
    by_cases hback : l.le t = true
    · left
      rw [eq_of_le_of_le hle hback, hl]
    · exact .inr (Bool.not_eq_true _ ▸ hback)
  · rintro (hwhole | hback)
    · rwa [hwhole] at h
    · exact (le_total t l).resolve_right (by simp [hback])

end Instant

namespace Rfc3339

open Instant

variable {s t : Instant}

theorem recordable_of_parse {text : String} (h : parse? text = some t) : t.Recordable := by
  rw [parse?] at h
  cases hread : read .strict text with
  | error e =>
      rw [hread] at h
      cases h
  | ok t' =>
      rw [hread] at h
      cases h
      exact recordable_of_read hread

theorem wholeSeconds_mono (h : s.le t = true) : s.wholeSeconds.le t.wholeSeconds = true := by
  have hnanos := nanos_wholeSeconds s
  have hnanos' := nanos_wholeSeconds t
  have hleap := inLeapSecond_iff (t := s)
  have hleap' := inLeapSecond_iff (t := t)
  rw [le_iff] at h ⊢
  -- Within one second only a leap second has a later beginning, and it is not followed by an ordinary time.
  show s.seconds < t.seconds ∨ s.seconds = t.seconds ∧ _
  grind

theorem le_written_of_le (h : s.le t = true) : s.wholeSeconds.le (written t) = true :=
  Instant.le_trans (wholeSeconds_mono h) (le_written t)

/-- A leap second that is not the last of its minute is written as the second after it. -/
theorem written_of_early_leap (hleap : t.inLeapSecond = true) (h : t.seconds % 60 ≠ 59) :
    written t = ⟨t.seconds + 1, 0⟩ := by
  obtain ⟨htime, hcast⟩ := timeOfDay_bounds t
  have hmod : t.timeOfDay = t.seconds % 86400 := rfl
  have hsecond : secondOf t ≠ 60 := by
    rw [secondOf, hleap, if_pos rfl]
    omega
  rw [written, if_neg hsecond, hleap]
  rfl

theorem written_latest_le_iff (hs : s.Recordable) :
    (written (s.latest t)).le s = true ↔ t.wholeSeconds.le s = true := by
  unfold Instant.latest
  by_cases hle : s.le t = true
  · rw [if_pos hle]
    by_cases hleap : t.inLeapSecond = true → t.seconds % 60 = 59
    · rw [written_of_leap hleap]
    · obtain ⟨hleap, hearly⟩ := Classical.not_imp.1 hleap
      have hseconds : t.wholeSeconds.seconds = t.seconds := rfl
      have hnanos := nanos_wholeSeconds t
      have hstored := inLeapSecond_iff (t := s)
      rw [written_of_early_leap hleap hearly]
      rw [le_iff] at hle
      refine iff_of_false ?_ ?_
      · rw [le_iff]
        dsimp only
        omega
      · -- The stored time would be in a leap second too, and that is the last of its minute.
        intro h
        rw [le_iff] at h
        have hlast := hs.leap (hstored.2 (by simp only [hleap] at hnanos; simp at hnanos; omega))
        omega
  · have hlater := (Instant.le_total s t).resolve_left hle
    rw [if_neg hle, written_of_recordable hs]
    exact iff_of_true (wholeSeconds_le s) (le_of_wholeSeconds hlater)

end Rfc3339

namespace Status

open Rfc3339

variable {env : Environment} {previous now : Instant}

theorem recordable_previousUpdate (h : previousUpdate env = some previous) : previous.Recordable := by
  obtain ⟨status, -, hupdated⟩ := Option.bind_eq_some_iff.1 h
  obtain ⟨text, -, hread⟩ := Option.bind_eq_some_iff.1 hupdated
  exact recordable_of_parse hread

theorem member?_readyPatch (env : Environment) (s : Scope) (now : Instant) :
    (readyPatch env s now).member? "lastUpdated" = some (.str (timeText env now)) := rfl

theorem inYearRange_latest_iff (hprevious : (dateOf previous).year ≤ 9999) (hnow : (dateOf now).year ≤ 9999) :
    InYearRange (previous.latest now) ↔ 0 ≤ (dateOf previous).year ∨ 0 ≤ (dateOf now).year := by
  rw [InYearRange, year_latest]
  omega

/-- The time that is reported can be read unless both times lie before the year 0. It is not before the second of the
stored time. It is before the stored time itself exactly when that has a fraction and the clock's second has begun by
then. -/
theorem reported_time_advances (s : Scope) (hprevious : previousUpdate env = some previous)
    (hbefore : (dateOf previous).year ≤ 9999) (hnow : (dateOf now).year ≤ 9999) :
    ∃ text, (readyPatch env s now).member? "lastUpdated" = some (.str text) ∧
      ((∃ l, parse? text = some l) ↔ 0 ≤ (dateOf previous).year ∨ 0 ≤ (dateOf now).year) ∧
      ∀ l, parse? text = some l → previous.wholeSeconds.le l = true ∧
        (previous.le l = true ↔ previous.wholeSeconds = previous ∨ now.wholeSeconds.le previous = false) := by
  have htext : timeText env now = write (previous.latest now) := by
    rw [timeText, hprevious]
    rfl
  have hrecordable := recordable_previousUpdate hprevious
  refine ⟨_, member?_readyPatch env s now, ?_, ?_⟩
  · simp only [htext, parse?_write_eq_some]
    rw [exists_and_left, and_iff_left ⟨_, rfl⟩]
    exact inYearRange_latest_iff hbefore hnow
  · intro l hl
    rw [htext, parse?_write_eq_some] at hl
    obtain ⟨-, rfl⟩ := hl
    have hle : previous.wholeSeconds.le (written (previous.latest now)) = true :=
      le_written_of_le (Instant.le_latest_left previous now)
    refine ⟨hle, ?_⟩
    rw [Instant.le_iff_of_wholeSeconds (wholeSeconds_written _) hle, ← Bool.not_eq_true, ← Bool.not_eq_true,
      written_latest_le_iff hrecordable]

section HalfPast

def halfPast : Environment where
  spec := { language := "rust" }
  status := some { lastUpdated := some "2026-03-01T13:05:00.5+01:00" }

def halfPastScope : Scope := { name := "alice", «namespace» := "team", uid := "", domainSuffix := "example.test" }

def halfPastTime : Instant := ⟨1772366700, 500000000⟩

theorem previousUpdate_halfPast : previousUpdate halfPast = some halfPastTime := by decide +kernel

theorem reported_time_advances_halfPast : ∃ text l,
    (readyPatch halfPast halfPastScope ⟨1772366701, 0⟩).member? "lastUpdated" = some (.str text) ∧
      parse? text = some l ∧ halfPastTime.le l = true := by
  have hclock : (dateOf ⟨1772366701, 0⟩).year ≤ 9999 := by decide
  obtain ⟨text, htext, hread, hadvances⟩ := reported_time_advances halfPastScope previousUpdate_halfPast (by decide)
    hclock
  obtain ⟨l, hl⟩ := hread.2 (.inr (by decide))
  exact ⟨text, l, htext, hl, (hadvances l hl).2.2 (.inr (by decide))⟩

theorem parse?_timeText_halfPast : parse? (timeText halfPast ⟨1772366400, 0⟩) = some ⟨1772366700, 0⟩ := by
  decide +kernel

theorem reported_time_goes_back : ¬∀ (env : Environment) (s : Scope) (previous now : Instant),
    previousUpdate env = some previous → (dateOf previous).year ≤ 9999 → (dateOf now).year ≤ 9999 →
      ∃ text l, (readyPatch env s now).member? "lastUpdated" = some (.str text) ∧ parse? text = some l ∧
        previous.le l = true := by
  intro h
  obtain ⟨text, l, htext, hl, hle⟩ := h halfPast halfPastScope halfPastTime ⟨1772366400, 0⟩ previousUpdate_halfPast
    (by decide) (by decide)
  rw [member?_readyPatch] at htext
  cases htext
  rw [parse?_timeText_halfPast] at hl
  cases hl
  revert hle
  decide

end HalfPast

end Status

end EnvironmentOperator
