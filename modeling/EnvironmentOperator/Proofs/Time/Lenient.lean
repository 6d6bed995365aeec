import EnvironmentOperator.Proofs.Time.Rfc3339
import Mathlib.Data.List.Induction
/-!
Instants as they are exchanged in manifests. An instant of the calendar reads back in whole seconds, and whatever can be
read is an instant of the calendar.
-/
namespace EnvironmentOperator

namespace Instant

/-- An instant of the calendar, where a leap second is the last of its minute. -/
structure Recordable (t : Instant) : Prop where
  counted : Calendar.isCountedDay (t.seconds / 86400) = true
  leap : t.inLeapSecond = true → t.seconds % 60 = 59

end Instant

namespace Rfc3339

open Instant EnvironmentOperator.Text

variable {t : Instant}

section Write

theorem counted_of_isCountedDay (h : Calendar.isCountedDay (t.seconds / 86400) = true) : (dateOf t).Counted := by
  have hvalid : (dateOf t).Valid := Calendar.ofDays_valid _
  have hdays : (dateOf t).toDays = t.seconds / 86400 := Calendar.toDays_ofDays _
  obtain ⟨hleast, hgreatest⟩ := of_decide_eq_true h
  rw [← hdays] at hleast hgreatest
  exact ⟨Calendar.year_le_of_toDays_le (by decide) hvalid hleast,
    Calendar.year_le_of_toDays_le hvalid (by decide) hgreatest⟩

theorem written_of_leap (h : t.inLeapSecond = true → t.seconds % 60 = 59) : written t = t.wholeSeconds := by
  obtain ⟨htime, hcast⟩ := timeOfDay_bounds t
  have hmod : t.timeOfDay = t.seconds % 86400 := rfl
  unfold written Instant.wholeSeconds
  cases hleap : t.inLeapSecond with
  | true =>
      have hsecond : secondOf t = 60 := by
        have hlast := h hleap
        rw [secondOf, hleap, if_pos rfl]
        omega
      rw [if_pos hsecond]
      rfl
  | false =>
      have hsecond : secondOf t ≠ 60 := by
        rw [secondOf, hleap]
        simp
        omega
      rw [if_neg hsecond]
      simp

theorem written_of_recordable (h : t.Recordable) : written t = t.wholeSeconds := written_of_leap h.leap

theorem read_lenient_write (h : t.Recordable) : read .lenient (write t) = .ok t.wholeSeconds := by
  have hcounted := counted_of_isCountedDay h.counted
  have hyear : year .lenient ((yearText (dateOf t).year).toList ++ afterYear t) =
      .ok ((dateOf t).year, afterYear t) := by
    by_cases hfour : 0 ≤ (dateOf t).year ∧ (dateOf t).year ≤ 9999
    · exact year_yearText .lenient hfour _
    · obtain ⟨hleast, hgreatest⟩ := hcounted
      rw [Calendar.leastYear] at hleast
      rw [Calendar.greatestYear] at hgreatest
      exact year_signed hfour (by omega) (by omega) (by decide) _
  rw [read_of_year hyear, assemble_of_counted hcounted h.counted, written_of_recordable h]

end Write

section Read

variable {style : Style} {cs rest : List Char} {n low high : Nat} {east : Int}

theorem field_le (h : field style low high cs = .ok (n, rest)) : n ≤ high := by
  unfold field bounded at h
  obtain ⟨⟨m, rest'⟩, -, h⟩ := bind_eq_ok.1 h
  dsimp only at h
  split at h
  · rename_i hbounds
    cases h
    exact hbounds.2
  · cases h

theorem digitsValue_lt {ds : List Char} (h : ∀ c ∈ ds, isDigit c = true) : digitsValue ds < 10 ^ ds.length := by
  induction ds using List.reverseRecOn with
  | nil => decide
  | append_singleton ds c ih =>
      have hds := ih fun c hc => h c (List.mem_append_left _ hc)
      have hten := digitValue_lt (h c (List.mem_append_right _ (List.mem_singleton_self c)))
      rw [digitsValue_concat, List.length_append, List.length_singleton, pow_succ]
      omega

theorem digits_lt {least greatest : Nat} (h : digits least greatest cs = .ok (n, rest)) :
    cs.length - rest.length ≤ greatest ∧ n < 10 ^ (cs.length - rest.length) := by
  unfold digits at h
  generalize hds : (cs.take greatest).takeWhile isDigit = ds at h
  dsimp only at h
  split at h
  · cases h
  · split at h
    · cases h
    · cases h
      have hprefix : ds <+: cs.take greatest := hds ▸ List.takeWhile_prefix _
      have hlength : ds.length ≤ greatest ∧ ds.length ≤ cs.length := by
        have hle := hprefix.length_le
        rw [List.length_take] at hle
        omega
      have hsame : cs.length - (cs.drop ds.length).length = ds.length := by
        rw [List.length_drop]
        omega
      rw [hsame]
      exact ⟨hlength.1, digitsValue_lt fun c hc => List.mem_takeWhile_imp (hds ▸ hc)⟩

theorem fraction_lt (h : fraction cs = .ok (n, rest)) : n < 1000000000 := by
  unfold fraction at h
  split at h
  · rename_i _ digits
    split at h
    · cases h
    · rename_i m after hdigits
      cases h
      obtain ⟨hle, hlt⟩ := digits_lt hdigits
      generalize digits.length - after.length = k at hle hlt
      calc m * tenTo (9 - k) < 10 ^ k * 10 ^ (9 - k) := Nat.mul_lt_mul_of_pos_right hlt (tenTo_pos _)
        _ = 10 ^ 9 := by rw [← pow_add, Nat.add_sub_cancel' hle]
  · cases h
    decide

theorem offset_minutes (h : offset style cs = .ok (east, rest)) : east % 60 = 0 := by
  unfold offset at h
  split at h
  · cases h
    rfl
  · cases h
    rfl
  · simp only [bind_eq_ok] at h
    obtain ⟨⟨negative, cs₁⟩, -, ⟨hours, cs₂⟩, -, cs₃, -, ⟨minutes, cs₄⟩, -, h⟩ := h
    cases h
    dsimp only
    split <;> omega

theorem zone_minutes (h : zone style cs = .ok (east, rest)) : east % 60 = 0 := by
  unfold zone at h
  dsimp only at h
  split at h
  · split at h
    · cases h
      rfl
    · exact offset_minutes h
  · exact offset_minutes h

theorem recordable_of_assemble {date : Calendar.Date} {hour minute second nanos : Nat} (hsecond : second ≤ 60)
    (hnanos : nanos < 1000000000) (heast : east % 60 = 0)
    (h : assemble date hour minute second nanos east = .ok t) : t.Recordable := by
  unfold assemble at h
  split at h
  · dsimp only at h
    split at h
    · cases h
    · rename_i hcounted
      generalize hwhole : date.toDays * 86400 + (hour : Int) * 3600 + (minute : Int) * 60 - east = whole at h hcounted
      have hminute : whole % 60 = 0 := by omega
      have hday : Calendar.isCountedDay (whole / 86400) = true := by simpa using hcounted
      split at h
      · cases h
        have hsame : (whole + 59) / 86400 = whole / 86400 := by omega
        exact ⟨hsame.symm ▸ hday, fun _ => by dsimp only; omega⟩
      · cases h
        have hsame : (whole + second) / 86400 = whole / 86400 := by omega
        refine ⟨hsame.symm ▸ hday, fun hleap => ?_⟩
        have hleap := inLeapSecond_iff.1 hleap
        dsimp only at hleap
        omega
  · cases h

theorem recordable_of_read {text : String} (h : read style text = .ok t) : t.Recordable := by
  simp only [read, bind_eq_ok] at h
  obtain ⟨⟨y, cs₁⟩, -, cs₂, -, ⟨month, cs₃⟩, -, cs₄, -, ⟨day, cs₅⟩, -, cs₆, -, ⟨hour, cs₇⟩, -, cs₈, -,
    ⟨minute, cs₉⟩, -, cs₁₀, -, ⟨second, cs₁₁⟩, hsecond, ⟨nanos, cs₁₂⟩, hnanos, ⟨east, cs₁₃⟩, heast, h⟩ := h
  dsimp only at h
  split at h
  · cases h
  · exact recordable_of_assemble (field_le hsecond) (fraction_lt hnanos) (zone_minutes heast) h

end Read

end Rfc3339

namespace Instant

variable {t : Instant} {j : Json}

theorem Recordable.decode_encode (h : t.Recordable) : decode (encode t) = .ok t.wholeSeconds := by
  show (Rfc3339.read .lenient (Rfc3339.write t)).mapError DecodeError.notInstant = _
  rw [Rfc3339.read_lenient_write h]
  rfl

theorem recordable_of_decode (h : decode j = .ok t) : t.Recordable := by
  cases j with
  | str s =>
      change (Rfc3339.read .lenient s).mapError DecodeError.notInstant = .ok t at h
      cases hread : Rfc3339.read .lenient s with
      | error e =>
          rw [hread] at h
          cases h
      | ok t' =>
          rw [hread] at h
          cases h
          exact Rfc3339.recordable_of_read hread
  | _ => cases h

theorem encode_wholeSeconds (t : Instant) : encode t.wholeSeconds = encode t :=
  congrArg Json.str (Rfc3339.write_eq_of_seconds rfl (by
    rcases Rfc3339.nanos_wholeSeconds t with ⟨hnanos, hleap⟩ | ⟨hnanos, hleap⟩
    · rw [hleap, Rfc3339.inLeapSecond_iff, hnanos]
    · rw [hleap, inLeapSecond, hnanos]
      rfl))

end Instant

end EnvironmentOperator
