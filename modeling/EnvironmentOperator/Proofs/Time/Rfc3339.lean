import EnvironmentOperator.Proofs.Decoding
import EnvironmentOperator.Proofs.Text.Numeral
import EnvironmentOperator.Proofs.Time.Calendar
import EnvironmentOperator.Time.Rfc3339
import Mathlib.Data.List.TakeWhile

namespace EnvironmentOperator

namespace Text

theorem length_add_le_octets (cs : List Char) (n : Nat) :
    cs.length + n ≤ cs.foldl (fun n c => n + c.utf8Size) n := by
  induction cs generalizing n with
  | nil => simp
  | cons c rest ih =>
      have hsize := c.utf8Size_pos
      have hrest := ih (n + c.utf8Size)
      simp only [List.foldl_cons, List.length_cons]
      omega

theorem length_le_octets (cs : List Char) : cs.length ≤ octets cs := length_add_le_octets cs 0

end Text

namespace Rfc3339

open EnvironmentOperator.Text

theorem takeWhile_isDigit_padded (w n : Nat) :
    ((padded w n).toList).takeWhile isDigit = (padded w n).toList :=
  List.takeWhile_eq_self_iff.2 fun _ h => isDigit_of_mem_padded h

theorem digits_padded {l w n : Nat} (hl : l ≤ w) (hw : 0 < w) (h : n < 10 ^ w) (rest : List Char) :
    digits l w ((padded w n).toList ++ rest) = .ok (n, rest) := by
  have hlength := length_padded hw h
  have htake : ((padded w n).toList ++ rest).take w = (padded w n).toList := List.take_left' hlength
  have hdrop : ((padded w n).toList ++ rest).drop w = rest := List.drop_left' hlength
  have hoctets : l ≤ octets ((padded w n).toList ++ rest) := by
    refine Nat.le_trans (Nat.le_trans hl ?_) (length_le_octets _)
    rw [List.length_append, hlength]
    exact Nat.le_add_right w _
  rw [digits, htake, takeWhile_isDigit_padded, if_neg (Nat.not_lt.2 hoctets), hlength, if_neg (Nat.not_lt.2 hl),
    digitsValue_padded, hdrop]

theorem blanks_cons (style : Style) {c : Char} (hc : isBlank c = false) (cs : List Char) :
    style.blanks (c :: cs) = c :: cs := by
  cases style with
  | strict => rfl
  | lenient => exact List.dropWhile_cons_of_neg (by simp [hc])

theorem isBlank_of_isDigit {c : Char} (h : isDigit c = true) : isBlank c = false := by
  obtain ⟨hlow, hhigh⟩ := isDigit_bounds h
  simp only [isBlank, Bool.or_eq_false_iff, Bool.and_eq_false_iff, decide_eq_false_iff_not]
  omega

theorem padded_cons {w n : Nat} (hw : 0 < w) (h : n < 10 ^ w) :
    ∃ c cs, isDigit c = true ∧ (padded w n).toList = c :: cs := by
  have hlength := length_padded hw h
  cases hp : (padded w n).toList with
  | nil =>
      rw [hp] at hlength
      exact absurd hlength (by simp; omega)
  | cons c cs => exact ⟨c, cs, isDigit_of_mem_padded (hp ▸ List.mem_cons_self ..), rfl⟩

theorem blanks_padded (style : Style) {w n : Nat} (hw : 0 < w) (h : n < 10 ^ w) (rest : List Char) :
    style.blanks ((padded w n).toList ++ rest) = (padded w n).toList ++ rest := by
  obtain ⟨c, cs, hc, hp⟩ := padded_cons hw h
  rw [hp]
  exact blanks_cons style (isBlank_of_isDigit hc) _

theorem field_padded (style : Style) {low high n : Nat} (hlow : low ≤ n) (hhigh : n ≤ high) (h : high < 100)
    (rest : List Char) : field style low high ((padded 2 n).toList ++ rest) = .ok (n, rest) := by
  have hn : n < 10 ^ 2 := by omega
  have hwidth : style.width 2 ≤ 2 := by cases style <;> decide
  rw [field, blanks_padded style (by decide) hn, digits_padded hwidth (by decide) hn]
  exact if_pos ⟨hlow, hhigh⟩

theorem symbol_cons (c : Char) (rest : List Char) : symbol c (c :: rest) = .ok rest := if_pos rfl

theorem year_strict (cs : List Char) :
    year .strict cs = (do
      let (n, rest) ← digits 4 4 cs
      return ((n : Int), rest)) := rfl

theorem year_of_digit {c : Char} (hc : isDigit c = true) (cs : List Char) :
    year .lenient (c :: cs) = (do
      let (n, rest) ← digits 1 4 (c :: cs)
      return ((n : Int), rest)) := by
  have hminus : c ≠ '-' := by
    rintro rfl
    exact absurd hc (by decide)
  have hplus : c ≠ '+' := by
    rintro rfl
    exact absurd hc (by decide)
  unfold year
  rw [blanks_cons .lenient (isBlank_of_isDigit hc)]
  split
  · rename_i heq
    exact absurd (List.cons.inj heq).1 hminus
  · rename_i heq
    exact absurd (List.cons.inj heq).1 hplus
  · rfl

theorem year_yearText (style : Style) {y : Int} (h : 0 ≤ y ∧ y ≤ 9999) (rest : List Char) :
    year style ((yearText y).toList ++ rest) = .ok (y, rest) := by
  have hy : y.toNat < 10 ^ 4 := by omega
  have hread (l : Nat) (hl : l ≤ 4) : (do
      let (n, rest) ← digits l 4 ((padded 4 y.toNat).toList ++ rest)
      return ((n : Int), rest) : Except Error (Int × List Char)) = .ok (y, rest) := by
    rw [digits_padded hl (by decide) hy rest]
    show Except.ok ((y.toNat : Int), rest) = _
    rw [Int.toNat_of_nonneg h.1]
  rw [yearText, if_pos h]
  cases style with
  | strict => exact hread 4 (by decide)
  | lenient =>
      obtain ⟨c, cs, hc, hp⟩ := padded_cons (by decide) hy
      have hread := hread 1 (by decide)
      rw [hp, List.cons_append] at hread ⊢
      rw [year_of_digit hc, hread]

theorem digits_all {w n : Nat} {c : Char} (hc : isDigit c = false) (rest : List Char) :
    digits 1 ((padded w n).toList ++ c :: rest).length ((padded w n).toList ++ c :: rest) = .ok (n, c :: rest) := by
  have hdigits : ((padded w n).toList ++ c :: rest).takeWhile isDigit = (padded w n).toList := by
    rw [List.takeWhile_append_of_pos fun _ h => isDigit_of_mem_padded h,
      List.takeWhile_cons_of_neg (by simp [hc]), List.append_nil]
  have hlength : 1 ≤ (padded w n).toList.length := by
    rw [padded_toList, List.length_append, List.length_replicate]
    have hsome := Nat.length_toDigits_pos (b := 10) (n := n)
    omega
  have hoctets : 1 ≤ octets ((padded w n).toList ++ c :: rest) := by
    refine Nat.le_trans ?_ (length_le_octets _)
    rw [List.length_append]
    omega
  rw [digits, List.take_length, hdigits, if_neg (Nat.not_lt.2 hoctets), if_neg (Nat.not_lt.2 hlength),
    digitsValue_padded, List.drop_left]

theorem signedYear_padded {negative : Bool} {n : Nat} {y : Int} (hy : y = if negative then -(n : Int) else n)
    (hlow : -2147483648 ≤ y) (hhigh : y < 2147483648) {c : Char} (hc : isDigit c = false) (rest : List Char) :
    signedYear negative ((padded 4 n).toList ++ c :: rest) = .ok (y, c :: rest) := by
  have htwo : twoTo 31 = 2147483648 := by decide
  rw [signedYear, digits_all hc, bind_ok, htwo]
  dsimp only
  rw [← hy]
  exact if_pos ⟨hlow, hhigh⟩

theorem year_minus (cs : List Char) : year .lenient ('-' :: cs) = signedYear true cs := by
  unfold year
  rw [blanks_cons .lenient (by decide)]
  rfl

theorem year_plus (cs : List Char) : year .lenient ('+' :: cs) = signedYear false cs := by
  unfold year
  rw [blanks_cons .lenient (by decide)]
  rfl

theorem year_signed {y : Int} (h : ¬(0 ≤ y ∧ y ≤ 9999)) (hlow : -2147483648 ≤ y) (hhigh : y < 2147483648) {c : Char}
    (hc : isDigit c = false) (rest : List Char) :
    year .lenient ((yearText y).toList ++ c :: rest) = .ok (y, c :: rest) := by
  rw [yearText, if_neg h]
  by_cases hneg : y < 0
  · have hminus : "-".toList = ['-'] := rfl
    rw [if_pos hneg, String.toList_append, hminus, List.append_assoc, List.singleton_append, year_minus]
    exact signedYear_padded (by rw [if_pos rfl]; omega) hlow hhigh hc rest
  · have hplus : "+".toList = ['+'] := rfl
    rw [if_neg hneg, String.toList_append, hplus, List.append_assoc, List.singleton_append, year_plus]
    exact signedYear_padded (by rw [if_neg Bool.false_ne_true]; omega) hlow hhigh hc rest

def dateOf (t : Instant) : Calendar.Date := Calendar.Date.ofDays (t.seconds / Instant.secondsPerDay)

theorem year_dateOf_le {s t : Instant} (h : s.seconds ≤ t.seconds) : (dateOf s).year ≤ (dateOf t).year := by
  refine Calendar.year_le_of_toDays_le (Calendar.ofDays_valid _) (Calendar.ofDays_valid _) ?_
  rw [dateOf, dateOf, Calendar.toDays_ofDays, Calendar.toDays_ofDays]
  exact Int.ediv_le_ediv (by decide) h

def secondOf (t : Instant) : Nat := t.timeOfDay.toNat % 60 + if t.inLeapSecond then 1 else 0

theorem write_toList (t : Instant) :
    (write t).toList = (yearText (dateOf t).year).toList ++ '-' :: ((padded 2 (dateOf t).month).toList ++
      '-' :: ((padded 2 (dateOf t).day).toList ++ 'T' :: ((padded 2 (t.timeOfDay.toNat / 3600)).toList ++
      ':' :: ((padded 2 (t.timeOfDay.toNat / 60 % 60)).toList ++ ':' :: ((padded 2 (secondOf t)).toList ++
      ['Z']))))) := by
  simp [write, dateOf, secondOf, String.toList_append, List.append_assoc]

theorem timeOfDay_bounds (t : Instant) : t.timeOfDay.toNat < 86400 ∧ (t.timeOfDay.toNat : Int) = t.timeOfDay := by
  have h0 := Int.emod_nonneg t.seconds (show Instant.secondsPerDay ≠ 0 by decide)
  have h1 := Int.emod_lt_of_pos t.seconds (show 0 < Instant.secondsPerDay by decide)
  have hday : Instant.secondsPerDay = 86400 := rfl
  unfold Instant.timeOfDay
  omega

theorem secondOf_le (t : Instant) : secondOf t ≤ 60 := by
  unfold secondOf
  split <;> omega

def afterYear (t : Instant) : List Char :=
  '-' :: ((padded 2 (dateOf t).month).toList ++
    '-' :: ((padded 2 (dateOf t).day).toList ++ 'T' :: ((padded 2 (t.timeOfDay.toNat / 3600)).toList ++
    ':' :: ((padded 2 (t.timeOfDay.toNat / 60 % 60)).toList ++ ':' :: ((padded 2 (secondOf t)).toList ++ ['Z'])))))

theorem read_of_year {style : Style} {t : Instant}
    (h : year style ((yearText (dateOf t).year).toList ++ afterYear t) = .ok ((dateOf t).year, afterYear t)) :
    read style (write t) =
      assemble (dateOf t) (t.timeOfDay.toNat / 3600) (t.timeOfDay.toNat / 60 % 60) (secondOf t) 0 0 := by
  have hvalid : (dateOf t).Valid := Calendar.ofDays_valid _
  obtain ⟨hmonth, hmonth', hday, hday'⟩ := hvalid
  have hday31 := Nat.le_trans hday' (Calendar.daysIn_le _ _)
  have htime := (timeOfDay_bounds t).1
  have hhour : t.timeOfDay.toNat / 3600 ≤ 23 := by omega
  have hminute : t.timeOfDay.toNat / 60 % 60 ≤ 59 := by omega
  have hdash (cs : List Char) : style.blanks ('-' :: cs) = '-' :: cs := blanks_cons style (by decide) cs
  have hcolon (cs : List Char) : style.blanks (':' :: cs) = ':' :: cs := blanks_cons style (by decide) cs
  have hfraction : fraction ['Z'] = .ok (0, ['Z']) := rfl
  have hzone : zone style ['Z'] = .ok (0, []) := by cases style <;> rfl
  have hend : style.blanks [] = [] := by cases style <;> rfl
  have htext : (write t).toList = (yearText (dateOf t).year).toList ++ afterYear t := write_toList t
  rw [read, htext, h, afterYear]
  simp only [bind_ok, hdash, symbol_cons]
  rw [field_padded style hmonth hmonth' (by decide)]
  simp only [bind_ok, hdash, symbol_cons]
  rw [field_padded style hday hday31 (by decide)]
  simp only [bind_ok, dateSeparator]
  rw [field_padded style (Nat.zero_le _) hhour (by decide)]
  simp only [bind_ok, hcolon, symbol_cons]
  rw [field_padded style (Nat.zero_le _) hminute (by decide)]
  simp only [bind_ok, hcolon, symbol_cons]
  rw [field_padded style (Nat.zero_le _) (secondOf_le t) (by decide)]
  simp only [bind_ok, hfraction, hzone]
  exact if_neg (not_not_intro hend)

theorem read_write {t : Instant} (h : 0 ≤ (dateOf t).year ∧ (dateOf t).year ≤ 9999) :
    read .strict (write t) =
      assemble (dateOf t) (t.timeOfDay.toNat / 3600) (t.timeOfDay.toNat / 60 % 60) (secondOf t) 0 0 :=
  read_of_year (year_yearText .strict h _)

def written (t : Instant) : Instant :=
  if secondOf t = 60 then ⟨t.seconds, Span.nanosPerSecond⟩
  else ⟨t.seconds + if t.inLeapSecond then 1 else 0, 0⟩

theorem isCountedDay_of_year {d : Calendar.Date} (hv : d.Valid) (h : 0 ≤ d.year ∧ d.year ≤ 9999) :
    d.Counted ∧ Calendar.isCountedDay d.toDays = true := by
  obtain ⟨hmonth, hmonth', hday, hday'⟩ := hv
  have hday31 := Nat.le_trans hday' (Calendar.daysIn_le _ _)
  have hleast : (Calendar.Date.mk Calendar.leastYear 1 1).toDays = -96465292 := by decide
  have hgreatest : (Calendar.Date.mk Calendar.greatestYear 12 31).toDays = 95026236 := by decide
  have hcounted : d.Counted := ⟨by rw [Calendar.leastYear]; omega, by rw [Calendar.greatestYear]; omega⟩
  refine ⟨hcounted, ?_⟩
  rw [Calendar.isCountedDay, hleast, hgreatest, decide_eq_true_eq, Calendar.Date.toDays]
  split <;> omega

theorem minutes_of_seconds (t : Instant) :
    ∃ whole : Int, t.seconds / 86400 * 86400 + (t.timeOfDay.toNat / 3600 : Nat) * 3600 +
        (t.timeOfDay.toNat / 60 % 60 : Nat) * 60 - 0 = whole ∧
      whole + (t.timeOfDay.toNat % 60 : Nat) = t.seconds ∧ whole / 86400 = t.seconds / 86400 := by
  obtain ⟨htime, hcast⟩ := timeOfDay_bounds t
  have hmod : t.timeOfDay = t.seconds % 86400 := rfl
  exact ⟨_, rfl, by omega, by omega⟩

theorem assemble_of_counted {t : Instant} (hcounted : (dateOf t).Counted)
    (hday : Calendar.isCountedDay (t.seconds / 86400) = true) :
    assemble (dateOf t) (t.timeOfDay.toNat / 3600) (t.timeOfDay.toNat / 60 % 60) (secondOf t) 0 0 =
      .ok (written t) := by
  have hvalid : (dateOf t).Valid := Calendar.ofDays_valid _
  have hdays : (dateOf t).toDays = t.seconds / 86400 := Calendar.toDays_ofDays _
  obtain ⟨whole, hwhole, hseconds, hsame⟩ := minutes_of_seconds t
  rw [assemble, if_pos ⟨hvalid, hcounted, by decide, by decide⟩]
  simp only [hdays, hwhole, hsame, hday, Bool.not_true, Bool.false_eq_true, if_false, written, Nat.zero_add]
  by_cases hleap : secondOf t = 60
  · rw [if_pos hleap, if_pos hleap]
    have hlast : t.timeOfDay.toNat % 60 = 59 := by
      unfold secondOf at hleap
      split at hleap <;> omega
    have hfull : whole + 59 = t.seconds := by omega
    rw [hfull]
  · rw [if_neg hleap, if_neg hleap]
    have hfull : whole + secondOf t = t.seconds + if t.inLeapSecond then 1 else 0 := by
      rw [secondOf]
      split <;> omega
    rw [hfull]

theorem parse?_write {t : Instant} (h : 0 ≤ (dateOf t).year ∧ (dateOf t).year ≤ 9999) :
    parse? (write t) = some (written t) := by
  obtain ⟨hcounted, hday⟩ := isCountedDay_of_year (Calendar.ofDays_valid _) h
  rw [Calendar.toDays_ofDays] at hday
  rw [parse?, read_write h, assemble_of_counted hcounted hday]
  rfl

theorem digits_symbol {c : Char} (hc : isDigit c = false) (cs : List Char) :
    ∃ e, digits 4 4 (c :: cs) = .error e := by
  have hnone : ((c :: cs).take 4).takeWhile isDigit = [] := by
    rw [List.take_succ_cons, List.takeWhile_cons_of_neg (by simp [hc])]
  rw [digits, hnone]
  by_cases hshort : octets (c :: cs) < 4
  · exact ⟨_, if_pos hshort⟩
  · exact ⟨_, by rw [if_neg hshort]; rfl⟩

theorem parse?_write_eq_none {t : Instant} (h : ¬(0 ≤ (dateOf t).year ∧ (dateOf t).year ≤ 9999)) :
    parse? (write t) = none := by
  obtain ⟨c, cs, hc, htext⟩ : ∃ c cs, isDigit c = false ∧ (write t).toList = c :: cs := by
    rw [write_toList, yearText, if_neg h]
    by_cases hneg : (dateOf t).year < 0
    · exact ⟨'-', _, rfl, by rw [if_pos hneg, String.toList_append]; rfl⟩
    · exact ⟨'+', _, rfl, by rw [if_neg hneg, String.toList_append]; rfl⟩
  obtain ⟨e, he⟩ := digits_symbol hc cs
  rw [parse?, read, htext, year_strict, he]
  rfl

theorem parse?_write_eq_some {t l : Instant} :
    parse? (write t) = some l ↔ (0 ≤ (dateOf t).year ∧ (dateOf t).year ≤ 9999) ∧ written t = l := by
  by_cases hyear : 0 ≤ (dateOf t).year ∧ (dateOf t).year ≤ 9999
  · rw [parse?_write hyear, Option.some.injEq, and_iff_right hyear]
  · rw [parse?_write_eq_none hyear]
    exact iff_of_false nofun fun h => hyear h.1

theorem write_eq_of {s t : Instant} (hday : s.seconds / 86400 = t.seconds / 86400)
    (hminute : s.timeOfDay.toNat / 60 = t.timeOfDay.toNat / 60) (hsecond : secondOf s = secondOf t) :
    write s = write t := by
  have hdate : dateOf s = dateOf t := congrArg Calendar.Date.ofDays hday
  have hhour : s.timeOfDay.toNat / 3600 = t.timeOfDay.toNat / 3600 := by omega
  apply String.toList_inj.1
  rw [write_toList, write_toList, hdate, hminute, hhour, hsecond]

theorem write_eq_of_seconds {s t : Instant} (hseconds : s.seconds = t.seconds)
    (hleap : s.inLeapSecond = t.inLeapSecond) : write s = write t := by
  have htime : s.timeOfDay = t.timeOfDay := congrArg (· % Instant.secondsPerDay) hseconds
  exact write_eq_of (by rw [hseconds]) (by rw [htime]) (by rw [secondOf, secondOf, htime, hleap])

theorem write_written (t : Instant) : write (written t) = write t := by
  unfold written
  by_cases hsixty : secondOf t = 60
  · rw [if_pos hsixty]
    refine write_eq_of_seconds rfl ?_
    have hleap : t.inLeapSecond = true := by
      by_contra h
      simp [secondOf, h] at hsixty
      omega
    rw [hleap]
    rfl
  · rw [if_neg hsixty]
    by_cases hleap : t.inLeapSecond = true
    · obtain ⟨htime, hcast⟩ := timeOfDay_bounds t
      obtain ⟨htime', hcast'⟩ := timeOfDay_bounds ⟨t.seconds + 1, 0⟩
      have hmod : t.timeOfDay = t.seconds % 86400 := rfl
      have hmod' : Instant.timeOfDay ⟨t.seconds + 1, 0⟩ = (t.seconds + 1) % 86400 := rfl
      have hplain : Instant.inLeapSecond ⟨t.seconds + 1, 0⟩ = false := rfl
      simp only [secondOf, hleap, if_true] at hsixty ⊢
      refine write_eq_of ?_ ?_ ?_
      · show (t.seconds + 1) / 86400 = t.seconds / 86400
        omega
      · omega
      · simp only [secondOf, hleap, hplain, if_true]
        simp
        omega
    · have hplain : t.inLeapSecond = false := by simpa using hleap
      rw [hplain]
      exact write_eq_of_seconds (by simp) hplain.symm

theorem wholeSeconds_written (t : Instant) : (written t).wholeSeconds = written t := by
  unfold written Instant.wholeSeconds
  split <;> simp [Instant.inLeapSecond]

theorem inLeapSecond_iff {t : Instant} : t.inLeapSecond = true ↔ 1000000000 ≤ t.nanos := decide_eq_true_iff

theorem nanos_wholeSeconds (t : Instant) :
    t.wholeSeconds.nanos = 1000000000 ∧ t.inLeapSecond = true ∨ t.wholeSeconds.nanos = 0 ∧ t.inLeapSecond = false := by
  unfold Instant.wholeSeconds
  cases h : t.inLeapSecond
  · exact .inr ⟨rfl, rfl⟩
  · exact .inl ⟨rfl, rfl⟩

theorem le_iff {s t : Instant} :
    s.le t = true ↔ s.seconds < t.seconds ∨ s.seconds = t.seconds ∧ s.nanos ≤ t.nanos := decide_eq_true_iff

theorem write_latest {s t : Instant} (hs : s.wholeSeconds = s) (h : t.wholeSeconds.le s = true) :
    write (s.latest t) = write s := by
  unfold Instant.latest
  by_cases hle : s.le t = true
  · rw [if_pos hle]
    rw [le_iff] at hle h
    have hseconds : t.wholeSeconds.seconds = t.seconds := rfl
    have hsnanos := nanos_wholeSeconds s
    have htnanos := nanos_wholeSeconds t
    have hleap := inLeapSecond_iff (t := t)
    rw [hs] at hsnanos
    refine write_eq_of_seconds (by omega) ?_
    rcases hsnanos with ⟨hsn, hsl⟩ | ⟨hsn, hsl⟩ <;> rcases htnanos with ⟨htn, htl⟩ | ⟨htn, htl⟩ <;>
      simp only [hsl, htl] at hleap ⊢ <;> simp at hleap <;> omega
  · rw [if_neg hle]

theorem le_written (t : Instant) : t.wholeSeconds.le (written t) = true := by
  have hseconds : t.wholeSeconds.seconds = t.seconds := rfl
  have hnanos := nanos_wholeSeconds t
  rw [le_iff]
  unfold written
  by_cases hsixty : secondOf t = 60
  · rw [if_pos hsixty]
    show _ < t.seconds ∨ _ = t.seconds ∧ _ ≤ 1000000000
    omega
  · rw [if_neg hsixty]
    rcases hnanos with ⟨hn, hleap⟩ | ⟨hn, hleap⟩
    · rw [hleap, hseconds]
      left
      show t.seconds < t.seconds + 1
      omega
    · rw [hleap, hseconds, hn]
      exact .inr (by simp)

theorem le_of_wholeSeconds {s t : Instant} (h : t.le s = true) : t.wholeSeconds.le s = true := by
  have hseconds : t.wholeSeconds.seconds = t.seconds := rfl
  have hnanos := nanos_wholeSeconds t
  have hleap := inLeapSecond_iff (t := t)
  rw [le_iff] at h ⊢
  rcases hnanos with ⟨hn, hl⟩ | ⟨hn, hl⟩
  · have hfull := hleap.1 hl
    omega
  · omega

theorem write_latest_iff {s t : Instant} (hs : s.wholeSeconds = s) (hread : parse? (write s) = some s) :
    write (s.latest t) = write s ↔ t.wholeSeconds.le s = true := by
  refine ⟨?_, write_latest hs⟩
  intro h
  by_cases hle : s.le t = true
  · rw [Instant.latest, if_pos hle] at h
    rw [← h, parse?_write_eq_some] at hread
    rw [← hread.2]
    exact le_written t
  · exact le_of_wholeSeconds ((Instant.le_total s t).resolve_left hle)

theorem year_latest (s t : Instant) : (dateOf (s.latest t)).year = max (dateOf s).year (dateOf t).year := by
  unfold Instant.latest
  by_cases hle : s.le t = true
  · have hyear := year_dateOf_le (s := s) (t := t) (by rw [le_iff] at hle; omega)
    rw [if_pos hle]
    omega
  · have hlater := (Instant.le_total s t).resolve_left hle
    have hyear := year_dateOf_le (s := t) (t := s) (by rw [le_iff] at hlater; omega)
    rw [if_neg hle]
    omega

end Rfc3339

end EnvironmentOperator
