import EnvironmentOperator.Desired.Storage
import EnvironmentOperator.Proofs.Binary64
import EnvironmentOperator.Proofs.Desired.Overlay
import EnvironmentOperator.Proofs.Text.Blank
import EnvironmentOperator.Proofs.Time.Rfc3339
import Mathlib.Data.List.TakeWhile

namespace EnvironmentOperator

open Binary64 (withSign)

namespace Quantity

open Text

def plainUnits : Dict String ℚ := [
  ("", 1), ("k", 10 ^ 3), ("M", 10 ^ 6), ("G", 10 ^ 9), ("T", 10 ^ 12), ("P", 10 ^ 15), ("E", 10 ^ 18),
  ("Ki", 1024), ("Mi", 1024 ^ 2), ("Gi", 1024 ^ 3), ("Ti", 1024 ^ 4), ("Pi", 1024 ^ 5), ("Ei", 1024 ^ 6)]

def splitSign : List Char → Bool × List Char
  | '-' :: cs => (true, cs)
  | '+' :: cs => (false, cs)
  | cs => (false, cs)

def splitPoint : List Char → List Char × List Char
  | '.' :: cs => (cs.takeWhile isDigit, cs.dropWhile isDigit)
  | cs => ([], cs)

def integer? (cs : List Char) : Option ℤ :=
  let (negative, digits) := splitSign cs
  if digits ≠ [] ∧ digits.all isDigit = true then
    some (if negative then -(digitsValue digits : ℤ) else digitsValue digits)
  else none

def exponent? : List Char → Option ℤ
  | c :: cs => if c = 'e' ∨ c = 'E' then integer? cs else none
  | [] => none

def factor? (suffix : String) : Option ℚ :=
  (Dict.at? plainUnits suffix).or
    (if suffix = "m" then some (1 / 1000) else (exponent? suffix.toList).map (fun n => 10 ^ n))

structure Reading where
  negative : Bool
  whole : List Char
  fraction : List Char
  suffix : String

def reading (q : Quantity) : Reading :=
  let (negative, cs) := splitSign q.text.toList
  let (fraction, suffix) := splitPoint (cs.dropWhile isDigit)
  ⟨negative, cs.takeWhile isDigit, fraction, String.ofList suffix⟩

def Reading.digits (r : Reading) : List Char := r.whole ++ r.fraction

def Reading.magnitude (r : Reading) : ℚ := digitsValue r.digits / 10 ^ r.fraction.length

def value? (q : Quantity) : Option ℚ :=
  if q.reading.digits = [] then none
  else (factor? q.reading.suffix).map (fun f => withSign q.reading.negative (q.reading.magnitude * f))

/-- The suffix is none or stands for a power. -/
def Plain (q : Quantity) : Prop := (Dict.at? plainUnits q.reading.suffix).isSome = true

instance (q : Quantity) : Decidable q.Plain := inferInstanceAs (Decidable (_ = _))

example : value? ⟨"1.5Ki"⟩ = some 1536 := by decide +kernel

example : value? ⟨"-250m"⟩ = some (-1 / 4) := by decide +kernel

example : value? ⟨"20e9"⟩ = some 20000000000 := by decide +kernel

example : value? ⟨"2E"⟩ = some (2 * 10 ^ 18) := by decide +kernel

example : value? ⟨"."⟩ = none := by decide +kernel

section Suffix

structure Lettered (cs : List Char) : Prop where
  letter : ∀ c rest, cs = c :: rest → c.isAlpha = true
  full : ∀ c ∈ cs, isBlank c = false

theorem plain_unit {u : String} {f : ℚ} (h : Dict.at? plainUnits u = some f) :
    Lettered u.toList ∧ ∃ k : Nat, Overlay.unitBytes? u = some k ∧ (k : ℚ) = f ∧ 0 < k ∧ k ≤ 2 ^ 60 := by
  have hunits : ∀ e ∈ plainUnits,
      (e.1.toList.head?.all Char.isAlpha = true ∧ e.1.toList.all (fun c => !isBlank c) = true) ∧
      (Overlay.unitBytes? e.1).map (fun k : Nat => (k : ℚ)) = some e.2 ∧
      (Overlay.unitBytes? e.1).all (fun k => decide (0 < k ∧ k ≤ 2 ^ 60)) = true := by
    decide +kernel
  obtain ⟨⟨hletter, hfull⟩, hfactor, hbounds⟩ := hunits _ (Dict.at?_mem h)
  refine ⟨⟨?_, fun c hc => by simpa using List.all_eq_true.1 hfull c hc⟩, ?_⟩
  · intro c rest hu
    rw [hu] at hletter
    exact hletter
  · obtain ⟨k, hk, hf⟩ := Option.map_eq_some_iff.1 hfactor
    rw [hk] at hbounds
    exact ⟨k, hk, hf, of_decide_eq_true hbounds⟩

def IsSign (sign : List Char) (negative : Bool) : Prop :=
  sign = [] ∧ negative = false ∨ sign = ['+'] ∧ negative = false ∨ sign = ['-'] ∧ negative = true

theorem IsSign.symbols {sign : List Char} {negative : Bool} (h : IsSign sign negative) :
    ∀ c ∈ sign, c.isAlpha = false ∧ isBlank c = false := by
  rcases h with ⟨rfl, -⟩ | ⟨rfl, -⟩ | ⟨rfl, -⟩
  · exact List.forall_mem_nil _
  · exact List.forall_mem_singleton.2 ⟨rfl, rfl⟩
  · exact List.forall_mem_singleton.2 ⟨rfl, rfl⟩

theorem splitSign_cases (cs : List Char) : ∃ sign, cs = sign ++ (splitSign cs).2 ∧ IsSign sign (splitSign cs).1 := by
  unfold splitSign
  split
  · exact ⟨['-'], rfl, .inr (.inr ⟨rfl, rfl⟩)⟩
  · exact ⟨['+'], rfl, .inr (.inl ⟨rfl, rfl⟩)⟩
  · exact ⟨[], rfl, .inl ⟨rfl, rfl⟩⟩

theorem full_of_integer? {cs : List Char} {n : ℤ} (h : integer? cs = some n) : ∀ c ∈ cs, isBlank c = false := by
  obtain ⟨sign, hcs, hsign⟩ := splitSign_cases cs
  simp only [integer?] at h
  split at h
  · rename_i hdigits
    intro c hc
    rw [hcs] at hc
    rcases List.mem_append.1 hc with hc | hc
    · exact (hsign.symbols c hc).2
    · exact Rfc3339.isBlank_of_isDigit (List.all_eq_true.1 hdigits.2 c hc)
  · cases h

theorem lettered_exponent {cs : List Char} {n : ℤ} (h : exponent? cs = some n) : Lettered cs := by
  cases cs with
  | nil => cases h
  | cons c cs =>
      simp only [exponent?] at h
      split at h
      · rename_i hc
        refine ⟨?_, ?_⟩
        · rintro c' rest ⟨⟩
          rcases hc with rfl | rfl <;> rfl
        · intro c' hc'
          rcases List.mem_cons.1 hc' with rfl | hc'
          · rcases hc with rfl | rfl <;> rfl
          · exact full_of_integer? h c' hc'
      · cases h

theorem unitBytes?_exponent {u : String} {n : ℤ} (h : exponent? u.toList = some n) : Overlay.unitBytes? u = none := by
  unfold Overlay.unitBytes?
  split
  case h_14 => rfl
  all_goals cases h

theorem factor?_cases {u : String} {f : ℚ} (h : factor? u = some f) :
    Lettered u.toList ∧ (Dict.at? plainUnits u = none → Overlay.unitBytes? u = none) := by
  rw [factor?, Option.or_eq_some_iff] at h
  rcases h with hplain | ⟨-, hother⟩
  · exact ⟨(plain_unit hplain).1, fun hnone => by rw [hplain] at hnone; cases hnone⟩
  · split at hother
    · rename_i hmilli
      subst hmilli
      refine ⟨⟨?_, List.forall_mem_singleton.2 rfl⟩, fun _ => rfl⟩
      rintro c rest ⟨⟩
      rfl
    · obtain ⟨n, hn, -⟩ := Option.map_eq_some_iff.1 hother
      exact ⟨lettered_exponent hn, fun _ => unitBytes?_exponent hn⟩

end Suffix

section Numeral

structure Written (text : List Char) (r : Reading) (sign point : List Char) : Prop where
  text : text = sign ++ (r.whole ++ point) ++ r.suffix.toList
  sign : IsSign sign r.negative
  point : point = [] ∧ r.fraction = [] ∨ point = '.' :: r.fraction
  digits : ∀ c ∈ r.digits, isDigit c = true

theorem splitPoint_cases (cs : List Char) : ∃ point, cs = point ++ (splitPoint cs).2 ∧
    (point = [] ∧ (splitPoint cs).1 = [] ∨ point = '.' :: (splitPoint cs).1) ∧
      ∀ c ∈ (splitPoint cs).1, isDigit c = true := by
  unfold splitPoint
  split
  · rename_i cs
    refine ⟨'.' :: cs.takeWhile isDigit, ?_, .inr rfl, fun c => List.mem_takeWhile_imp⟩
    rw [List.cons_append, List.takeWhile_append_dropWhile]
  · exact ⟨[], rfl, .inl ⟨rfl, rfl⟩, fun c hc => by cases hc⟩

theorem written (q : Quantity) : ∃ sign point, Written q.text.toList q.reading sign point := by
  obtain ⟨sign, htext, hsign⟩ := splitSign_cases q.text.toList
  obtain ⟨point, hrest, hpoint, hfraction⟩ := splitPoint_cases ((splitSign q.text.toList).2.dropWhile isDigit)
  refine ⟨sign, point, ?_, hsign, hpoint, ?_⟩
  · show q.text.toList = sign ++ ((splitSign q.text.toList).2.takeWhile isDigit ++ point) ++
      (String.ofList (splitPoint ((splitSign q.text.toList).2.dropWhile isDigit)).2).toList
    rw [String.toList_ofList, List.append_assoc, List.append_assoc, ← hrest, List.takeWhile_append_dropWhile, ← htext]
  · intro c hc
    rcases List.mem_append.1 hc with hc | hc
    · exact List.mem_takeWhile_imp hc
    · exact hfraction c hc

variable {r : Reading} {text sign point : List Char}

theorem isAlpha_of_isDigit {c : Char} (h : isDigit c = true) : c.isAlpha = false := by
  have hhigh : c.val.toNat ≤ 57 := (isDigit_bounds h).2
  have hupper : ¬('A'.val ≤ c.val ∧ c.val ≤ 'Z'.val) := by
    rintro ⟨hfrom, -⟩
    have hletter : 65 ≤ c.val.toNat := UInt32.le_iff_toNat_le.1 hfrom
    omega
  have hlower : ¬ ('a'.val ≤ c.val) := by
    intro hfrom
    have hletter : 97 ≤ c.val.toNat := UInt32.le_iff_toNat_le.1 hfrom
    omega
  exact Bool.or_eq_false_iff.2 ⟨decide_eq_false hupper, Bool.and_eq_false_iff.2 (.inl (decide_eq_false hlower))⟩

theorem Written.mem_number (h : Written text r sign point) {c : Char} (hc : c ∈ r.whole ++ point) :
    c = '.' ∨ isDigit c = true := by
  rcases List.mem_append.1 hc with hc | hc
  · exact .inr (h.digits c (List.mem_append_left _ hc))
  · rcases h.point with ⟨rfl, -⟩ | rfl
    · cases hc
    · rcases List.mem_cons.1 hc with rfl | hc
      · exact .inl rfl
      · exact .inr (h.digits c (List.mem_append_right _ hc))

theorem Written.symbols (h : Written text r sign point) : ∀ c ∈ sign ++ (r.whole ++ point),
    c.isAlpha = false ∧ isBlank c = false := by
  intro c hc
  rcases List.mem_append.1 hc with hc | hc
  · exact h.sign.symbols c hc
  · rcases h.mem_number hc with rfl | hc
    · decide
    · exact ⟨isAlpha_of_isDigit hc, Rfc3339.isBlank_of_isDigit hc⟩

theorem ofDigits?_of_splitSign {cs rest : List Char} {negative : Bool} (h : splitSign cs = (negative, rest)) :
    Binary64.ofDigits? cs = match rest.dropWhile isDigit with
      | [] => if rest.takeWhile isDigit = [] then none
          else some (Binary64.ofDecimal negative (digitsValue (rest.takeWhile isDigit)) 0)
      | '.' :: fraction =>
          if fraction.all isDigit && decide (rest.takeWhile isDigit ++ fraction ≠ []) then
            some (Binary64.ofDecimal negative (digitsValue (rest.takeWhile isDigit ++ fraction))
              (-(fraction.length : ℤ)))
          else none
      | _ => none := by
  unfold splitSign at h
  split at h
  · cases h
    rfl
  · cases h
    rfl
  · rename_i hminus hplus
    cases h
    unfold Binary64.ofDigits?
    split
    rename_i heq
    split at heq
    · exact absurd rfl (hminus _)
    · exact absurd rfl (hplus _)
    · cases heq
      rfl

theorem Written.splitSign_eq (h : Written text r sign point) :
    splitSign (sign ++ (r.whole ++ point)) = (r.negative, r.whole ++ point) := by
  have hunsigned {c : Char} {cs : List Char} (hcs : r.whole ++ point = c :: cs) : c = '.' ∨ isDigit c = true :=
    h.mem_number (by rw [hcs]; exact .head _)
  rcases h.sign with ⟨rfl, hpositive⟩ | ⟨rfl, hpositive⟩ | ⟨rfl, hnegative⟩
  · rw [List.nil_append, hpositive]
    unfold splitSign
    split
    · rename_i hminus
      rcases hunsigned hminus with h | h <;> cases h
    · rename_i hplus
      rcases hunsigned hplus with h | h <;> cases h
    · rfl
  · rw [hpositive]
    rfl
  · rw [hnegative]
    rfl

theorem Written.ofDigits?_eq (h : Written text r sign point) (hne : r.digits ≠ []) :
    Binary64.ofDigits? (sign ++ (r.whole ++ point)) =
      some (Binary64.ofDecimal r.negative (digitsValue r.digits) (-(r.fraction.length : ℤ))) := by
  have hwhole : ∀ c ∈ r.whole, isDigit c = true := fun c hc => h.digits c (List.mem_append_left _ hc)
  have hfraction : r.fraction.all isDigit = true :=
    List.all_eq_true.2 fun c hc => h.digits c (List.mem_append_right _ hc)
  have htake : (r.whole ++ point).takeWhile isDigit = r.whole := by
    rw [List.takeWhile_append_of_pos hwhole]
    rcases h.point with ⟨rfl, -⟩ | rfl <;> simp [isDigit]
  have hdrop : (r.whole ++ point).dropWhile isDigit = point := by
    rw [List.dropWhile_append_of_pos hwhole]
    rcases h.point with ⟨rfl, -⟩ | rfl <;> simp [isDigit]
  rw [ofDigits?_of_splitSign (h.splitSign_eq), htake, hdrop]
  rcases h.point with ⟨rfl, hempty⟩ | rfl
  · rw [Reading.digits, hempty, List.append_nil] at hne ⊢
    simp [hne]
  · rw [Reading.digits] at hne ⊢
    simp [hfraction, hne]

end Numeral

section Read

variable {q : Quantity} {v : ℚ}

theorem value?_eq_some : q.value? = some v ↔ q.reading.digits ≠ [] ∧ ∃ f, factor? q.reading.suffix = some f ∧
    v = withSign q.reading.negative (q.reading.magnitude * f) := by
  unfold value?
  split
  · rename_i hnone
    simp [hnone]
  · rename_i hsome
    simp [hsome, eq_comm]

theorem trimBlank_of_full {cs : List Char} (h : ∀ c ∈ cs, isBlank c = false) : trimBlank cs = cs := by
  refine trimBlank_eq_iff.2 ⟨⟨[], [], by simp, nofun, nofun⟩, ?_, ?_⟩
  · exact fun c hc => h c (List.mem_of_head? hc)
  · exact fun c hc => h c (List.mem_of_getLast? hc)

theorem Lettered.takeWhile_eq {cs : List Char} (h : Lettered cs) : cs.takeWhile (fun c => !c.isAlpha) = [] := by
  cases cs with
  | nil => rfl
  | cons c cs => exact List.takeWhile_cons_of_neg (by simp [h.letter c cs rfl])

theorem Lettered.dropWhile_eq {cs : List Char} (h : Lettered cs) : cs.dropWhile (fun c => !c.isAlpha) = cs := by
  cases cs with
  | nil => rfl
  | cons c cs => exact List.dropWhile_cons_of_neg (by simp [h.letter c cs rfl])

/-- The operator reads a quantity whose suffix it knows, and takes nothing else apart in another way. -/
theorem storageBytes?_eq (h : q.value? = some v) : Overlay.storageBytes? q =
    (Overlay.unitBytes? q.reading.suffix).map (fun k => (Binary64.ofDecimal q.reading.negative
      (digitsValue q.reading.digits) (-(q.reading.fraction.length : ℤ))).times k) := by
  obtain ⟨hdigits, f, hf, -⟩ := value?_eq_some.1 h
  obtain ⟨hsuffix, -⟩ := factor?_cases hf
  obtain ⟨sign, point, hwritten⟩ := written q
  have hnumber : ∀ c ∈ sign ++ (q.reading.whole ++ point), (!c.isAlpha) = true := by
    intro c hc
    rw [(hwritten.symbols c hc).1]
    rfl
  have hfull : ∀ c ∈ q.text.toList, isBlank c = false := by
    intro c hc
    rw [hwritten.text] at hc
    rcases List.mem_append.1 hc with hc | hc
    · exact (hwritten.symbols c hc).2
    · exact hsuffix.full c hc
  rw [Overlay.storageBytes?, trimBlank_of_full hfull, hwritten.text]
  rw [List.takeWhile_append_of_pos hnumber, List.dropWhile_append_of_pos hnumber, hsuffix.takeWhile_eq,
    hsuffix.dropWhile_eq, List.append_nil, hwritten.ofDigits?_eq hdigits, String.ofList_toList]
  cases Overlay.unitBytes? q.reading.suffix <;> rfl

end Read

end Quantity

namespace Overlay

open Quantity Binary64

def desiredSize : ℚ := 10 * 2 ^ 30

/-- As much of a byte as may get lost when two sizes near the desired one are told apart. -/
def slack : ℚ := 5 / 2 ^ 20

def desiredNumber : Binary64 := .finite false (5 * 2 ^ 50) (-19)

theorem value?_volumeSize : Desired.volumeSize.value? = some desiredSize := by decide +kernel

theorem storageBytes?_volumeSize : storageBytes? Desired.volumeSize = some desiredNumber := by decide +kernel

section Comparison

variable {x : Binary64} {negative : Bool} {v : ℚ}

theorem desiredNumber_value : withSign false (((5 * 2 ^ 50 : Nat) : ℚ) * 2 ^ (-19 : ℤ)) = desiredSize := by
  rw [withSign_false, desiredSize]
  norm_num

theorem desiredNumber_lt {s : Bool} {m : Nat} {e : ℤ} (he : leastExponent ≤ e) :
    desiredNumber.lt (.finite s m e) = true ↔ desiredSize < withSign s (m * 2 ^ e) := by
  rw [desiredNumber, lt_finite_iff (by decide) he, desiredNumber_value]

theorem lt_of_near (hv : 0 ≤ v) (h : x.Near negative v (v * (3 * 2 ^ (-53 : ℤ)) + 2 ^ (-1000 : ℤ)) (2 ^ 900)) :
    (desiredSize + slack ≤ withSign negative v → desiredNumber.lt x = true) ∧
      (withSign negative v ≤ desiredSize - slack → desiredNumber.lt x = false) := by
  cases x with
  | infinite s =>
      obtain ⟨rfl, hfar⟩ := h
      cases s with
      | true =>
          refine ⟨fun hlarge => ?_, fun _ => rfl⟩
          rw [withSign_true, desiredSize, slack] at hlarge
          clear hfar
          norm_num at hlarge
          linarith only [hv, hlarge]
      | false =>
          refine ⟨fun _ => rfl, fun hsmall => ?_⟩
          have hbeyond : (2 : ℚ) ^ 40 ≤ 2 ^ 900 := pow_le_pow_right₀ one_le_two (by norm_num)
          rw [withSign_false, desiredSize, slack] at hsmall
          generalize (2 : ℚ) ^ 900 = far at *
          norm_num at hsmall hbeyond
          linarith only [hfar, hsmall, hbeyond]
  | finite s m e =>
      obtain ⟨rfl, hleast, herror⟩ := h
      have htiny : (2 : ℚ) ^ (-1000 : ℤ) ≤ 2 ^ (-60 : ℤ) := zpow_le_zpow_right₀ one_le_two (by norm_num)
      rw [abs_le] at herror
      obtain ⟨hlow, hhigh⟩ := herror
      have hy : (0 : ℚ) ≤ m * 2 ^ e := by positivity
      rw [← Bool.not_eq_true, desiredNumber_lt hleast]
      generalize (2 : ℚ) ^ (-1000 : ℤ) = tiny at *
      generalize (m : ℚ) * 2 ^ e = y at *
      constructor
      · intro hlarge
        cases s with
        | true =>
            rw [withSign_true, desiredSize, slack] at hlarge
            norm_num at hlarge
            linarith only [hv, hlarge]
        | false =>
            rw [withSign_false, desiredSize, slack] at hlarge
            rw [withSign_false, desiredSize]
            norm_num at hlarge hlow htiny ⊢
            linarith only [hlarge, hlow, htiny]
      · intro hsmall
        rw [not_lt]
        cases s with
        | true =>
            rw [withSign_true, desiredSize]
            norm_num
            linarith only [hy]
        | false =>
            rw [withSign_false, desiredSize, slack] at hsmall
            rw [withSign_false, desiredSize]
            norm_num at hsmall hhigh htiny ⊢
            linarith only [hsmall, hhigh, htiny]

end Comparison

section Request

variable {q : Quantity} {v : ℚ}

theorem keepsLive_volumeSize (q : Quantity) : keepsLive (some q) (some Desired.volumeSize) =
    match storageBytes? q with
    | some size => desiredNumber.lt size
    | none => false := by
  simp only [keepsLive, Option.bind_some, storageBytes?_volumeSize]
  cases storageBytes? q <;> rfl

theorem keepsLive_of_plain (hplain : q.Plain) (hv : q.value? = some v) :
    (keepsLive (some q) (some Desired.volumeSize) = true → desiredSize - slack < v) ∧
      (keepsLive (some q) (some Desired.volumeSize) = false → v < desiredSize + slack) := by
  obtain ⟨-, f, hf, hvalue⟩ := value?_eq_some.1 hv
  obtain ⟨f', hunit⟩ := Option.isSome_iff_exists.1 hplain
  obtain rfl : f' = f := by simpa [factor?, hunit] using hf
  obtain ⟨-, k, hk, rfl, hpos, hle⟩ := plain_unit hunit
  have hmagnitude : 0 ≤ q.reading.magnitude := by
    unfold Reading.magnitude
    positivity
  have hrounds : (ofDecimal q.reading.negative (Text.digitsValue q.reading.digits)
      (-(q.reading.fraction.length : ℤ))).Rounds q.reading.negative q.reading.magnitude := rounds_ofDecimal
  obtain ⟨hkept, hdropped⟩ := lt_of_near (by positivity) (near_product hmagnitude hrounds hpos hle)
  rw [keepsLive_volumeSize, storageBytes?_eq hv, hk, hvalue]
  constructor
  · intro hkeep
    refine lt_of_not_ge fun hsmall => ?_
    cases hkeep.symm.trans (hdropped hsmall)
  · intro hdrop
    refine lt_of_not_ge fun hlarge => ?_
    cases hdrop.symm.trans (hkept hlarge)

theorem keepsLive_of_not_plain (hplain : ¬ q.Plain) (hv : q.value? = some v) :
    keepsLive (some q) (some Desired.volumeSize) = false := by
  obtain ⟨-, f, hf, -⟩ := value?_eq_some.1 hv
  have hunread := (factor?_cases hf).2 (Option.not_isSome_iff_eq_none.1 hplain)
  rw [keepsLive_volumeSize, storageBytes?_eq hv, hunread]
  rfl

def size? (c : Claim) : Option Quantity := (requestsOf c).bind (·.at? "storage")

variable {live : Claim} (name ns : String) (labels : Named String)

theorem size?_claim (h : size? live = some q) : size? (claim live (Desired.volumeClaim name ns labels)) =
    some (if keepsLive (some q) (some Desired.volumeSize) then q else Desired.volumeSize) := by
  have hwanted : requestsOf (Desired.volumeClaim name ns labels) =
      some (.ofList [("storage", Desired.volumeSize)]) := rfl
  rw [size?] at h ⊢
  rw [requestsOf_claim, requests_eq, h, hwanted, Option.map_some, Option.bind_some]
  have hdesired : (Named.ofList [("storage", Desired.volumeSize)]).at? "storage" = some Desired.volumeSize := rfl
  simp only [chosen, hdesired]
  split
  · simp [Named.at?, Named.put, Dict.at?_put]
  · exact hdesired

/-- A size that is whole or far enough from the desired one is told from it. -/
def Told (v : ℚ) : Prop := (∃ n : ℤ, v = n) ∨ slack ≤ |v - desiredSize|

theorem Told.cases (h : Told v) : v = desiredSize ∨ v ≤ desiredSize - slack ∨ desiredSize + slack ≤ v := by
  have hfar (h : slack ≤ |v - desiredSize|) : v ≤ desiredSize - slack ∨ desiredSize + slack ≤ v := by
    rcases le_abs.1 h with h | h
    · exact .inr (by linarith)
    · exact .inl (by linarith)
  rcases h with ⟨n, rfl⟩ | h
  · by_cases hn : n = 10 * 2 ^ 30
    · left
      rw [hn, desiredSize]
      norm_num
    · right
      apply hfar
      have hone : 1 ≤ |n - 10 * 2 ^ 30| := Int.one_le_abs (sub_ne_zero.2 hn)
      have hcast : (1 : ℚ) ≤ |(n : ℚ) - desiredSize| := by
        rw [desiredSize]
        exact_mod_cast hone
      refine le_trans ?_ hcast
      rw [slack]
      norm_num
  · exact .inr (hfar h)

/-- A claim that is overlaid asks for the greater of its own size and the desired one, as far as they are told apart
and its suffix is read. -/
theorem claim_covers (hsize : size? live = some q) (hv : q.value? = some v) :
    ∃ r w, size? (claim live (Desired.volumeClaim name ns labels)) = some r ∧ r.value? = some w ∧
      (r = q ∨ r = Desired.volumeSize) ∧
      (q.Plain → v - slack ≤ w ∧ desiredSize - slack ≤ w ∧ (Told v → v ≤ w ∧ desiredSize ≤ w)) ∧
      (¬ q.Plain → r = Desired.volumeSize) := by
  have hslack : 0 < slack := by norm_num [slack]
  rw [size?_claim name ns labels hsize]
  cases hkeep : keepsLive (some q) (some Desired.volumeSize) with
  | true =>
      refine ⟨q, v, rfl, hv, .inl rfl, fun hplain => ?_, fun hplain => ?_⟩
      · have hlarge := (keepsLive_of_plain hplain hv).1 hkeep
        refine ⟨by linarith, hlarge.le, fun htold => ⟨le_refl _, ?_⟩⟩
        rcases htold.cases with h | h | h <;> linarith
      · rw [keepsLive_of_not_plain hplain hv] at hkeep
        cases hkeep
  | false =>
      refine ⟨Desired.volumeSize, desiredSize, rfl, value?_volumeSize, .inr rfl, fun hplain => ?_, fun _ => rfl⟩
      have hsmall := (keepsLive_of_plain hplain hv).2 hkeep
      refine ⟨by linarith, by linarith, fun htold => ⟨?_, le_refl _⟩⟩
      rcases htold.cases with h | h | h <;> linarith

def expandedClaim (size : String) : Claim where
  spec := some { resources := some { requests := some (.ofList [("storage", ⟨size⟩)]) } }

theorem claim_covers_expanded : size? (expandedClaim "20Gi") = some ⟨"20Gi"⟩ ∧
    value? ⟨"20Gi"⟩ = some (20 * 2 ^ 30) ∧
    ∃ r w, size? (claim (expandedClaim "20Gi") (Desired.volumeClaim "bob-ide-data" "team" (.ofList []))) = some r ∧
      r.value? = some w ∧ 20 * 2 ^ 30 ≤ w := by
  have hsize : size? (expandedClaim "20Gi") = some ⟨"20Gi"⟩ := rfl
  have hv : value? ⟨"20Gi"⟩ = some (20 * 2 ^ 30) := by decide +kernel
  have hplain : Plain ⟨"20Gi"⟩ := by decide +kernel
  have htold : Told (20 * 2 ^ 30) := .inl ⟨20 * 2 ^ 30, by norm_num⟩
  obtain ⟨r, w, hr, hw, -, hcovers, -⟩ := claim_covers "bob-ide-data" "team" (.ofList []) hsize hv
  exact ⟨hsize, hv, r, w, hr, hw, ((hcovers hplain).2.2 htold).1⟩

theorem claim_shrinks_exponent : size? (expandedClaim "20e9") = some ⟨"20e9"⟩ ∧
    value? ⟨"20e9"⟩ = some 20000000000 ∧
    size? (claim (expandedClaim "20e9") (Desired.volumeClaim "bob-ide-data" "team" (.ofList []))) =
      some Desired.volumeSize ∧
    Desired.volumeSize.value? = some desiredSize ∧ desiredSize < 20000000000 := by
  refine ⟨rfl, by decide +kernel, by decide +kernel, value?_volumeSize, ?_⟩
  norm_num [desiredSize]

end Request

end Overlay

end EnvironmentOperator
