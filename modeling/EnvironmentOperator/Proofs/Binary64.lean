import EnvironmentOperator.Binary64
import Mathlib.Algebra.Order.Field.Power
import Mathlib.Algebra.Order.Field.Rat
import Mathlib.Tactic.FieldSimp
import Mathlib.Tactic.GCongr
import Mathlib.Tactic.Linarith
import Mathlib.Tactic.Positivity
import Mathlib.Tactic.Ring

namespace EnvironmentOperator.Binary64

section Division

variable {num den : Nat}

theorem cast_twoTo (n : Nat) : ((twoTo n : Nat) : ℚ) = 2 ^ n := by
  show ((2 ^ n : Nat) : ℚ) = 2 ^ n
  push_cast
  rfl

theorem cast_tenTo (n : Nat) : ((tenTo n : Nat) : ℚ) = 10 ^ n := by
  show ((10 ^ n : Nat) : ℚ) = 10 ^ n
  push_cast
  rfl

theorem roundDiv_bounds (num : Nat) (hden : 0 < den) :
    2 * num ≤ 2 * (roundDiv num den * den) + den ∧ 2 * (roundDiv num den * den) ≤ 2 * num + den := by
  have hdivision := Nat.div_add_mod num den
  have hrest := Nat.mod_lt num hden
  unfold roundDiv
  dsimp only
  split
  · rename_i hup
    have hnext : (num / den + 1) * den = den * (num / den) + den := by ring
    rw [hnext]
    omega
  · rename_i hdown
    have hsame : num / den * den = den * (num / den) := Nat.mul_comm ..
    rw [hsame]
    omega

theorem abs_roundDiv_sub (num : Nat) (hden : 0 < den) : |(roundDiv num den : ℚ) - num / den| ≤ 1 / 2 := by
  have hpos : (0 : ℚ) < den := by exact_mod_cast hden
  obtain ⟨hlow, hhigh⟩ := roundDiv_bounds num hden
  have hlow : (2 : ℚ) * num ≤ 2 * (roundDiv num den * den) + den := by exact_mod_cast hlow
  have hhigh : (2 : ℚ) * (roundDiv num den * den) ≤ 2 * num + den := by exact_mod_cast hhigh
  rw [abs_le]
  constructor
  · have hdiv : (num : ℚ) / den ≤ roundDiv num den + 1 / 2 := by
      rw [div_le_iff₀ hpos]
      linarith
    linarith
  · have hdiv : (roundDiv num den : ℚ) - 1 / 2 ≤ num / den := by
      rw [le_div_iff₀ hpos]
      linarith
    linarith

theorem scaled_spec (num : Nat) (e : Int) (hden : 0 < den) :
    0 < (scaled num den e).2 ∧ ((scaled num den e).1 : ℚ) / (scaled num den e).2 = num / den * 2 ^ (-e) := by
  have hpos : (0 : ℚ) < den := by exact_mod_cast hden
  unfold scaled
  split
  · rename_i hexponent
    obtain ⟨k, rfl⟩ := Int.eq_ofNat_of_zero_le hexponent
    refine ⟨Nat.mul_pos hden (twoTo_pos _), ?_⟩
    rw [Int.toNat_natCast, Nat.cast_mul, cast_twoTo, zpow_neg, zpow_natCast]
    field_simp
  · rename_i hexponent
    obtain ⟨k, hk⟩ := Int.eq_ofNat_of_zero_le (show 0 ≤ -e by omega)
    refine ⟨hden, ?_⟩
    rw [hk, Int.toNat_natCast, Nat.cast_mul, cast_twoTo, zpow_natCast]
    field_simp

end Division

section Exponent

variable {num den : Nat}

theorem ratio_bounds (hnum : 0 < num) (hden : 0 < den) :
    (2 : ℚ) ^ ((num.log2 : ℤ) - den.log2 - 1) < num / den ∧ (num : ℚ) / den < 2 ^ ((num.log2 : ℤ) - den.log2 + 1) := by
  have hpos : (0 : ℚ) < den := by exact_mod_cast hden
  have hlow : (2 : ℚ) ^ num.log2 ≤ num := by exact_mod_cast Nat.log2_self_le hnum.ne'
  have hhigh : (num : ℚ) < 2 ^ (num.log2 + 1) := by exact_mod_cast Nat.lt_log2_self (n := num)
  have hlow' : (2 : ℚ) ^ den.log2 ≤ den := by exact_mod_cast Nat.log2_self_le hden.ne'
  have hhigh' : (den : ℚ) < 2 ^ (den.log2 + 1) := by exact_mod_cast Nat.lt_log2_self (n := den)
  constructor
  · rw [lt_div_iff₀ hpos]
    calc (2 : ℚ) ^ ((num.log2 : ℤ) - den.log2 - 1) * den
        < 2 ^ ((num.log2 : ℤ) - den.log2 - 1) * 2 ^ (den.log2 + 1) := by gcongr
      _ = 2 ^ num.log2 := by
          rw [← zpow_natCast, ← zpow_natCast, ← zpow_add₀ (by norm_num)]
          congr 1
          push_cast
          ring
      _ ≤ num := hlow
  · rw [div_lt_iff₀ hpos]
    calc (num : ℚ) < 2 ^ (num.log2 + 1) := hhigh
      _ = 2 ^ ((num.log2 : ℤ) - den.log2 + 1) * 2 ^ den.log2 := by
          rw [← zpow_natCast, ← zpow_natCast, ← zpow_add₀ (by norm_num)]
          congr 1
          push_cast
          ring
      _ ≤ 2 ^ ((num.log2 : ℤ) - den.log2 + 1) * den := by gcongr

theorem mul_zpow_neg_sub_one (x : ℚ) (e : ℤ) : x * 2 ^ (-(e - 1)) = 2 * (x * 2 ^ (-e)) := by
  rw [show -(e - 1) = -e + 1 by ring, zpow_add₀ two_ne_zero, zpow_one]
  ring

theorem guess_bounds (hnum : 0 < num) (hden : 0 < den) :
    (2 : ℚ) ^ 51 < num / den * 2 ^ (-((num.log2 : ℤ) - den.log2 - 52)) ∧
      (num / den * 2 ^ (-((num.log2 : ℤ) - den.log2 - 52)) : ℚ) < 2 ^ 53 := by
  obtain ⟨hlow, hhigh⟩ := ratio_bounds hnum hden
  have hpos : (0 : ℚ) < 2 ^ (-((num.log2 : ℤ) - den.log2 - 52)) := by positivity
  constructor
  · calc (2 : ℚ) ^ 51 = 2 ^ ((num.log2 : ℤ) - den.log2 - 1) * 2 ^ (-((num.log2 : ℤ) - den.log2 - 52)) := by
          rw [← zpow_add₀ two_ne_zero, ← zpow_natCast]
          congr 1
          push_cast
          ring
      _ < num / den * 2 ^ (-((num.log2 : ℤ) - den.log2 - 52)) := by gcongr
  · calc (num / den * 2 ^ (-((num.log2 : ℤ) - den.log2 - 52)) : ℚ)
        < 2 ^ ((num.log2 : ℤ) - den.log2 + 1) * 2 ^ (-((num.log2 : ℤ) - den.log2 - 52)) := by gcongr
      _ = 2 ^ 53 := by
          rw [← zpow_add₀ two_ne_zero, ← zpow_natCast]
          congr 1
          push_cast
          ring

theorem div_lt_twoTo_iff (hden : 0 < den) (k : Nat) : num / den < twoTo k ↔ (num / den : ℚ) < 2 ^ k := by
  have hpos : (0 : ℚ) < den := by exact_mod_cast hden
  rw [Nat.div_lt_iff_lt_mul hden, div_lt_iff₀ hpos, ← cast_twoTo]
  exact_mod_cast Iff.rfl

theorem exponentOf_spec (hnum : 0 < num) (hden : 0 < den) :
    leastExponent ≤ exponentOf num den ∧ (num / den : ℚ) * 2 ^ (-exponentOf num den) < 2 ^ 53 ∧
      (exponentOf num den = leastExponent ∨ 2 ^ 52 ≤ (num / den : ℚ) * 2 ^ (-exponentOf num den)) := by
  obtain ⟨hlow, hhigh⟩ := guess_bounds hnum hden
  obtain ⟨hpos, hratio⟩ := scaled_spec num ((num.log2 : ℤ) - den.log2 - 52) hden
  have hvalue : (0 : ℚ) ≤ num / den := by positivity
  rw [exponentOf]
  dsimp only
  generalize ((num.log2 : ℤ) - den.log2 - 52) = guess at *
  obtain ⟨e, he, hlow, hhigh⟩ : ∃ e : ℤ,
      (if (scaled num den guess).1 / (scaled num den guess).2 < twoTo 52 then guess - 1 else guess) = e ∧
        2 ^ 52 ≤ (num / den : ℚ) * 2 ^ (-e) ∧ (num / den : ℚ) * 2 ^ (-e) < 2 ^ 53 := by
    refine ⟨_, rfl, ?_⟩
    split
    · rename_i hshort
      rw [div_lt_twoTo_iff hpos, hratio] at hshort
      rw [mul_zpow_neg_sub_one]
      constructor <;> linarith
    · rename_i hlong
      rw [div_lt_twoTo_iff hpos, hratio, not_lt] at hlong
      exact ⟨hlong, hhigh⟩
  rw [he]
  split
  · rename_i hleast
    refine ⟨le_refl _, lt_of_le_of_lt ?_ hhigh, .inl rfl⟩
    have hshift : (2 : ℚ) ^ (-leastExponent) ≤ 2 ^ (-e) := zpow_le_zpow_right₀ one_le_two (by omega)
    gcongr
  · exact ⟨by omega, hhigh, .inr hlow⟩

end Exponent

section Rounding

/-- The number stands for the value with no greater error, and is infinite only where the value is far out. -/
def Near (x : Binary64) (negative : Bool) (v error far : ℚ) : Prop :=
  match x with
  | .infinite s => s = negative ∧ far ≤ v
  | .finite s m e => s = negative ∧ leastExponent ≤ e ∧ |m * 2 ^ e - v| ≤ error

def Rounds (x : Binary64) (negative : Bool) (v : ℚ) : Prop :=
  x.Near negative v (v * 2 ^ (-53 : ℤ) + 2 ^ (-1075 : ℤ)) (2 ^ 1000)

variable {negative : Bool} {num den : Nat}

theorem rounds_zero {v : ℚ} (hv : 0 ≤ v) (hsmall : v ≤ 2 ^ (-1075 : ℤ)) :
    Rounds (.finite negative 0 leastExponent) negative v := by
  refine ⟨rfl, le_refl _, ?_⟩
  rw [Nat.cast_zero, zero_mul, zero_sub, abs_neg, abs_of_nonneg hv]
  have hscaled : 0 ≤ v * 2 ^ (-53 : ℤ) := by positivity
  linarith

theorem mul_zpow_le {x : ℚ} {e : ℤ} (h : 2 ^ 52 ≤ x * 2 ^ (-e)) : 2 ^ 52 * 2 ^ e ≤ x :=
  calc (2 : ℚ) ^ 52 * 2 ^ e ≤ x * 2 ^ (-e) * 2 ^ e := by gcongr
    _ = x := by rw [mul_assoc, ← zpow_add₀ two_ne_zero, neg_add_cancel, zpow_zero, mul_one]

theorem abs_rounded_sub (hnum : 0 < num) (hden : 0 < den) :
    |(roundDiv (scaled num den (exponentOf num den)).1 (scaled num den (exponentOf num den)).2 : ℚ) *
        2 ^ exponentOf num den - num / den| ≤ num / den * 2 ^ (-53 : ℤ) + 2 ^ (-1075 : ℤ) := by
  obtain ⟨hleast, -, hfits⟩ := exponentOf_spec hnum hden
  obtain ⟨hpos, hratio⟩ := scaled_spec num (exponentOf num den) hden
  have hround := abs_roundDiv_sub (scaled num den (exponentOf num den)).1 hpos
  rw [hratio] at hround
  generalize exponentOf num den = e at *
  generalize (roundDiv (scaled num den e).1 (scaled num den e).2 : ℚ) = m at *
  generalize hx : (num / den : ℚ) = x at *
  have hx0 : 0 ≤ x := by rw [← hx]; positivity
  have hunit : (0 : ℚ) < 2 ^ e := by positivity
  have hback : m * 2 ^ e - x = (m - x * 2 ^ (-e)) * 2 ^ e := by
    rw [sub_mul, mul_assoc x, ← zpow_add₀ two_ne_zero, neg_add_cancel, zpow_zero, mul_one]
  rw [hback, abs_mul, abs_of_pos hunit]
  have hhalf : |m - x * 2 ^ (-e)| * 2 ^ e ≤ 1 / 2 * 2 ^ e := by gcongr
  refine hhalf.trans ?_
  have hscaled : 0 ≤ x * 2 ^ (-53 : ℤ) := by positivity
  have htiny : (0 : ℚ) ≤ 2 ^ (-1075 : ℤ) := by positivity
  rcases hfits with rfl | hfits
  · have hhalves : (1 / 2 * 2 ^ leastExponent : ℚ) = 2 ^ (-1075 : ℤ) := by
      rw [leastExponent, show (-1074 : ℤ) = -1075 + 1 by norm_num, zpow_add₀ two_ne_zero, zpow_one]
      ring
    linarith
  · have hlong := mul_zpow_le hfits
    have hpart : 1 / 2 * 2 ^ e = (2 : ℚ) ^ 52 * 2 ^ e * 2 ^ (-53 : ℤ) := by
      norm_num
      ring
    have hle : (2 : ℚ) ^ 52 * 2 ^ e * 2 ^ (-53 : ℤ) ≤ x * 2 ^ (-53 : ℤ) := by gcongr
    linarith

theorem carry_value {m : Nat} (e : ℤ) (hm : m = twoTo 53) : ((twoTo 52 : Nat) : ℚ) * 2 ^ (e + 1) = m * 2 ^ e := by
  rw [hm, cast_twoTo, cast_twoTo, zpow_add₀ two_ne_zero]
  ring

theorem rounds_ofRatio (negative : Bool) (num : Nat) (hden : 0 < den) :
    (ofRatio negative num den).Rounds negative (num / den) := by
  rw [ofRatio]
  split
  · rename_i hzero
    rw [hzero, Nat.cast_zero, zero_div]
    exact rounds_zero (le_refl _) (by positivity)
  · rename_i hnum
    have hnum : 0 < num := Nat.pos_of_ne_zero hnum
    have hrounded := abs_rounded_sub hnum hden
    obtain ⟨hleast, -, hfits⟩ := exponentOf_spec hnum hden
    dsimp only
    generalize exponentOf num den = e at *
    generalize roundDiv (scaled num den e).1 (scaled num den e).2 = m at *
    obtain ⟨m', e', hpair, hvalue, hle, hge⟩ : ∃ (m' : Nat) (e' : ℤ),
        (if m = twoTo 53 then (twoTo 52, e + 1) else (m, e)) = (m', e') ∧ (m' : ℚ) * 2 ^ e' = m * 2 ^ e ∧
          e' ≤ e + 1 ∧ e ≤ e' := by
      split
      · rename_i hcarry
        exact ⟨_, _, rfl, carry_value e hcarry, le_refl _, by omega⟩
      · exact ⟨_, _, rfl, rfl, by omega, le_refl _⟩
    rw [hpair]
    dsimp only
    split
    · rename_i hgreat
      rw [greatestExponent] at hgreat
      rw [leastExponent] at hfits
      rcases hfits with hclamped | hfits
      · omega
      · refine ⟨rfl, ?_⟩
        calc (2 : ℚ) ^ 1000 ≤ 2 ^ 52 * 2 ^ (971 : ℤ) := by
              rw [← zpow_natCast, ← zpow_natCast, ← zpow_add₀ two_ne_zero]
              exact zpow_le_zpow_right₀ one_le_two (by norm_num)
          _ ≤ 2 ^ 52 * 2 ^ e := by
              have hexponent : (2 : ℚ) ^ (971 : ℤ) ≤ 2 ^ e := zpow_le_zpow_right₀ one_le_two (by omega)
              gcongr
          _ ≤ num / den := mul_zpow_le hfits
    · refine ⟨rfl, by omega, ?_⟩
      rw [hvalue]
      exact hrounded

end Rounding

section Decimal

variable {negative : Bool} {digits places : Nat}

theorem rounds_ofDecimal : (ofDecimal negative digits (-(places : ℤ))).Rounds negative (digits / 10 ^ places) := by
  rw [ofDecimal]
  split
  · rename_i hzero
    rw [hzero, Nat.cast_zero, zero_div]
    exact rounds_zero (le_refl _) (by positivity)
  · rename_i hdigits
    have hlow : (2 : ℚ) ^ digits.log2 ≤ digits := by exact_mod_cast Nat.log2_self_le hdigits
    have hhigh : (digits : ℚ) < 2 ^ (digits.log2 + 1) := by exact_mod_cast Nat.lt_log2_self (n := digits)
    dsimp only
    split
    · rename_i hhuge
      refine ⟨rfl, ?_⟩
      rw [le_div_iff₀ (by positivity)]
      calc (2 : ℚ) ^ 1000 * 10 ^ places ≤ 2 ^ 1000 * 16 ^ places := by
            gcongr
            norm_num
        _ = 2 ^ (1000 + 4 * places) := by
            rw [pow_add, pow_mul]
            norm_num
        _ ≤ 2 ^ digits.log2 := pow_le_pow_right₀ one_le_two (by omega)
        _ ≤ digits := hlow
    · split
      · rename_i htiny
        refine rounds_zero (by positivity) ?_
        rw [div_le_iff₀ (by positivity)]
        calc (digits : ℚ) ≤ 2 ^ (digits.log2 + 1) := hhigh.le
          _ ≤ 2 ^ (-1075 : ℤ) * (2 ^ 3) ^ places := by
              rw [← pow_mul, ← zpow_natCast, ← zpow_natCast, ← zpow_add₀ two_ne_zero]
              exact zpow_le_zpow_right₀ one_le_two (by push_cast; omega)
          _ ≤ 2 ^ (-1075 : ℤ) * 10 ^ places := by
              gcongr
              norm_num
      · split
        · rename_i hwhole
          have hplaces : places = 0 := by omega
          subst hplaces
          simpa [tenTo] using rounds_ofRatio negative digits one_pos
        · have hplaces : (-(-(places : ℤ))).toNat = places := by simp
          rw [hplaces, ← cast_tenTo]
          exact rounds_ofRatio negative digits (tenTo_pos places)

end Decimal

section Product

variable {negative : Bool} {k : Nat}

theorem rounds_times (negative : Bool) (m k : Nat) (e : ℤ) :
    ((Binary64.finite negative m e).times k).Rounds negative (m * 2 ^ e * k) := by
  unfold times
  dsimp only
  split
  · rename_i hwhole
    obtain ⟨n, rfl⟩ := Int.eq_ofNat_of_zero_le hwhole
    have hrounds := rounds_ofRatio negative (m * k * twoTo n) one_pos
    rw [Nat.cast_mul, Nat.cast_mul, cast_twoTo, Nat.cast_one, div_one] at hrounds
    rw [Int.toNat_natCast, zpow_natCast, mul_right_comm (m : ℚ)]
    exact hrounds
  · rename_i hpart
    obtain ⟨n, hn⟩ := Int.eq_ofNat_of_zero_le (show 0 ≤ -e by omega)
    have hrounds := rounds_ofRatio negative (m * k) (twoTo_pos n)
    rw [Nat.cast_mul, cast_twoTo] at hrounds
    rw [hn, Int.toNat_natCast, show e = -n by omega, zpow_neg, zpow_natCast, mul_right_comm (m : ℚ), ← div_eq_mul_inv]
    exact hrounds

theorem abs_mul_sub {y v : ℚ} (hk : (k : ℚ) ≤ 2 ^ 60) (h : |y - v| ≤ v * 2 ^ (-53 : ℤ) + 2 ^ (-1075 : ℤ)) :
    |y * k - v * k| ≤ v * k * 2 ^ (-53 : ℤ) + 2 ^ (-1015 : ℤ) := by
  have hk0 : (0 : ℚ) ≤ k := Nat.cast_nonneg k
  calc |y * k - v * k| = |y - v| * k := by rw [← sub_mul, abs_mul, abs_of_nonneg hk0]
    _ ≤ (v * 2 ^ (-53 : ℤ) + 2 ^ (-1075 : ℤ)) * k := by gcongr
    _ = v * k * 2 ^ (-53 : ℤ) + 2 ^ (-1075 : ℤ) * k := by ring
    _ ≤ v * k * 2 ^ (-53 : ℤ) + 2 ^ (-1075 : ℤ) * 2 ^ 60 := by gcongr
    _ = v * k * 2 ^ (-53 : ℤ) + 2 ^ (-1015 : ℤ) := by
        rw [← zpow_natCast (2 : ℚ) 60, ← zpow_add₀ two_ne_zero]
        norm_num

/-- What is rounded again is off by three parts in 2^53 at most. -/
theorem Rounds.near {x : Binary64} {y v : ℚ} (hv : 0 ≤ v) (hy : |y - v| ≤ v * 2 ^ (-53 : ℤ) + 2 ^ (-1015 : ℤ))
    (h : x.Rounds negative y) :
    x.Near negative v (v * (3 * 2 ^ (-53 : ℤ)) + 2 ^ (-1000 : ℤ)) (2 ^ 900) := by
  have hunit : (2 : ℚ) ^ (-1015 : ℤ) ≤ 1 := zpow_le_one_of_nonpos₀ one_le_two (by norm_num)
  have hleast : (2 : ℚ) ^ (-1075 : ℤ) ≤ 2 ^ (-1015 : ℤ) := zpow_le_zpow_right₀ one_le_two (by norm_num)
  have hsmall : 4 * (2 : ℚ) ^ (-1015 : ℤ) ≤ 2 ^ (-1000 : ℤ) := by
    rw [show (4 : ℚ) = 2 ^ (2 : ℤ) by norm_num, ← zpow_add₀ two_ne_zero]
    exact zpow_le_zpow_right₀ one_le_two (by norm_num)
  have ht : (0 : ℚ) ≤ 2 ^ (-1015 : ℤ) := by positivity
  generalize (2 : ℚ) ^ (-1015 : ℤ) = t at *
  rw [abs_le] at hy
  cases x with
  | infinite s =>
      obtain ⟨rfl, hfar⟩ := h
      refine ⟨rfl, ?_⟩
      have hfour : 4 * (2 : ℚ) ^ 900 ≤ 2 ^ 1000 := by
        rw [show (4 : ℚ) = 2 ^ 2 by norm_num, ← pow_add]
        exact pow_le_pow_right₀ one_le_two (by norm_num)
      have hone : (1 : ℚ) ≤ 2 ^ 900 := one_le_pow₀ one_le_two
      generalize (2 : ℚ) ^ 900 = far at *
      generalize (2 : ℚ) ^ 1000 = beyond at *
      norm_num at hy
      obtain ⟨-, hhigh⟩ := hy
      linarith
  | finite s m e =>
      obtain ⟨rfl, hexponent, herror⟩ := h
      refine ⟨rfl, hexponent, ?_⟩
      rw [abs_le] at herror ⊢
      generalize (2 : ℚ) ^ (-1075 : ℤ) = least at *
      generalize (2 : ℚ) ^ (-1000 : ℤ) = small at *
      norm_num at hy herror ⊢
      obtain ⟨hlow, hhigh⟩ := hy
      obtain ⟨hlow', hhigh'⟩ := herror
      constructor <;> linarith

theorem near_product {x : Binary64} {v : ℚ} (hv : 0 ≤ v) (hx : x.Rounds negative v) (hk : 0 < k) (hle : k ≤ 2 ^ 60) :
    (x.times k).Near negative (v * k) (v * k * (3 * 2 ^ (-53 : ℤ)) + 2 ^ (-1000 : ℤ)) (2 ^ 900) := by
  have hk60 : (k : ℚ) ≤ 2 ^ 60 := by exact_mod_cast hle
  cases x with
  | infinite s =>
      obtain ⟨rfl, hfar⟩ := hx
      refine ⟨rfl, ?_⟩
      have hk1 : (1 : ℚ) ≤ k := by exact_mod_cast hk
      calc (2 : ℚ) ^ 900 ≤ 2 ^ 1000 := pow_le_pow_right₀ one_le_two (by norm_num)
        _ ≤ v := hfar
        _ ≤ v * k := le_mul_of_one_le_right hv hk1
  | finite s m e =>
      obtain ⟨rfl, -, herror⟩ := hx
      exact (rounds_times s m k e).near (by positivity) (abs_mul_sub hk60 herror)

end Product

section Order

def withSign (negative : Bool) (v : ℚ) : ℚ := if negative then -v else v

@[simp] theorem withSign_true (v : ℚ) : withSign true v = -v := if_pos rfl

@[simp] theorem withSign_false (v : ℚ) : withSign false v = v := if_neg Bool.false_ne_true

theorem cast_scaledValue {e : ℤ} (s : Bool) (m : Nat) (h : leastExponent ≤ e) :
    (scaledValue s m e : ℚ) = withSign s (m * 2 ^ e) * 2 ^ (1074 : ℤ) := by
  obtain ⟨n, hn⟩ := Int.eq_ofNat_of_zero_le (show 0 ≤ e - leastExponent by omega)
  have hmagnitude : ((m * twoTo n : Nat) : ℚ) = m * 2 ^ e * 2 ^ (1074 : ℤ) := by
    rw [leastExponent] at hn
    rw [Nat.cast_mul, cast_twoTo, mul_assoc, ← zpow_add₀ two_ne_zero, ← zpow_natCast]
    congr 2
    omega
  simp only [scaledValue, hn, Int.toNat_natCast]
  cases s with
  | false =>
      rw [withSign_false]
      exact_mod_cast hmagnitude
  | true =>
      rw [if_pos rfl, withSign_true, neg_mul, ← hmagnitude]
      push_cast
      rfl

theorem lt_finite_iff {s s' : Bool} {m m' : Nat} {e e' : ℤ} (h : leastExponent ≤ e) (h' : leastExponent ≤ e') :
    (Binary64.finite s m e).lt (.finite s' m' e') = true ↔ withSign s (m * 2 ^ e) < withSign s' (m' * 2 ^ e') := by
  have hpos : (0 : ℚ) < 2 ^ (1074 : ℤ) := by positivity
  rw [lt, decide_eq_true_iff, ← Int.cast_lt (R := ℚ), cast_scaledValue s m h, cast_scaledValue s' m' h']
  exact mul_lt_mul_iff_left₀ hpos

end Order

end EnvironmentOperator.Binary64
