import EnvironmentOperator.Power
import EnvironmentOperator.Text.Numeral
/-!
Binary floating point numbers of 64 bits, as exact values: a mantissa below 2^53 and a power of two. Every
operation computes the exact rational result and rounds it once, to nearest with ties to even.
-/
namespace EnvironmentOperator

inductive Binary64 where
  | finite (negative : Bool) (mantissa : Nat) (exponent : Int)
  | infinite (negative : Bool)
deriving DecidableEq

namespace Binary64

def leastExponent : Int := -1074

def greatestExponent : Int := 971

def roundDiv (num den : Nat) : Nat :=
  let q := num / den
  let r := num % den
  if den < 2 * r ∨ (2 * r = den ∧ q % 2 = 1) then q + 1 else q

def scaled (num den : Nat) (e : Int) : Nat × Nat :=
  if 0 ≤ e then (num, den * twoTo e.toNat) else (num * twoTo (-e).toNat, den)

/-- The exponent for which the mantissa of `num / den` has 53 bits, or the least one. -/
def exponentOf (num den : Nat) : Int :=
  let guess : Int := (Nat.log2 num : Int) - Nat.log2 den - 52
  let (n, d) := scaled num den guess
  let e := if n / d < twoTo 52 then guess - 1 else guess
  if e < leastExponent then leastExponent else e

def ofRatio (negative : Bool) (num den : Nat) : Binary64 :=
  if num = 0 then .finite negative 0 leastExponent
  else
    let e := exponentOf num den
    let (n, d) := scaled num den e
    let m := roundDiv n d
    let (m, e) := if m = twoTo 53 then (twoTo 52, e + 1) else (m, e)
    if greatestExponent < e then .infinite negative else .finite negative m e

/-- The nearest number to `digits · 10 ^ power`. A power far out of range is not computed. -/
def ofDecimal (negative : Bool) (digits : Nat) (power : Int) : Binary64 :=
  if digits = 0 then .finite negative 0 leastExponent
  else
    let magnitude : Int := (Nat.log2 digits : Int) / 4 + power
    if 400 < magnitude then .infinite negative
    else if (Nat.log2 digits : Int) + power < -800 then .finite negative 0 leastExponent
    else if 0 ≤ power then ofRatio negative (digits * tenTo power.toNat) 1
    else ofRatio negative digits (tenTo (-power).toNat)

def times (x : Binary64) (k : Nat) : Binary64 :=
  match x with
  | .infinite s => .infinite s
  | .finite s m e =>
      if 0 ≤ e then ofRatio s (m * k * twoTo e.toNat) 1 else ofRatio s (m * k) (twoTo (-e).toNat)

/-- The product with the number nearest to `10 ^ power`; for a negative power, the quotient by the number nearest
to `10 ^ (-power)`. -/
def timesTenTo (x : Binary64) (power : Int) : Binary64 :=
  match x, ofRatio false (tenTo power.natAbs) 1 with
  | .finite s m e, .finite _ m' e' =>
      let (n, d) := if 0 ≤ power then scaled (m * m') 1 (-(e + e')) else scaled m m' (e' - e)
      ofRatio s n d
  | x, _ => x

/-- The value times `2 ^ 1074`, an integer for every finite number. -/
def scaledValue (negative : Bool) (mantissa : Nat) (exponent : Int) : Int :=
  let magnitude : Int := mantissa * twoTo (exponent - leastExponent).toNat
  if negative then -magnitude else magnitude

def lt (x y : Binary64) : Bool :=
  match x, y with
  | .finite s m e, .finite s' m' e' => decide (scaledValue s m e < scaledValue s' m' e')
  | .infinite s, .infinite s' => s && !s'
  | .infinite s, .finite _ _ _ => s
  | .finite _ _ _, .infinite s => !s

def ofDigits? (cs : List Char) : Option Binary64 :=
  let (negative, cs) := match cs with
    | '-' :: rest => (true, rest)
    | '+' :: rest => (false, rest)
    | _ => (false, cs)
  let whole := cs.takeWhile Text.isDigit
  let rest := cs.dropWhile Text.isDigit
  match rest with
  | [] => if whole = [] then none else some (ofDecimal negative (Text.digitsValue whole) 0)
  | '.' :: fraction =>
      if fraction.all Text.isDigit && decide (whole ++ fraction ≠ []) then
        some (ofDecimal negative (Text.digitsValue (whole ++ fraction)) (-(fraction.length : Int)))
      else none
  | _ => none

@[simp] theorem roundDiv_one (n : Nat) : roundDiv n 1 = n := by
  simp [roundDiv, Nat.mod_one]

theorem lt_irrefl (x : Binary64) : x.lt x = false := by
  cases x with
  | finite s m e => simp [lt]
  | infinite s => cases s <;> rfl

end Binary64

end EnvironmentOperator
