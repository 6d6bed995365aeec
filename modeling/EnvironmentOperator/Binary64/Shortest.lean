import EnvironmentOperator.Binary64
/-!
The shortest decimal text of a number: the fewest digits that read back, and of those the nearest. Numbers
from 10^-5 up to 10^16 are written with all their places, the others with an exponent that bears its sign.
-/
namespace EnvironmentOperator.Binary64

/-- The decimal digits before the point that a magnitude `m · 2 ^ e` needs. -/
def decimalPlaces (m : Nat) (e : Int) : Int :=
  if 0 ≤ e then (Nat.toDigits 10 (m * twoTo e.toNat)).length
  else
    let n := m / twoTo (-e).toNat
    if 0 < n then (Nat.toDigits 10 n).length
    else
      let zeros := (List.range 400).find? (fun k => decide (twoTo (-e).toNat ≤ m * tenTo (k + 1)))
      Int.negOfNat (zeros.getD 400)

def neighbours (m : Nat) (e power : Int) : List Nat :=
  let num := m * twoTo e.toNat * tenTo (-power).toNat
  let den := twoTo (-e).toNat * tenTo power.toNat
  let low := num / den
  if 2 * (num % den) < den ∨ (2 * (num % den) = den ∧ low % 2 = 0) then [low, low + 1]
  else [low + 1, low]

def shortestDigits (m : Nat) (e : Int) : Nat × Int :=
  let places := decimalPlaces m e
  let candidates := (List.range 17).flatMap (fun k : Nat =>
    let power := places - (Int.ofNat k + 1)
    (neighbours m e power).map (fun d => (d, power)))
  let reads := candidates.find? (fun c => ofDecimal false c.1 c.2 = .finite false m e)
  reads.getD (m, 0)

def stripZeros : Nat → Nat × Int → Nat × Int
  | 0, d => d
  | fuel + 1, (d, p) => if d ≠ 0 ∧ d % 10 = 0 then stripZeros fuel (d / 10, p + 1) else (d, p)

def signed (n : Int) : String := (if 0 ≤ n then "+" else "") ++ Text.decimalInt n

def render (x : Binary64) : String :=
  match x with
  | .infinite s => if s then "-inf" else "inf"
  | .finite s m e =>
      let sign := if s then "-" else ""
      if m = 0 then sign ++ "0.0"
      else
        let (d, power) := stripZeros 400 (shortestDigits m e)
        let digits := Nat.toDigits 10 d
        let count : Int := digits.length
        let point := count + power
        if 0 ≤ power ∧ point ≤ 16 then
          sign ++ String.ofList (digits ++ List.replicate power.toNat '0') ++ ".0"
        else if 0 < point ∧ point ≤ 16 then
          sign ++ String.ofList (digits.take point.toNat) ++ "." ++ String.ofList (digits.drop point.toNat)
        else if -5 < point ∧ point ≤ 0 then
          sign ++ "0." ++ String.ofList (List.replicate (-point).toNat '0' ++ digits)
        else
          let tail := if digits.length = 1 then [] else '.' :: digits.drop 1
          sign ++ String.ofList (digits.take 1 ++ tail) ++ "e" ++ signed (point - 1)

end EnvironmentOperator.Binary64
