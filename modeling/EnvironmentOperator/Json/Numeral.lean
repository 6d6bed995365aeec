import EnvironmentOperator.Json
import EnvironmentOperator.Text.Numeral
/-!
Numbers as JSON text writes them, and their values. A whole number of 64 bits is an integer; a fraction, an
exponent, a negative zero or more digits make a real. A real is made of the digits that 64 bits hold, rounded, and
is then moved by its power of ten with one more rounding, so it may differ from the nearest number in the last
place. One too large to represent has no value.
-/
namespace EnvironmentOperator.Json

structure Numeral where
  negative : Bool
  whole : List Char
  fraction : List Char
  power : Option Int
deriving DecidableEq

namespace Numeral

/-- Takes up digits as long as their number has 64 bits; the rest are given back. -/
def gather (n : Nat) : List Char → Nat × List Char
  | [] => (n, [])
  | c :: rest =>
      let next := n * 10 + Text.digitValue c
      if next < twoTo 64 then gather next rest else (n, c :: rest)

def greatestPower : Int := 308

def real? (negative : Bool) (n : Nat) (power : Int) : Option Json :=
  let x := Binary64.ofRatio negative n 1
  if n = 0 then some (.real x)
  else if greatestPower < power then none
  else if -greatestPower ≤ power then
    match x.timesTenTo power with
    | .infinite _ => none
    | y => some (.real y)
  else if -2 * greatestPower ≤ power then
    some (.real ((x.timesTenTo (-greatestPower)).timesTenTo (power + greatestPower)))
  else some (.real (.finite negative 0 Binary64.leastExponent))

def integer? (negative : Bool) (n : Nat) : Option Json :=
  if negative then
    if n = 0 ∨ twoTo 63 < n then real? true n 0 else some (.int (-(n : Int)))
  else some (.int n)

def value? (x : Numeral) : Option Json :=
  let (n, beyond) := gather 0 x.whole
  if x.fraction = [] ∧ x.power = none ∧ beyond = [] then integer? x.negative n
  else
    let (n, ignored) := gather n x.fraction
    let places : Int := x.fraction.length - ignored.length
    real? x.negative n (beyond.length - places + x.power.getD 0)

theorem gather_lt {n : Nat} (h : n < twoTo 64) (cs : List Char) : (gather n cs).1 < twoTo 64 := by
  induction cs generalizing n with
  | nil => exact h
  | cons c rest ih =>
      simp only [gather]
      split
      · next h' => exact ih h'
      · exact h

end Numeral

end EnvironmentOperator.Json
