/-!
How alike two words are, by the letters they have in common at about the same place and in the same order. The
measure is a fraction between nothing and one; a word is similar to another when it is more than seven tenths.
-/
namespace EnvironmentOperator.Text

def markFirst (c : Char) (low high : Nat) : Nat → List (Char × Bool) → Option (List (Char × Bool))
  | _, [] => none
  | i, (d, marked) :: rest =>
      if low ≤ i ∧ i < high ∧ d = c ∧ marked = false then some ((d, true) :: rest)
      else (markFirst c low high (i + 1) rest).map ((d, marked) :: ·)

/-- The letters of the first word that find a partner, and the second word with the partners marked. -/
def pairUp (range : Nat) : Nat → List Char → List (Char × Bool) → List Char × List (Char × Bool)
  | _, [], marks => ([], marks)
  | i, c :: rest, marks =>
      match markFirst c (i - range) (i + range + 1) 0 marks with
      | none => pairUp range (i + 1) rest marks
      | some marks =>
          let (paired, marks) := pairUp range (i + 1) rest marks
          (c :: paired, marks)

structure Fraction where
  numerator : Nat
  denominator : Nat
deriving DecidableEq

namespace Fraction

def lt (a b : Fraction) : Bool := decide (a.numerator * b.denominator < b.numerator * a.denominator)

end Fraction

def displaced : List Char → List Char → Nat
  | a :: as, b :: bs => (if a = b then 0 else 1) + displaced as bs
  | _, _ => 0

/-- The mean of the shares of paired letters in both words and of the paired letters that keep their order. -/
def similarity (s t : String) : Fraction :=
  let a := s.toList
  let b := t.toList
  if a.isEmpty && b.isEmpty then ⟨1, 1⟩
  else
    let range := max a.length b.length / 2 - 1
    let (paired, marks) := pairUp range 0 a (b.map (fun c => (c, false)))
    let partners := (marks.filter Prod.snd).map Prod.fst
    let m := paired.length
    let kept := m - displaced paired partners / 2
    if m = 0 then ⟨0, 1⟩
    else ⟨m * m * b.length + m * m * a.length + kept * a.length * b.length, 3 * m * a.length * b.length⟩

def isSimilar (s t : String) : Bool := Fraction.lt ⟨7, 10⟩ (similarity s t)

def insertBySimilarity (s t : String) : List String → List String
  | [] => [t]
  | u :: rest =>
      if (similarity s t).lt (similarity s u) then t :: u :: rest else u :: insertBySimilarity s t rest

def similarTo (s : String) (words : List String) : List String :=
  (words.filter (isSimilar s)).foldl (fun found t => insertBySimilarity s t found) []

end EnvironmentOperator.Text
