/-!
White space in the sense of the Unicode property `White_Space`, and trimming by it.
-/
namespace EnvironmentOperator.Text

def isBlank (c : Char) : Bool :=
  let n := c.toNat
  (9 ≤ n && n ≤ 13) || n = 0x20 || n = 0x85 || n = 0xA0 || n = 0x1680 || (0x2000 ≤ n && n ≤ 0x200A) ||
    n = 0x2028 || n = 0x2029 || n = 0x202F || n = 0x205F || n = 0x3000

def dropBlank (cs : List Char) : List Char := cs.dropWhile isBlank

def trimBlank (cs : List Char) : List Char := (dropBlank (dropBlank cs).reverse).reverse

theorem isBlank_of_isWhitespace {c : Char} (h : c.isWhitespace = true) : isBlank c = true := by
  simp only [Char.isWhitespace, Bool.or_eq_true, decide_eq_true_eq] at h
  rcases h with ((h | h) | h) | h <;> subst h <;> decide

theorem dropBlank_append_eq {cs rest : List Char} (h : ∀ c ∈ cs, isBlank c = true) :
    dropBlank (cs ++ rest) = dropBlank rest := by
  induction cs with
  | nil => rfl
  | cons c cs ih => simp_all [dropBlank]

end EnvironmentOperator.Text
