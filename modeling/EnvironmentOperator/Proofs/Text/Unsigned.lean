import EnvironmentOperator.Proofs.Text.Numeral
import Mathlib.Data.List.Induction

namespace EnvironmentOperator.Text

variable {cs : List Char} {c : Char} {n : Nat}

inductive Numeral : List Char → Nat → Prop where
  | digit (d : Fin 10) : Numeral [Nat.digitChar d] d
  | more {cs : List Char} {n : Nat} (d : Fin 10) : Numeral cs n → Numeral (cs ++ [Nat.digitChar d]) (10 * n + d)

inductive Unsigned : List Char → Nat → Prop where
  | bare {cs : List Char} {n : Nat} : Numeral cs n → Unsigned cs n
  | plus {cs : List Char} {n : Nat} : Numeral cs n → Unsigned ('+' :: cs) n

theorem isDigit_digitChar : ∀ d : Fin 10, isDigit (Nat.digitChar d) = true := by decide

theorem digitValue_digitChar : ∀ d : Fin 10, digitValue (Nat.digitChar d) = d := by decide

theorem digitChar_of_isDigit (h : isDigit c = true) : ∃ d : Fin 10, c = Nat.digitChar d := by
  obtain ⟨hlow, -⟩ := isDigit_bounds h
  refine ⟨⟨digitValue c, digitValue_lt h⟩, Char.toNat_inj.1 ?_⟩
  rw [Nat.toNat_digitChar_of_lt_ten (digitValue_lt h)]
  show c.toNat = 48 + (c.toNat - 48)
  omega

theorem Numeral.ne_nil (h : Numeral cs n) : cs ≠ [] := by
  cases h <;> simp

theorem Numeral.digits (h : Numeral cs n) : ∀ c ∈ cs, isDigit c = true := by
  induction h with
  | digit d =>
      intro c hc
      rw [List.mem_singleton.1 hc]
      exact isDigit_digitChar d
  | more d _ ih =>
      intro c hc
      rcases List.mem_append.1 hc with hc | hc
      · exact ih c hc
      · rw [List.mem_singleton.1 hc]
        exact isDigit_digitChar d

theorem Numeral.value (h : Numeral cs n) : digitsValue cs = n := by
  induction h with
  | digit d =>
      show 10 * 0 + digitValue (Nat.digitChar d) = d
      rw [digitValue_digitChar]
      omega
  | more d _ ih => rw [digitsValue_concat, ih, digitValue_digitChar]

theorem numeral_of_digits (hne : cs ≠ []) (h : ∀ c ∈ cs, isDigit c = true) : Numeral cs (digitsValue cs) := by
  -- the last digit is the one that weighs least, so digits are taken from the end
  induction cs using List.reverseRecOn with
  | nil => exact absurd rfl hne
  | append_singleton cs c ih =>
      obtain ⟨d, rfl⟩ := digitChar_of_isDigit (h c (List.mem_append_right _ (List.mem_singleton_self c)))
      cases cs with
      | nil =>
          have hvalue : digitsValue [Nat.digitChar d] = d := (Numeral.digit d).value
          rw [List.nil_append, hvalue]
          exact .digit d
      | cons b cs =>
          rw [digitsValue_concat, digitValue_digitChar]
          exact .more d (ih (List.cons_ne_nil b cs) fun c hc => h c (List.mem_append_left _ hc))

theorem numeral_iff : Numeral cs n ↔ (cs ≠ [] ∧ cs.all isDigit = true) ∧ digitsValue cs = n := by
  constructor
  · exact fun h => ⟨⟨h.ne_nil, List.all_eq_true.2 h.digits⟩, h.value⟩
  · rintro ⟨⟨hne, hdigits⟩, rfl⟩
    exact numeral_of_digits hne (List.all_eq_true.1 hdigits)

theorem unsigned_plus_iff : Unsigned ('+' :: cs) n ↔ Numeral cs n := by
  constructor
  · intro h
    cases h with
    | bare h => exact absurd (h.digits '+' (.head _)) (by decide)
    | plus h => exact h
  · exact .plus

theorem unsigned_iff_of_head (h : ∀ rest, cs ≠ '+' :: rest) : Unsigned cs n ↔ Numeral cs n := by
  constructor
  · intro hn
    cases hn with
    | bare hn => exact hn
    | plus _ => exact absurd rfl (h _)
  · exact .bare

theorem ite_digitsValue_eq_some {greatest : Nat} :
    (if cs ≠ [] ∧ cs.all isDigit = true ∧ digitsValue cs ≤ greatest then some (digitsValue cs) else none) = some n ↔
      Numeral cs n ∧ n ≤ greatest := by
  rw [numeral_iff]
  split
  · rename_i h
    constructor
    · intro hn
      cases hn
      exact ⟨⟨⟨h.1, h.2.1⟩, rfl⟩, h.2.2⟩
    · rintro ⟨⟨-, rfl⟩, -⟩
      rfl
  · rename_i h
    refine iff_of_false nofun ?_
    rintro ⟨⟨hcs, rfl⟩, hle⟩
    exact h ⟨hcs.1, hcs.2, hle⟩

theorem unsigned?_eq_some {greatest : Nat} : unsigned? greatest cs = some n ↔ Unsigned cs n ∧ n ≤ greatest := by
  unfold unsigned?
  rw [ite_digitsValue_eq_some]
  split
  · rw [unsigned_plus_iff]
  · rename_i h
    rw [unsigned_iff_of_head h]

end EnvironmentOperator.Text
