import EnvironmentOperator.Dict

namespace EnvironmentOperator

namespace Text

theorem charsBefore_trans {a b c : List Char} (hab : charsBefore a b = true) (hbc : charsBefore b c = true) :
    charsBefore a c = true := by
  induction a generalizing b c with
  | nil =>
      cases c with
      | nil => cases b <;> simp [charsBefore] at hbc
      | cons z zs => rfl
  | cons x xs ih =>
      cases b with
      | nil => simp [charsBefore] at hab
      | cons y ys =>
          cases c with
          | nil => simp [charsBefore] at hbc
          | cons z zs =>
              simp only [charsBefore] at hab hbc ⊢
              by_cases hxy : x = y
              · subst hxy
                by_cases hxz : x = z
                · rw [if_pos rfl] at hab
                  rw [if_pos hxz] at hbc ⊢
                  exact ih hab hbc
                · rwa [if_neg hxz] at hbc ⊢
              · rw [if_neg hxy, decide_eq_true_eq] at hab
                by_cases hyz : y = z
                · subst hyz
                  rw [if_neg hxy, decide_eq_true_eq]
                  exact hab
                · rw [if_neg hyz, decide_eq_true_eq] at hbc
                  have hxz : x ≠ z := by
                    rintro rfl
                    omega
                  rw [if_neg hxz, decide_eq_true_eq]
                  omega

theorem before_self (s : String) : before s s = false := charsBefore_self _

theorem before_trans {a b c : String} (hab : before a b = true) (hbc : before b c = true) : before a c = true :=
  charsBefore_trans hab hbc

theorem before_total {a b : String} (h : a ≠ b) : before a b = true ∨ before b a = true := by
  rcases charsBefore_total a.toList b.toList with he | hab | hba
  · exact absurd (String.toList_inj.1 he) h
  · exact .inl hab
  · exact .inr hba

end Text

end EnvironmentOperator
