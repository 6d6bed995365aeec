namespace EnvironmentOperator.Text

def charsBefore : List Char → List Char → Bool
  | _, [] => false
  | [], _ :: _ => true
  | a :: as, b :: bs => if a = b then charsBefore as bs else decide (a.toNat < b.toNat)

def before (s t : String) : Bool := charsBefore s.toList t.toList

theorem charsBefore_self (cs : List Char) : charsBefore cs cs = false := by
  induction cs with
  | nil => rfl
  | cons c cs ih => simpa [charsBefore] using ih

theorem charsBefore_total : ∀ a b : List Char, a = b ∨ charsBefore a b = true ∨ charsBefore b a = true
  | [], [] => .inl rfl
  | [], _ :: _ => .inr (.inl rfl)
  | _ :: _, [] => .inr (.inr rfl)
  | a :: as, b :: bs => by
      by_cases h : a = b
      · subst h
        simpa [charsBefore] using charsBefore_total as bs
      · have hn : a.toNat ≠ b.toNat := fun e => h (Char.toNat_inj.1 e)
        have hb : ¬b = a := fun e => h e.symm
        simp only [charsBefore, h, hb, if_false, decide_eq_true_eq]
        omega

end EnvironmentOperator.Text
