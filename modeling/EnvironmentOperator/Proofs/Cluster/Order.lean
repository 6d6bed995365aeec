import EnvironmentOperator.Proofs.Cluster.Kept

namespace EnvironmentOperator

namespace Key

theorem namespaceBefore_self (a : Option String) : namespaceBefore a a = false := by
  cases a with
  | none => rfl
  | some a => exact Text.before_self a

theorem namespaceBefore_trans {a b c : Option String} (hab : namespaceBefore a b = true)
    (hbc : namespaceBefore b c = true) : namespaceBefore a c = true := by
  cases a <;> cases b <;> cases c <;> simp_all [namespaceBefore]
  exact Text.before_trans hab hbc

theorem namespaceBefore_total {a b : Option String} (h : a ≠ b) :
    namespaceBefore a b = true ∨ namespaceBefore b a = true := by
  cases a <;> cases b <;> simp_all [namespaceBefore]
  exact Text.before_total h

instance : StrictKeyOrder Key where
  irrefl a := by simp [KeyOrder.before, before, Text.before_self]
  trans {a b c} hab hbc := by
    simp only [KeyOrder.before, before] at hab hbc ⊢
    grind [Text.before_trans, Text.before_self, namespaceBefore_trans, namespaceBefore_self]
  total {a b} h := by
    obtain ⟨_, _, _, _⟩ := a
    obtain ⟨_, _, _, _⟩ := b
    simp only [KeyOrder.before, before]
    grind [Text.before_total, namespaceBefore_total]

end Key

namespace Cluster

variable {c c' : Cluster} {k : Key} {o : Object}

theorem ordered_change (h : Dict.Ordered c.objects) (hc : Change c k c') : Dict.Ordered c'.objects := by
  cases hc with
  | none => exact h
  | put => exact Dict.ordered_put h k _
  | released => exact Dict.ordered_without h k
  | removed => exact Dict.ordered_without h k

theorem Reachable.ordered (h : Reachable c) : Dict.Ordered c.objects :=
  h.maintains .nil (fun c now call _ ho => ordered_change ho (change_perform now c call)) fun _ _ ho => ho

theorem Reachable.find?_iff (h : Reachable c) : c.find? k = some o ↔ (k, o) ∈ c.objects :=
  ⟨Dict.at?_mem, Dict.at?_of_mem h.ordered⟩

end Cluster

end EnvironmentOperator
