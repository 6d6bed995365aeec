import EnvironmentOperator.Text.Blank
import Mathlib.Data.List.DropRight

namespace EnvironmentOperator.Text

variable {cs core : List Char}

/-- A text is its core with blanks around it, and the core neither begins nor ends with a blank. -/
structure Trimmed (cs core : List Char) : Prop where
  around : ∃ before after, cs = before ++ (core ++ after) ∧ (∀ c ∈ before, isBlank c = true) ∧
    ∀ c ∈ after, isBlank c = true
  begins : ∀ c, core.head? = some c → isBlank c = false
  ends : ∀ c, core.getLast? = some c → isBlank c = false

theorem dropBlank_of_head (h : ∀ c, cs.head? = some c → isBlank c = false) : dropBlank cs = cs := by
  cases cs with
  | nil => rfl
  | cons c cs => exact List.dropWhile_cons_of_neg (by simp [h c rfl])

theorem dropBlank_head (cs : List Char) : ∀ c, (dropBlank cs).head? = some c → isBlank c = false := by
  intro c hc
  have hhead := List.head?_dropWhile_not isBlank cs
  rw [dropBlank] at hc
  rw [hc] at hhead
  exact hhead

theorem Trimmed.trimBlank_eq (h : Trimmed cs core) : trimBlank cs = core := by
  obtain ⟨before, after, rfl, hbefore, hafter⟩ := h.around
  have hreverse : ∀ c ∈ after.reverse, isBlank c = true := fun c hc => hafter c (List.mem_reverse.1 hc)
  rw [trimBlank, dropBlank_append_eq hbefore]
  -- without a core the blanks at the end are dropped from the front
  cases hcore : core with
  | nil =>
      have hnone : dropBlank after = [] := List.dropWhile_eq_nil_iff.2 hafter
      rw [List.nil_append, hnone]
      rfl
  | cons c rest =>
      have hfront : dropBlank (core ++ after) = core ++ after :=
        dropBlank_of_head fun d hd => h.begins d (by simpa [hcore] using hd)
      have hback : dropBlank core.reverse = core.reverse :=
        dropBlank_of_head fun d hd => h.ends d (List.head?_reverse ▸ hd)
      rw [← hcore, hfront, List.reverse_append, dropBlank_append_eq hreverse, hback, List.reverse_reverse]

theorem trimmed_trimBlank (cs : List Char) : Trimmed cs (trimBlank cs) := by
  have htrim : trimBlank cs = (dropBlank cs).rdropWhile isBlank := rfl
  refine ⟨⟨cs.takeWhile isBlank, (dropBlank cs).rtakeWhile isBlank, ?_, ?_, ?_⟩, ?_, ?_⟩
  · rw [htrim, List.rdropWhile_append_rtakeWhile]
    exact List.takeWhile_append_dropWhile.symm
  · exact fun c => List.mem_takeWhile_imp
  · exact fun c => List.mem_rtakeWhile_imp
  · intro c hc
    obtain ⟨rest, hrest⟩ : trimBlank cs <+: dropBlank cs := htrim ▸ List.rdropWhile_prefix isBlank _
    refine dropBlank_head cs c ?_
    rw [← hrest, List.head?_append, hc]
    rfl
  · intro c hc
    rw [trimBlank, List.getLast?_reverse] at hc
    exact dropBlank_head _ c hc

theorem trimBlank_eq_iff : trimBlank cs = core ↔ Trimmed cs core :=
  ⟨fun h => h ▸ trimmed_trimBlank cs, Trimmed.trimBlank_eq⟩

end EnvironmentOperator.Text
