import EnvironmentOperator.Proofs.Cluster.Version

namespace EnvironmentOperator.Cluster

variable {c c' : Cluster} {k : Key} {o : Object} {call : Call} {e : StoreError}

inductive Used (c : Cluster) (call : Call) : Cluster → Prop where
  | nothing : Used c call c
  | fault {before after : List Fault} {f : Fault} : c.faults = before ++ f :: after →
      Concerns f call.verb call.address.resource.kind call.address.name → f.effect = .conflictOnce →
      Used c call { c with faults := before ++ after }

theorem used_strike (c : Cluster) (call : Call) :
    Used c call (c.strike call.verb call.address.resource.kind call.address.name).2 := by
  unfold strike
  split
  · exact .nothing
  · rename_i f hfind
    cases heffect : f.effect with
    | refuse => exact .nothing
    | conflictOnce =>
        obtain ⟨hconcerns, before, after, hfaults, hbefore⟩ := List.find?_eq_some_iff_append.1 hfind
        have herased : c.faults.eraseP (fun f =>
            decide (Concerns f call.verb call.address.resource.kind call.address.name)) = before ++ after := by
          rw [hfaults, List.eraseP_append_right _ (by simpa using hbefore), List.eraseP_cons, hconcerns, cond_true]
        simp only [herased]
        exact .fault hfaults (of_decide_eq_true hconcerns) heffect

theorem used_of_error {now : Instant} (h : (c.answer now call).1 = .error e) : Used c call (c.answer now call).2 := by
  have hused := used_strike c call
  rcases strike_cases c call with hcalm | ⟨-, e', c', hstrike, -, -⟩
  · rw [answer_of_calm now hcalm] at h ⊢
    rw [perform_of_error h]
    exact .nothing
  · rw [hstrike] at hused
    rw [answer, hstrike]
    exact hused

inductive Counted (c : Cluster) (k : Key) : Cluster → Prop where
  | unchanged : Counted c k c
  | changed {c' : Cluster} : c'.find? k ≠ c.find? k → c'.mutations = c.mutations + 1 →
      c'.lastVersion ≤ c.lastVersion + 1 → Counted c k c'

theorem counted_put (h : c.Kept) (hversion : o.metadata.resourceVersion = some c.nextVersion) :
    Counted c k (c.commit (Dict.put c.objects k o)) := by
  have hnewer : Newer c o := ⟨c.lastVersion + 1, Nat.lt_succ_self _, hversion⟩
  refine .changed ?_ rfl (Nat.le_refl _)
  rw [find?_put_self]
  intro hbefore
  exact hnewer.version_ne h hbefore.symm rfl

theorem counted_released (ho : c.find? k = some o) : Counted c k (c.commit (Dict.without c.objects k)) := by
  refine .changed ?_ rfl (Nat.le_refl _)
  rw [find?_without_self, ho]
  exact (Option.some_ne_none o).symm

theorem counted_removed (ho : c.find? k = some o) :
    Counted c k { c with objects := Dict.without c.objects k, mutations := c.mutations + 1 } := by
  refine .changed ?_ rfl (Nat.le_succ _)
  have hgone : Dict.at? (Dict.without c.objects k) k = none := (Dict.at?_without ..).trans (if_pos rfl)
  rw [ho, Cluster.find?, hgone]
  exact (Option.some_ne_none o).symm

theorem counted_perform (h : c.Kept) (now : Instant) (call : Call) :
    Counted c call.address.key (c.perform now call).2 := by
  cases call with
  | get a => exact .unchanged
  | create resource o =>
      simp only [perform, create]
      split
      · exact .unchanged
      · exact counted_put h rfl
  | replace resource o =>
      rcases replace_cases c resource o with ⟨e, he⟩ | ⟨current, hcurrent, -, he | he⟩
      · rw [perform, he]
        exact .unchanged
      · rw [perform, he]
        exact .unchanged
      · rw [perform, he]
        split
        · exact counted_released hcurrent
        · exact counted_put h rfl
  | delete a =>
      simp only [perform, delete]
      split
      · exact .unchanged
      · rename_i current hcurrent
        split
        · exact counted_removed hcurrent
        · split
          · exact .unchanged
          · exact counted_put h rfl
  | patchStatus a status =>
      simp only [perform, patchStatus]
      split
      · exact .unchanged
      · split
        · exact .unchanged
        · exact counted_put h rfl

theorem Counted.mutations (h : Counted c k c') :
    c'.mutations = c.mutations + if c'.objects = c.objects then 0 else 1 := by
  cases h with
  | unchanged => rw [if_pos rfl, Nat.add_zero]
  | changed hfind hmutations _ =>
      have hobjects : c'.objects ≠ c.objects := fun he => hfind (by rw [Cluster.find?, he, Cluster.find?])
      rw [if_neg hobjects]
      exact hmutations

theorem Counted.versions_le (h : Counted c k c') (hle : c.lastVersion ≤ c.mutations) :
    c'.lastVersion ≤ c'.mutations := by
  cases h with
  | unchanged => exact hle
  | changed _ hmutations hversion => omega

theorem Reachable.versions_le (h : Reachable c) : c.lastVersion ≤ c.mutations := by
  refine h.maintains (P := fun c => c.lastVersion ≤ c.mutations) (Nat.le_refl 0) ?_ fun _ _ hle => hle
  intro c now call hc hle
  exact (counted_perform hc.kept now call).versions_le hle

/-- A call that fails leaves the cluster as it was, but for one fault at most. A call that succeeds leaves every entry
but the one it addresses as it was, and one more change is counted exactly when the objects have changed. -/
theorem answer_accounted (h : Reachable c) (now : Instant) (call : Call) :
    (∀ e, (c.answer now call).1 = .error e → Used c call (c.answer now call).2) ∧
      ∀ r, (c.answer now call).1 = .ok r →
        (∀ k, k ≠ call.address.key → (c.answer now call).2.find? k = c.find? k) ∧
          (c.answer now call).2.mutations =
            c.mutations + if (c.answer now call).2.objects = c.objects then 0 else 1 := by
  refine ⟨fun e => used_of_error, ?_⟩
  intro r hr
  rw [answer_of_ok hr]
  exact ⟨fun k => find?_perform_of_ne now c call, (counted_perform h.kept now call).mutations⟩

section Withheld

def clash : Fault := ⟨.replace, "ConfigMap", "note", .conflictOnce⟩

def withheldNote : Cluster := noted.plant clash

theorem reachable_withheldNote : Reachable withheldNote := .plant clash reachable_noted

theorem answer_accounted_withheld :
    (∃ e, (withheldNote.answer noon (.replace Kind.configMap.resource noteAsRead)).1 = .error e ∧
      Used withheldNote (.replace Kind.configMap.resource noteAsRead)
        (withheldNote.answer noon (.replace Kind.configMap.resource noteAsRead)).2) ∧
    (withheldNote.answer noon (.delete noteAddress)).2.mutations = 2 := by
  obtain ⟨hfails, -⟩ :=
    answer_accounted reachable_withheldNote noon (.replace Kind.configMap.resource noteAsRead)
  obtain ⟨-, hsucceeds⟩ := answer_accounted reachable_withheldNote noon (.delete noteAddress)
  obtain ⟨-, hcount⟩ := hsucceeds () (by with_unfolding_all rfl)
  refine ⟨⟨_, by with_unfolding_all rfl, hfails _ (by with_unfolding_all rfl)⟩, hcount.trans ?_⟩
  with_unfolding_all rfl

end Withheld

end EnvironmentOperator.Cluster
