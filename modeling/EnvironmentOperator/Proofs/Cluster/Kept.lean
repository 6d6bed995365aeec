import EnvironmentOperator.Proofs.Cluster.Call
import EnvironmentOperator.Proofs.Program.Along
import EnvironmentOperator.Proofs.Text.Numeral

namespace EnvironmentOperator.Cluster

/-- The clusters that calls and faults lead to from the empty one. -/
inductive Reachable : Cluster → Prop where
  | empty : Reachable {}
  | answer {c : Cluster} (now : Instant) (call : Call) : Reachable c → Reachable (c.answer now call).2
  | plant {c : Cluster} (f : Fault) : Reachable c → Reachable (c.plant f)
  | clearFaults {c : Cluster} : Reachable c → Reachable c.clearFaults

structure Placed (lastVersion : Nat) (k : Key) (o : Object) : Prop where
  name : o.metadata.nameText = k.name
  «namespace» : o.metadata.namespace = k.namespace
  version : ∃ n, n ≤ lastVersion ∧ o.metadata.resourceVersion = some (Text.decimal n)
  generation : o.metadata.generation.isSome = true
  guarded : o.metadata.deletionTimestamp.isSome = true → o.metadata.hasFinalizers = true

def Kept (c : Cluster) : Prop := ∀ k o, c.find? k = some o → Placed c.lastVersion k o

theorem Placed.mono {m n : Nat} {k : Key} {o : Object} (h : Placed m k o) (hmn : m ≤ n) : Placed n k o := by
  obtain ⟨v, hv, hversion⟩ := h.version
  exact ⟨h.name, h.namespace, ⟨v, Nat.le_trans hv hmn, hversion⟩, h.generation, h.guarded⟩

theorem Placed.released {n : Nat} {k : Key} {o : Object} (h : Placed n k o) : isReleased o = false := by
  unfold isReleased
  cases hmark : o.metadata.deletionTimestamp.isSome with
  | false => rfl
  | true => simp [h.guarded hmark]

theorem find?_put_self (c : Cluster) (k : Key) (o : Object) :
    (c.commit (Dict.put c.objects k o)).find? k = some o := (find?_commit_put ..).trans (if_pos rfl)

theorem find?_without_self (c : Cluster) (k : Key) : (c.commit (Dict.without c.objects k)).find? k = none :=
  (find?_commit_without ..).trans (if_pos rfl)

theorem kept_commit_put {c : Cluster} {k : Key} {o : Object} (h : c.Kept) (ho : Placed (c.lastVersion + 1) k o) :
    (c.commit (Dict.put c.objects k o)).Kept := by
  intro k' o' ho'
  rw [find?_commit_put] at ho'
  split at ho'
  · rename_i hk
    cases ho'
    exact hk ▸ ho
  · exact (h k' o' ho').mono (Nat.le_succ _)

theorem kept_commit_without {c : Cluster} {k : Key} (h : c.Kept) : (c.commit (Dict.without c.objects k)).Kept := by
  intro k' o' ho'
  rw [find?_commit_without] at ho'
  split at ho'
  · cases ho'
  · exact (h k' o' ho').mono (Nat.le_succ _)

theorem kept_without {c : Cluster} {k : Key} (h : c.Kept) (mutations : Nat) :
    Kept { c with objects := Dict.without c.objects k, mutations } := by
  intro k' o' ho'
  rw [Cluster.find?, Dict.at?_without] at ho'
  split at ho'
  · cases ho'
  · exact h k' o' ho'

theorem placed_admitted (c : Cluster) (resource : Resource) (o : Object) :
    Placed (c.lastVersion + 1) (Call.addressOf resource o).key (c.admitted o) where
  name := rfl
  «namespace» := rfl
  version := ⟨c.lastVersion + 1, Nat.le_refl _, rfl⟩
  generation := rfl
  guarded h := by cases h

theorem revised_generation (c : Cluster) (current next : Object) :
    Json.Same (specContent next) (specContent current) ∧
        (c.revised current next).metadata.generation = next.metadata.generation ∨
      ¬Json.Same (specContent next) (specContent current) ∧
        (c.revised current next).metadata.generation = grown current.metadata.generation := by
  by_cases h : Json.Same (specContent next) (specContent current)
  · exact .inl ⟨h, if_pos h⟩
  · exact .inr ⟨h, if_neg h⟩

theorem placed_revised {c : Cluster} {k : Key} {resource : Resource} {o current : Object}
    (hcurrent : Placed c.lastVersion k current)
    (h : isReleased (c.revised current (carried current o)) = false) :
    Placed (c.lastVersion + 1) (Call.addressOf resource o).key (c.revised current (carried current o)) where
  name := rfl
  «namespace» := rfl
  version := ⟨c.lastVersion + 1, Nat.le_refl _, rfl⟩
  generation := by
    rcases revised_generation c current (carried current o) with ⟨-, h⟩ | ⟨-, h⟩
    · rw [h]
      exact hcurrent.generation
    · rw [h]
      rfl
  guarded hmark := by
    rw [isReleased, hmark] at h
    simpa using h

theorem placed_marked (now : Instant) {c : Cluster} {k : Key} {o : Object} (h : Placed c.lastVersion k o)
    (hguarded : o.metadata.hasFinalizers = true) : Placed (c.lastVersion + 1) k (c.marked now o) where
  name := h.name
  «namespace» := h.namespace
  version := ⟨c.lastVersion + 1, Nat.le_refl _, rfl⟩
  generation := rfl
  guarded _ := hguarded

inductive Change (c : Cluster) (k : Key) : Cluster → Prop where
  | none : Change c k c
  | put {o : Object} : o.metadata.resourceVersion = some c.nextVersion → (c.Kept → Placed (c.lastVersion + 1) k o) →
      Change c k (c.commit (Dict.put c.objects k o))
  | released : Change c k (c.commit (Dict.without c.objects k))
  | removed (mutations : Nat) : Change c k { c with objects := Dict.without c.objects k, mutations }

theorem change_perform (now : Instant) (c : Cluster) (call : Call) :
    Change c call.address.key (c.perform now call).2 := by
  cases call with
  | get a => exact .none
  | create resource o =>
      simp only [perform, create]
      split
      · exact .none
      · exact .put rfl fun _ => placed_admitted c resource o
  | replace resource o =>
      rcases replace_cases c resource o with ⟨e, he⟩ | ⟨current, hcurrent, -, he | he⟩
      · rw [perform, he]
        exact .none
      · rw [perform, he]
        exact .none
      · rw [perform, he]
        cases hreleased : isReleased (c.revised current (carried current o)) with
        | true => exact .released
        | false => exact .put rfl fun h => placed_revised (h _ _ hcurrent) hreleased
  | delete a =>
      simp only [perform, delete]
      split
      · exact .none
      · rename_i current hcurrent
        split
        · exact .removed _
        · rename_i hguarded
          split
          · exact .none
          · exact .put rfl fun h => placed_marked now (h _ _ hcurrent) (by simpa using hguarded)
  | patchStatus a status =>
      simp only [perform, patchStatus]
      split
      · exact .none
      · rename_i current hcurrent
        split
        · exact .none
        · refine .put rfl ?_
          intro h
          have hplaced := h _ _ hcurrent
          exact ⟨hplaced.name, hplaced.namespace, ⟨c.lastVersion + 1, Nat.le_refl _, rfl⟩, hplaced.generation,
            hplaced.guarded⟩

theorem find?_change_of_ne {c c' : Cluster} {k k' : Key} (hc : Change c k c') (hne : k' ≠ k) :
    c'.find? k' = c.find? k' := by
  cases hc with
  | none => rfl
  | put => exact (find?_commit_put ..).trans (if_neg hne)
  | released => exact (find?_commit_without ..).trans (if_neg hne)
  | removed => exact (Dict.at?_without ..).trans (if_neg hne)

theorem find?_perform_of_ne (now : Instant) (c : Cluster) (call : Call) {k : Key} (h : k ≠ call.address.key) :
    (c.perform now call).2.find? k = c.find? k := find?_change_of_ne (change_perform now c call) h

theorem find?_answer_of_ne (now : Instant) (c : Cluster) (call : Call) {k : Key} (h : k ≠ call.address.key) :
    (c.answer now call).2.find? k = c.find? k := by
  rcases answer_snd_cases now c call with ha | hspent
  · rw [ha]
    exact find?_perform_of_ne now c call h
  · exact hspent.find? k

theorem Kept.change {c c' : Cluster} {k : Key} (h : c.Kept) (hc : Change c k c') : c'.Kept := by
  cases hc with
  | none => exact h
  | put _ ho => exact kept_commit_put h (ho h)
  | released => exact kept_commit_without h
  | removed mutations => exact kept_without h mutations

theorem Kept.perform {c : Cluster} (h : c.Kept) (now : Instant) (call : Call) : (c.perform now call).2.Kept :=
  h.change (change_perform now c call)

theorem Kept.spent {c c' : Cluster} (h : c.Kept) (hs : Spent c c') : c'.Kept := by
  intro k o ho
  rw [hs.find?] at ho
  rw [hs.lastVersion]
  exact h k o ho

theorem Kept.answer {c : Cluster} (h : c.Kept) (now : Instant) (call : Call) : (c.answer now call).2.Kept := by
  rcases answer_snd_cases now c call with ha | hspent
  · rw [ha]
    exact h.perform now call
  · exact h.spent hspent

theorem Reachable.kept {c : Cluster} (h : Reachable c) : c.Kept := by
  induction h with
  | empty =>
      intro k o ho
      cases ho
  | answer now call _ ih => exact ih.answer now call
  | plant f _ ih => exact ih
  | clearFaults _ ih => exact ih

theorem Reachable.maintains {P : Cluster → Prop} {c : Cluster} (h : Reachable c) (hempty : P {})
    (hperform : ∀ c now call, Reachable c → P c → P (perform now c call).2)
    (hfaults : ∀ c faults, P c → P { c with faults }) : P c := by
  induction h with
  | empty => exact hempty
  | @answer c now call hc ih =>
      rcases answer_snd_cases now c call with ha | ⟨faults, -, ha⟩
      · rw [ha]
        exact hperform c now call hc ih
      · rw [ha]
        exact hfaults c faults ih
  | plant f _ ih => exact hfaults _ _ ih
  | clearFaults _ ih => exact hfaults _ _ ih

theorem Reachable.along {ε α : Type} {c : Cluster} (h : Reachable c) (now : Instant) (p : Program ε α) :
    p.Along (answerer now) (fun _ c => Reachable c) (fun _ c => Reachable c) c :=
  Program.Along.of_kept (fun call _ hc => hc.answer now call) (fun _ _ hc => hc) p h

theorem Reachable.run {ε α : Type} {c : Cluster} (h : Reachable c) (now : Instant) (p : Program ε α) :
    Reachable (p.run (answerer now) c).2 := (h.along now p).run

section Versions

variable {c c' : Cluster}

structure Advanced (c c' : Cluster) : Prop where
  lastVersion : c.lastVersion ≤ c'.lastVersion
  objects : ∀ k o, c'.find? k = some o → c.find? k = some o ∨ o.metadata.resourceVersion = some c.nextVersion

theorem Advanced.of_objects (hversion : c'.lastVersion = c.lastVersion) (h : ∀ k, c'.find? k = c.find? k) :
    Advanced c c' :=
  ⟨Nat.le_of_eq hversion.symm, fun k _ ho => .inl (h k ▸ ho)⟩

theorem advanced_commit_put {k : Key} {o : Object} (h : o.metadata.resourceVersion = some c.nextVersion) :
    Advanced c (c.commit (Dict.put c.objects k o)) where
  lastVersion := Nat.le_succ _
  objects k' o' ho' := by
    rw [find?_commit_put] at ho'
    split at ho'
    · cases ho'
      exact .inr h
    · exact .inl ho'

theorem advanced_commit_without {k : Key} : Advanced c (c.commit (Dict.without c.objects k)) where
  lastVersion := Nat.le_succ _
  objects k' o' ho' := by
    rw [find?_commit_without] at ho'
    split at ho'
    · cases ho'
    · exact .inl ho'

theorem advanced_change {k : Key} (hc : Change c k c') : Advanced c c' := by
  cases hc with
  | none => exact .of_objects rfl fun _ => rfl
  | put hversion => exact advanced_commit_put hversion
  | released => exact advanced_commit_without
  | removed mutations =>
      refine ⟨Nat.le_refl _, ?_⟩
      intro k o ho
      rw [Cluster.find?, Dict.at?_without] at ho
      split at ho
      · cases ho
      · exact .inl ho

theorem advanced_answer (now : Instant) (c : Cluster) (call : Call) : Advanced c (c.answer now call).2 := by
  rcases answer_snd_cases now c call with ha | hspent
  · rw [ha]
    exact advanced_change (change_perform now c call)
  · exact .of_objects hspent.lastVersion hspent.find?

structure Known (c : Cluster) (k : Key) (o : Object) : Prop where
  version : ∃ n, n ≤ c.lastVersion ∧ o.metadata.resourceVersion = some (Text.decimal n)
  current : ∀ o', c.find? k = some o' → o'.metadata.resourceVersion = o.metadata.resourceVersion →
    o'.metadata = o.metadata

theorem Kept.known {k : Key} {o : Object} (h : c.Kept) (ho : c.find? k = some o) : Known c k o := by
  refine ⟨(h k o ho).version, ?_⟩
  intro o' ho' _
  cases ho.symm.trans ho'
  rfl

theorem Known.advance {k : Key} {o : Object} (h : Known c k o) (hc : Advanced c c') : Known c' k o := by
  obtain ⟨n, hn, hversion⟩ := h.version
  refine ⟨⟨n, Nat.le_trans hn hc.lastVersion, hversion⟩, ?_⟩
  intro o' ho' hsame
  rcases hc.objects k o' ho' with hbefore | hnew
  · exact h.current o' hbefore hsame
  · rw [hversion, hnew, Option.some_inj, nextVersion] at hsame
    have hn' := Text.decimal_injective hsame
    omega

end Versions

end EnvironmentOperator.Cluster
