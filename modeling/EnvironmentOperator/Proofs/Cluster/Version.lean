import EnvironmentOperator.Proofs.Cluster.Moves

namespace EnvironmentOperator.Cluster

variable {c c' c₁ : Cluster} {k k' : Key} {o o' : Object}

def Distinct (c : Cluster) : Prop :=
  ∀ k o k' o', c.find? k = some o → c.find? k' = some o' →
    o'.metadata.resourceVersion = o.metadata.resourceVersion → k' = k

theorem Newer.version_ne (h : Newer c o) (hk : c.Kept) (ho' : c.find? k = some o') :
    o.metadata.resourceVersion ≠ o'.metadata.resourceVersion := by
  obtain ⟨n, hn, hversion⟩ := h
  obtain ⟨m, hm, hversion'⟩ := (hk k o' ho').version
  rw [hversion, hversion']
  intro he
  have hsame : n = m := Text.decimal_injective (Option.some.inj he)
  omega

theorem distinct_put (h : c.Distinct) (hk : c.Kept) (hversion : o.metadata.resourceVersion = some c.nextVersion) :
    (c.commit (Dict.put c.objects k o)).Distinct := by
  have hnewer : Newer c o := ⟨c.lastVersion + 1, Nat.lt_succ_self _, hversion⟩
  intro k₁ o₁ k₂ o₂ h₁ h₂ hsame
  rw [find?_commit_put] at h₁ h₂
  split at h₁
  · cases h₁
    split at h₂
    · rename_i hk₁ hk₂
      exact hk₂.trans hk₁.symm
    · exact absurd hsame.symm (hnewer.version_ne hk h₂)
  · split at h₂
    · cases h₂
      exact absurd hsame (hnewer.version_ne hk h₁)
    · exact h _ _ _ _ h₁ h₂ hsame

theorem distinct_of_subset (h : c.Distinct) (hsubset : ∀ k o, c'.find? k = some o → c.find? k = some o) :
    c'.Distinct := fun _ _ _ _ h₁ h₂ hsame => h _ _ _ _ (hsubset _ _ h₁) (hsubset _ _ h₂) hsame

theorem find?_of_without (h : (Dict.at? (Dict.without c.objects k') k) = some o) : c.find? k = some o := by
  rw [Dict.at?_without] at h
  split at h
  · cases h
  · exact h

theorem Distinct.change (h : c.Distinct) (hk : c.Kept) (hc : Change c k c') : c'.Distinct := by
  cases hc with
  | none => exact h
  | put hversion _ => exact distinct_put h hk hversion
  | released => exact distinct_of_subset h fun _ _ => find?_of_without
  | removed mutations => exact distinct_of_subset h fun _ _ => find?_of_without

theorem Distinct.answer (h : c.Distinct) (hk : c.Kept) (now : Instant) (call : Call) :
    (c.answer now call).2.Distinct := by
  rcases answer_snd_cases now c call with ha | hspent
  · rw [ha]
    exact h.change hk (change_perform now c call)
  · exact distinct_of_subset h fun k o ho => (hspent.find? k).symm.trans ho

theorem Reachable.distinct (h : Reachable c) : c.Distinct := by
  induction h with
  | empty =>
      intro k o k' o' ho
      cases ho
  | answer now call hc ih => exact ih.answer hc.kept now call
  | plant f _ ih => exact ih
  | clearFaults _ ih => exact ih

theorem Later.same_version (h : Later c c') (hk : c.Kept) (hdistinct : c.Distinct) (ho : c.find? k = some o)
    (ho' : c'.find? k' = some o') (hversion : o'.metadata.resourceVersion = o.metadata.resourceVersion) :
    k' = k ∧ o' = o := by
  rcases h.objects k' o' ho' with hbefore | hnewer
  · have hkey : k' = k := hdistinct k o k' o' ho hbefore hversion
    rw [hkey, ho] at hbefore
    exact ⟨hkey, (Option.some.inj hbefore).symm⟩
  · exact absurd hversion (hnewer.version_ne hk ho)

theorem Later.lasting (h : Later c c₁) (h' : Later c₁ c') (hk : c.Kept) (ho : c.find? k = some o)
    (ho' : c'.find? k = some o) : c₁.find? k = some o := by
  rcases h'.objects k o ho' with hbefore | hnewer
  · exact hbefore
  · exact absurd rfl ((hnewer.mono h.lastVersion).version_ne hk ho)

theorem version_of_fresh {next current : Object} (h : isStale current next = false)
    (hversion : next.metadata.resourceVersion.isSome = true) :
    current.metadata.resourceVersion = next.metadata.resourceVersion := by
  obtain ⟨v, hv⟩ := Option.isSome_iff_exists.1 hversion
  rw [isStale, hv] at h
  rw [hv]
  simpa using h

/-- Two objects that are found at whatever times under one version are the same object under the same key. A replace
that names the version of an object which was read before is accepted only where that object has been stored ever
since, and as it was read. -/
theorem version_identifies (h : Reachable c) (hmoves : Moves c c') (ho : c.find? k = some o) :
    (∀ k' o', c'.find? k' = some o' → o'.metadata.resourceVersion = o.metadata.resourceVersion → k' = k ∧ o' = o) ∧
      ∀ now resource next written, next.metadata.resourceVersion = o.metadata.resourceVersion →
        (c'.answer now (.replace resource next)).1 = .ok written →
        (Call.addressOf resource next).key = k ∧
          ∀ c₁, Moves c c₁ → Moves c₁ c' → c₁.find? k = some o := by
  have hsame {k' : Key} {o' : Object} (ho' : c'.find? k' = some o')
      (hversion : o'.metadata.resourceVersion = o.metadata.resourceVersion) : k' = k ∧ o' = o :=
    hmoves.later.same_version h.kept h.distinct ho ho' hversion
  refine ⟨fun _ _ => hsame, ?_⟩
  intro now resource next written hversion haccepted
  obtain ⟨current, hcurrent, hfresh⟩ := find?_of_accepted haccepted
  have hgiven : next.metadata.resourceVersion.isSome = true := by
    obtain ⟨n, -, hn⟩ := (h.kept k o ho).version
    rw [hversion, hn]
    rfl
  obtain ⟨hkey, rfl⟩ := hsame hcurrent ((version_of_fresh hfresh hgiven).trans hversion)
  refine ⟨hkey, ?_⟩
  intro c₁ hbefore hafter
  exact hbefore.later.lasting hafter.later h.kept ho (hkey ▸ hcurrent)

section Recreated

def noon : Instant := ⟨43200, 0⟩

def note : Object where
  types := none
  metadata := { name := some "note", «namespace» := some "team" }
  data := .obj [("data", .obj [("text", .str "call back")])]

def noteAddress : Address := .ofKind .configMap (some "team") "note"

def noted : Cluster := (answer noon {} (.create Kind.configMap.resource note)).2

def unnoted : Cluster := (answer noon noted (.delete noteAddress)).2

def renoted : Cluster := (answer noon unnoted (.create Kind.configMap.resource note)).2

def noteAsRead : Object := { note with metadata := { note.metadata with resourceVersion := some "1" } }

theorem reachable_noted : Reachable noted := .answer _ _ .empty

theorem moves_unnoted : Moves noted unnoted := .single (move_answer ..)

theorem moves_renoted : Moves unnoted renoted := .single (move_answer ..)

theorem find?_noted : noted.find? noteAddress.key = some (({} : Cluster).admitted note) := find?_put_self ..

theorem version_identifies_recreated :
    (∀ k o, renoted.find? k = some o → o.metadata.resourceVersion ≠ some "1") ∧
      ∀ now written, (renoted.answer now (.replace Kind.configMap.resource noteAsRead)).1 ≠ .ok written := by
  obtain ⟨hversions, haccepted⟩ :=
    version_identifies reachable_noted (moves_unnoted.trans moves_renoted) find?_noted
  constructor
  · intro k o ho hversion
    obtain ⟨rfl, rfl⟩ := hversions k o ho hversion
    have hnew : renoted.find? noteAddress.key = some (unnoted.admitted note) := rfl
    cases hnew.symm.trans ho
  · intro now written hwritten
    have hstayed := (haccepted now _ _ written rfl hwritten).2 unnoted moves_unnoted moves_renoted
    have hgone : unnoted.find? noteAddress.key = none := rfl
    cases hgone.symm.trans hstayed

end Recreated

end EnvironmentOperator.Cluster
