import EnvironmentOperator.Cluster
import EnvironmentOperator.Proofs.Dict

namespace EnvironmentOperator.Cluster

def Calm (c : Cluster) (call : Call) : Prop :=
  ∀ f ∈ c.faults, ¬Concerns f call.verb call.address.resource.kind call.address.name

/-- The same cluster, with some of its faults used up. -/
def Spent (c c' : Cluster) : Prop := ∃ faults, faults.Sublist c.faults ∧ c' = { c with faults }

theorem Spent.refl (c : Cluster) : Spent c c := ⟨c.faults, List.Sublist.refl _, rfl⟩

theorem Spent.trans {c c' c'' : Cluster} (h : Spent c c') (h' : Spent c' c'') : Spent c c'' := by
  obtain ⟨faults, hfaults, rfl⟩ := h
  obtain ⟨faults', hfaults', rfl⟩ := h'
  exact ⟨faults', hfaults'.trans hfaults, rfl⟩

theorem Spent.objects {c c' : Cluster} (h : Spent c c') : c'.objects = c.objects := by
  obtain ⟨faults, -, rfl⟩ := h
  rfl

theorem Spent.find? {c c' : Cluster} (h : Spent c c') (k : Key) : c'.find? k = c.find? k := by
  rw [Cluster.find?, h.objects, Cluster.find?]

theorem Spent.faults {c c' : Cluster} (h : Spent c c') : c'.faults.Sublist c.faults := by
  obtain ⟨faults, hfaults, rfl⟩ := h
  exact hfaults

theorem Spent.lastVersion {c c' : Cluster} (h : Spent c c') : c'.lastVersion = c.lastVersion := by
  obtain ⟨faults, -, rfl⟩ := h
  rfl

theorem Calm.of_sublist {c c' : Cluster} {call : Call} (h : c.Calm call) (hf : c'.faults.Sublist c.faults) :
    c'.Calm call := fun f hmem => h f (hf.subset hmem)

theorem calm_of_nil {c : Cluster} (h : c.faults = []) (call : Call) : c.Calm call := by
  intro f hf
  rw [h] at hf
  cases hf

theorem calm_of_verb {c : Cluster} {verb : Verb} {call : Call} (h : ∀ f ∈ c.faults, f.verb = verb)
    (hcall : call.verb ≠ verb) : c.Calm call := fun f hf hconcerns => hcall (hconcerns.1.symm.trans (h f hf))

theorem faults_eq_nil {c c' : Cluster} (h : c'.faults.Sublist c.faults) (hnil : c.faults = []) : c'.faults = [] := by
  rw [hnil] at h
  exact List.eq_nil_of_sublist_nil h

/-- An error that a fault gives is no answer that a program may take for one of the store. -/
structure Injected (e : StoreError) : Prop where
  not_notFound : e.isNotFound = false
  not_alreadyExists : e.isAlreadyExists = false

theorem strike_of_calm {c : Cluster} {call : Call} (h : c.Calm call) :
    c.strike call.verb call.address.resource.kind call.address.name = (none, c) := by
  have hnone : c.faults.find? (fun f => decide (Concerns f call.verb call.address.resource.kind call.address.name)) =
      none := by
    rw [List.find?_eq_none]
    intro f hf
    simpa using h f hf
  rw [strike, hnone]

theorem strike_congr {c c' : Cluster} (h : c'.faults = c.faults) (verb : Verb) (kind name : String) :
    (c'.strike verb kind name).1 = (c.strike verb kind name).1 := by
  simp only [strike, h]
  split
  · rfl
  · split <;> rfl

theorem strike_cases (c : Cluster) (call : Call) :
    c.Calm call ∨ ¬c.Calm call ∧
      ∃ e c', c.strike call.verb call.address.resource.kind call.address.name = (some e, c') ∧
        Spent c c' ∧ Injected e := by
  cases hfind : c.faults.find?
      (fun f => decide (Concerns f call.verb call.address.resource.kind call.address.name)) with
  | none =>
      left
      intro f hf
      rw [List.find?_eq_none] at hfind
      simpa using hfind f hf
  | some f =>
      have hconcerns : Concerns f call.verb call.address.resource.kind call.address.name := by
        simpa using List.find?_some hfind
      refine .inr ⟨fun h => h f (List.mem_of_find?_eq_some hfind) hconcerns, ?_⟩
      simp only [strike, hfind]
      cases f.effect with
      | refuse => exact ⟨.rejected .., c, rfl, Spent.refl c, rfl, rfl⟩
      | conflictOnce => exact ⟨.conflict .., _, rfl, ⟨_, List.eraseP_sublist, rfl⟩, rfl, rfl⟩

theorem answer_of_calm {c : Cluster} {call : Call} (now : Instant) (h : c.Calm call) :
    c.answer now call = c.perform now call := by
  rw [answer, strike_of_calm h]

theorem answer_cases (now : Instant) (c : Cluster) (call : Call) :
    c.Calm call ∧ c.answer now call = c.perform now call ∨
      ¬c.Calm call ∧ ∃ e c', c.answer now call = (.error e, c') ∧ Spent c c' ∧ Injected e := by
  rcases strike_cases c call with h | ⟨h, e, c', hstrike, hspent, he⟩
  · exact .inl ⟨h, answer_of_calm now h⟩
  · refine .inr ⟨h, e, c', ?_, hspent, he⟩
    rw [answer, hstrike]

theorem answer_snd_cases (now : Instant) (c : Cluster) (call : Call) :
    (c.answer now call).2 = (c.perform now call).2 ∨ Spent c (c.answer now call).2 := by
  rcases answer_cases now c call with ⟨-, ha⟩ | ⟨-, e, c', ha, hspent, -⟩
  · exact .inl (congrArg Prod.snd ha)
  · right
    rw [ha]
    exact hspent

theorem answer_of_ok {now : Instant} {c : Cluster} {call : Call} {r : call.Answer}
    (h : (c.answer now call).1 = .ok r) : c.answer now call = c.perform now call := by
  rcases answer_cases now c call with ⟨-, ha⟩ | ⟨-, e, c', ha, -, -⟩
  · exact ha
  · rw [ha] at h
    cases h

section Perform

variable {c : Cluster} {a : Address} {resource : Resource} {o current : Object}

theorem get_of_find? (h : c.find? a.key = some o) : c.get a = .ok o := by rw [get, h]

theorem get_of_missing (h : c.find? a.key = none) : c.get a = .error (.notFound a.resource.kind a.name) := by
  rw [get, h]

theorem create_of_missing (h : c.find? (Call.addressOf resource o).key = none) :
    c.create resource o =
      (.ok (c.admitted o), c.commit (Dict.put c.objects (Call.addressOf resource o).key (c.admitted o))) := by
  simp only [create, h]

theorem isStale_of_version_eq (h : o.metadata.resourceVersion = current.metadata.resourceVersion) :
    isStale current o = false := by
  rw [isStale, h]
  cases current.metadata.resourceVersion with
  | none => rfl
  | some v => simp

theorem replace_of_missing (h : c.find? (Call.addressOf resource o).key = none) :
    c.replace resource o = (.error (.notFound resource.kind o.metadata.nameText), c) := by
  simp only [replace, h]

theorem replace_of_stale (h : c.find? (Call.addressOf resource o).key = some current)
    (hstale : isStale current o = true) : c.replace resource o =
      (.error (.conflict resource.kind o.metadata.nameText (staleMessage current o)), c) := by
  simp only [replace, h, hstale, if_true]

theorem replace_of_find? (h : c.find? (Call.addressOf resource o).key = some current)
    (hstale : isStale current o = false) (hchange : ¬SameContent (carried current o) current) :
    c.replace resource o = (.ok (c.revised current (carried current o)),
      if isReleased (c.revised current (carried current o)) then
        c.commit (Dict.without c.objects (Call.addressOf resource o).key)
      else c.commit (Dict.put c.objects (Call.addressOf resource o).key (c.revised current (carried current o)))) := by
  simp only [replace, h, hstale, Bool.false_eq_true, if_false, if_neg hchange]
  split <;> rfl

theorem member?_keptStatus (stored : Json) {data : Json} (hdata : data.isObject = true) (key : String) :
    (keptStatus stored data).member? key =
      if key = "status" then (stored.member? "status").or (data.member? "status") else data.member? key := by
  cases data with
  | obj fields =>
      unfold keptStatus
      cases stored.member? "status" with
      | none => by_cases hkey : key = "status" <;> simp [hkey]
      | some status => by_cases hkey : key = "status" <;> simp [hkey, Json.withMember, Dict.at?_put]
  | _ => cases hdata

theorem member?_of_other {j : Json} (h : j.isObject = false) (key : String) : j.member? key = none := by
  cases j with
  | obj fields => cases h
  | _ => rfl

theorem keptStatus_of_other (stored : Json) {data : Json} (h : data.isObject = false) :
    keptStatus stored data = data := by
  unfold keptStatus
  cases stored.member? "status" with
  | none => rfl
  | some status =>
      cases data with
      | obj fields => cases h
      | _ => rfl

theorem carried_data (live next : Object) (hnext : next.data.isObject = true) (key : String) :
    (carried live next).data.member? key =
      if key = "status" then (live.data.member? "status").or (next.data.member? "status")
      else next.data.member? key :=
  member?_keptStatus live.data hnext key

theorem withoutMember_keptStatus (stored data : Json) :
    (keptStatus stored data).withoutMember "status" = data.withoutMember "status" := by
  unfold keptStatus
  cases stored.member? "status" with
  | none => rfl
  | some status =>
      cases data with
      | obj fields => exact congrArg Json.obj (Dict.without_put fields "status" status)
      | _ => rfl

theorem member?_withStatus (data patch : Json) (key : String) :
    (withStatus data patch).member? key =
      if key = "status" then some (Json.mergePatch ((data.member? "status").getD .null) patch)
      else data.member? key := by
  rw [← Json.at?_fieldsOrEmpty data key]
  exact Dict.at?_put ..

theorem specContent_carried (live next : Object) : specContent (carried live next) = specContent next :=
  withoutMember_keptStatus live.data next.data

theorem replace_of_same (h : c.find? (Call.addressOf resource o).key = some current)
    (hstale : isStale current o = false) (hsame : SameContent (carried current o) current) :
    c.replace resource o = (.ok current, c) := by
  simp only [replace, h, hstale, Bool.false_eq_true, if_false, if_pos hsame]

theorem replace_cases (c : Cluster) (resource : Resource) (o : Object) :
    (∃ e, c.replace resource o = (.error e, c)) ∨
      ∃ current, c.find? (Call.addressOf resource o).key = some current ∧ isStale current o = false ∧
        (c.replace resource o = (.ok current, c) ∨
          c.replace resource o = (.ok (c.revised current (carried current o)),
            if isReleased (c.revised current (carried current o)) then
              c.commit (Dict.without c.objects (Call.addressOf resource o).key)
            else c.commit (Dict.put c.objects (Call.addressOf resource o).key
              (c.revised current (carried current o))))) := by
  cases h : c.find? (Call.addressOf resource o).key with
  | none => exact .inl ⟨_, replace_of_missing h⟩
  | some current =>
      by_cases hstale : isStale current o = true
      · exact .inl ⟨_, replace_of_stale h hstale⟩
      · have hfresh : isStale current o = false := by simpa using hstale
        refine .inr ⟨current, rfl, hfresh, ?_⟩
        by_cases hsame : SameContent (carried current o) current
        · exact .inl (replace_of_same h hfresh hsame)
        · exact .inr (replace_of_find? h hfresh hsame)

end Perform

section Answer

variable {c : Cluster} {now : Instant} {call : Call} {a : Address} {o : Object} {e : StoreError}

theorem find?_look (now : Instant) (c : Cluster) (a : Address) (k : Key) :
    (c.answer now (.get a)).2.find? k = c.find? k := by
  rcases answer_snd_cases now c (.get a) with ha | hspent
  · rw [ha]
    rfl
  · exact hspent.find? k

theorem find?_of_look (h : (c.answer now (.get a)).1 = .ok o) :
    c.find? a.key = some o := by
  rw [answer_of_ok h, perform] at h
  cases hfind : c.find? a.key with
  | none =>
      rw [get_of_missing hfind] at h
      cases h
  | some live =>
      rw [get_of_find? hfind] at h
      cases h
      rfl

theorem find?_of_accepted {resource : Resource} {next : Object}
    (h : (c.answer now (.replace resource next)).1 = .ok o) :
    ∃ current, c.find? (Call.addressOf resource next).key = some current ∧ isStale current next = false := by
  rw [answer_of_ok h, perform] at h
  rcases replace_cases c resource next with ⟨e, he⟩ | ⟨current, hcurrent, hstale, -⟩
  · rw [he] at h
    cases h
  · exact ⟨current, hcurrent, hstale⟩

theorem perform_of_error (h : (c.perform now call).1 = .error e) : (c.perform now call).2 = c := by
  cases call with
  | get a => rfl
  | create resource o =>
      simp only [perform, create] at h ⊢
      split at h
      · rfl
      · cases h
  | replace resource o =>
      rcases replace_cases c resource o with ⟨e', he⟩ | ⟨current, -, -, he | he⟩
      · rw [perform, he]
      · rw [perform, he]
      · rw [perform, he] at h
        cases h
  | delete a =>
      simp only [perform, delete] at h ⊢
      split at h
      · rfl
      · split at h
        · cases h
        · split at h <;> cases h
  | patchStatus a status =>
      simp only [perform, patchStatus] at h ⊢
      split at h
      · rfl
      · split at h <;> cases h

theorem spent_of_error (h : (c.answer now call).1 = .error e) : Spent c (c.answer now call).2 := by
  rcases answer_cases now c call with ⟨-, ha⟩ | ⟨-, e', c', ha, hspent, -⟩
  · rw [ha] at h ⊢
    rw [perform_of_error h]
    exact .refl c
  · rw [ha]
    exact hspent

end Answer

end EnvironmentOperator.Cluster
