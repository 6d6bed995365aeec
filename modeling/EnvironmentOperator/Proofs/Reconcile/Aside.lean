import EnvironmentOperator.Proofs.Cluster.Scene
import EnvironmentOperator.Proofs.Reconcile.Beside

namespace EnvironmentOperator

open Cluster

namespace Scene

variable {k : Key} {s s' : Scene}

/-- Others have been at work on the object under the key. They may have planted faults and taken them away. -/
structure Meddled (k : Key) (s s' : Scene) : Prop where
  disturbed : Disturbed s s'
  others : ∀ k', k' ≠ k → s'.cluster.find? k' = s.cluster.find? k'

theorem rely_meddled (k : Key) : Rely (Meddled k) where
  refl s := ⟨rely_disturbed.refl s, fun _ _ => rfl⟩
  trans h h' := ⟨rely_disturbed.trans h.disturbed h'.disturbed, fun k' hne => (h'.others k' hne).trans (h.others k' hne)⟩

theorem Meddled.lapse (h : Meddled k s s') : Lapse s s' := h.disturbed.lapse

end Scene

open Scene

namespace Declaration

variable {k : Key} {d : Declaration} {s s' : Scene} {before : Option Object} {live : Object}

def Present (d : Declaration) (before : Option Object) (c : Cluster) : Prop :=
  ∃ o, c.find? d.address.key = some o ∧ d.Made before o

def Ends (d : Declaration) (before : Option Object) {ε α : Type} (r : Except ε α) (s : Scene) : Prop :=
  match r with
  | .ok _ => d.Present before s.cluster
  | .error _ => True

theorem Present.meddled (h : d.Present before s.cluster) (hne : d.address.key ≠ k) (hs' : Meddled k s s') :
    d.Present before s'.cluster := by
  obtain ⟨o, ho, hmade⟩ := h
  exact ⟨o, (hs'.others _ hne).trans ho, hmade⟩

theorem present_put {c : Cluster} {o : Object} (h : d.Made before o) :
    d.Present before (c.commit (Dict.put c.objects d.address.key o)) :=
  ⟨o, (find?_commit_put ..).trans (if_pos rfl), h⟩

theorem revise_amid (hd : d.Lawful) (hne : d.address.key ≠ k) (hk : s.cluster.Kept)
    (hlive : s.cluster.find? d.address.key = some live) :
    (d.revise live).Amid Scene.answerer (Meddled k) (fun call s => d.Tends s.cluster call) (d.Ends (some live)) s := by
  unfold revise
  cases hrevision : d.revision live with
  | error e => exact fun _ _ => trivial
  | ok revision =>
      cases revision with
      | none => exact fun s' hs' => Present.meddled ⟨live, hlive, .left hrevision⟩ hne hs'
      | some next =>
          refine Program.amid_bind (rely_meddled k) (Program.amid_request.2 fun s₁ hs₁ => ?_)
          have hlive₁ := (hs₁.others _ hne).trans hlive
          have hk₁ := hs₁.lapse.kept hk
          refine ⟨.revise hlive₁ hrevision, ?_⟩
          rcases answer_cases s₁.now s₁.cluster (.replace d.kind.resource next) with ⟨-, ha⟩ | ⟨-, e, c', ha, -, -⟩
          · simp only [Scene.answerer, ha, perform, replace_of_revision hd hk₁ hlive₁ hrevision]
            intro s₂ hs₂ s₃ hs₃
            exact ((present_put (.revised s₁.cluster hrevision)).meddled hne hs₂).meddled hne hs₃
          · simp only [Scene.answerer, ha]
            exact fun _ _ => trivial

theorem create_amid (hne : d.address.key ≠ k) (h : s.cluster.find? d.address.key = none) :
    d.createOrRevise.Amid Scene.answerer (Meddled k) (fun call s => d.Tends s.cluster call) (d.Ends none) s := by
  refine Program.amid_attempt_bind.2 fun s₁ hs₁ => ?_
  have hmissing := (hs₁.others _ hne).trans h
  refine ⟨.create hmissing, ?_⟩
  rcases answer_cases s₁.now s₁.cluster (.create d.kind.resource d.desired) with ⟨-, ha⟩ | ⟨-, e, c', ha, -, he⟩
  · simp only [Scene.answerer, ha, perform, create_of_missing hmissing]
    exact fun s₂ hs₂ => (present_put (.created s₁.cluster)).meddled hne hs₂
  · simp only [Scene.answerer, ha, he.not_alreadyExists]
    exact fun _ _ => trivial

theorem converge_amid (hd : d.Lawful) (hne : d.address.key ≠ k) (hk : s.cluster.Kept) :
    d.converge.Amid Scene.answerer (Meddled k) (fun call s => d.Tends s.cluster call)
      (d.Ends (s.cluster.find? d.address.key)) s := by
  refine Program.amid_attempt_bind.2 fun s₁ hs₁ => ⟨.look, ?_⟩
  rw [← hs₁.others _ hne]
  rcases answer_cases s₁.now s₁.cluster (.get d.address) with ⟨-, ha⟩ | ⟨-, e, c', ha, -, he⟩
  · simp only [Scene.answerer, ha, perform]
    cases hfind : s₁.cluster.find? d.address.key with
    | none =>
        rw [get_of_missing hfind]
        exact create_amid hne hfind
    | some live =>
        rw [get_of_find? hfind]
        exact revise_amid hd hne (hs₁.lapse.kept hk) hfind
  · simp only [Scene.answerer, ha, he.not_notFound]
    exact fun _ _ => trivial

theorem ensure_amid (hd : d.Lawful) (hne : d.address.key ≠ k) (hk : s.cluster.Kept) :
    d.ensure.Amid Scene.answerer (Meddled k) (fun call s => d.Tends s.cluster call)
      (d.Ends (s.cluster.find? d.address.key)) s := by
  refine Program.amid_bind (rely_meddled k) ((converge_amid hd hne hk).mono (fun _ _ h => h) ?_)
  intro r s₁ h
  cases r with
  | error e => exact h
  | ok outcome => exact fun s₂ hs₂ s₃ hs₃ => (h.meddled hne hs₂).meddled hne hs₃

end Declaration

namespace Stage

open Declaration

variable {k : Key} {ds : List Declaration} {c : Cluster} {s s' : Scene}

/-- The declarations have been made. Nothing else has changed, but for the object that others are at work on. -/
structure Built (k : Key) (ds : List Declaration) (c c' : Cluster) : Prop where
  made : ∀ d ∈ ds, d.Present (c.find? d.address.key) c'
  others : ∀ k', k' ≠ k → (∀ d ∈ ds, k' ≠ d.address.key) → c'.find? k' = c.find? k'
  kept : c'.Kept

def BuiltIf (k : Key) (ds : List Declaration) (c : Cluster) {ε α : Type} (r : Except ε α) (s : Scene) : Prop :=
  match r with
  | .ok _ => Built k ds c s.cluster
  | .error _ => True

theorem Built.nil (hk : c.Kept) : Built k [] c c := by
  refine ⟨?_, fun _ _ _ => rfl, hk⟩
  simp

theorem Built.meddled (h : Built k ds c s.cluster) (hne : ∀ d ∈ ds, d.address.key ≠ k) (hs' : Meddled k s s') :
    Built k ds c s'.cluster where
  made d hd := (h.made d hd).meddled (hne d hd) hs'
  others k' hk' hds := (hs'.others k' hk').trans (h.others k' hk' hds)
  kept := hs'.lapse.kept h.kept

theorem Built.append {ds' : List Declaration} {c' c'' : Cluster} (hne : ∀ d ∈ ds ++ ds', d.address.key ≠ k)
    (hdistinct : Distinct (ds ++ ds')) (h : Built k ds c c') (h' : Built k ds' c' c'') : Built k (ds ++ ds') c c'' where
  made d hd := by
    have hown := hne d hd
    rcases List.mem_append.1 hd with hd | hd
    -- What the first ones have made the later ones leave alone, and they find their own as it was at the start.
    · obtain ⟨o, ho, hmade⟩ := h.made d hd
      exact ⟨o, (h'.others _ hown fun d' hd' => Provisioned.key_ne hdistinct hd hd').trans ho, hmade⟩
    · obtain ⟨o, ho, hmade⟩ := h'.made d hd
      rw [h.others _ hown fun d' hd' => (Provisioned.key_ne hdistinct hd' hd).symm] at hmade
      exact ⟨o, ho, hmade⟩
  others k' hk' hds := by
    rw [h'.others k' hk' fun d hd => hds d (List.mem_append_right _ hd)]
    exact h.others k' hk' fun d hd => hds d (List.mem_append_left _ hd)
  kept := h'.kept

theorem ensure_builds {d : Declaration} (hd : d.Lawful) (hne : d.address.key ≠ k) (hk : s.cluster.Kept) :
    d.ensure.Amid Scene.answerer (Meddled k) (fun _ _ => True) (BuiltIf k [d] s.cluster) s := by
  have hkept := (ensure_amid hd hne hk).kept
    (I := fun s' => s'.cluster.Kept ∧
      ∀ k', k' ≠ k → k' ≠ d.address.key → s'.cluster.find? k' = s.cluster.find? k')
    (fun _ _ hs' h => ⟨hs'.lapse.kept h.1, fun k' hk' hkey => (hs'.others k' hk').trans (h.2 k' hk' hkey)⟩)
    (fun call s' h htends => ⟨h.1.answer s'.now call, fun k' hk' hkey =>
      (find?_answer_of_ne s'.now s'.cluster call (htends.key hd h.1 ▸ hkey)).trans (h.2 k' hk' hkey)⟩)
    (fun _ _ h => h) ⟨hk, fun _ _ _ => rfl⟩
  refine hkept.mono (fun _ _ _ => trivial) ?_
  rintro r s' ⟨hends, hk', hothers⟩
  cases r with
  | error e => trivial
  | ok outcome =>
      refine ⟨?_, fun k' hk hds => hothers k' hk (hds d (List.mem_singleton.2 rfl)), hk'⟩
      intro d' hd'
      cases List.mem_singleton.1 hd'
      exact hends

theorem ensureAll_amid (hlawful : ∀ d ∈ ds, d.Lawful) (hne : ∀ d ∈ ds, d.address.key ≠ k) (hdistinct : Distinct ds)
    (hk : s.cluster.Kept) :
    (ensureAll ds).Amid Scene.answerer (Meddled k) (fun _ _ => True) (BuiltIf k ds s.cluster) s := by
  induction ds generalizing s with
  | nil => exact fun s' hs' => (Built.nil hk).meddled (by simp) hs'
  | cons d ds ih =>
      have hdistinct : Distinct ([d] ++ ds) := hdistinct
      refine Program.amid_bind (rely_meddled k) (Program.amid_mapError.2 ?_)
      refine (ensure_builds (hlawful d (List.mem_cons_self ..)) (hne d (List.mem_cons_self ..)) hk).mono
        (fun _ _ h => h) ?_
      intro r s₁ h
      cases r with
      | error e => trivial
      | ok outcome =>
          refine (ih (fun d hd => hlawful d (List.mem_cons_of_mem _ hd)) (fun d hd => hne d (List.mem_cons_of_mem _ hd))
            (distinct_right hdistinct) h.kept).mono (fun _ _ h => h) ?_
          intro r s' h'
          cases r with
          | error e => trivial
          | ok _ => exact h.append hne hdistinct h'

theorem provisionAll_amid {scope : Scope} {spec : EnvironmentSpec} (stages : List Stage)
    (hne : ∀ d ∈ stages.flatMap (declarations scope spec), d.address.key ≠ k)
    (hdistinct : Distinct (stages.flatMap (declarations scope spec))) (hk : s.cluster.Kept) :
    (provisionAll scope spec stages).Amid Scene.answerer (Meddled k) (fun _ _ => True)
      (BuiltIf k (stages.flatMap (declarations scope spec)) s.cluster) s := by
  induction stages generalizing s with
  | nil => exact fun s' hs' => (Built.nil hk).meddled (by simp) hs'
  | cons stage stages ih =>
      rw [List.flatMap_cons] at hne hdistinct ⊢
      refine Program.amid_bind (rely_meddled k) (Program.amid_mapError.2 ?_)
      refine (ensureAll_amid (fun _ hd => lawful_of_mem_declarations hd) (fun d hd => hne d (List.mem_append_left _ hd))
        (distinct_left hdistinct) hk).mono (fun _ _ h => h) ?_
      intro r s₁ h
      cases r with
      | error e => trivial
      | ok _ =>
          refine (ih (fun d hd => hne d (List.mem_append_right _ hd)) (distinct_right hdistinct) h.kept).mono
            (fun _ _ h => h) ?_
          intro r s' h'
          cases r with
          | error e => trivial
          | ok _ => exact h.append hne hdistinct h'

end Stage

end EnvironmentOperator
