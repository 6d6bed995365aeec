import EnvironmentOperator.Proofs.Reconcile.Convergence
import EnvironmentOperator.Proofs.Reconcile.Verdict

namespace EnvironmentOperator

open Cluster FaithfulManifest

structure Object.Unassigned (o : Object) : Prop where
  uid : o.metadata.uid = none
  resourceVersion : o.metadata.resourceVersion = none
  generation : o.metadata.generation = none
  deletionTimestamp : o.metadata.deletionTimestamp = none

theorem Metadata.exchanged_carried (m : Metadata) (labels : Option (Named String)) (resourceVersion : Option String)
    (generation : Option Int64) :
    ({ m.exchanged with
        labels, resourceVersion, generation, uid := m.uid, deletionTimestamp := m.deletionTimestamp } :
      Metadata).exchanged = { m.exchanged with labels, resourceVersion, generation } :=
  congrArg (fun m' : Metadata => { m' with
    labels, resourceVersion, generation, deletionTimestamp := m.exchanged.deletionTimestamp })
    (Metadata.exchanged_exchanged m)

namespace Declaration

variable {d : Declaration} {c : Cluster}

theorem verdict_ok {outcome : EnsureOutcome} (h : d.verdict c = .ok outcome) :
    (c.find? d.address.key = none ∧ outcome = .created ∧
      d.tended c = c.commit (Dict.put c.objects d.address.key (c.admitted d.desired))) ∨
    (∃ live, c.find? d.address.key = some live ∧ d.revision live = .ok none ∧ outcome = .unchanged ∧ d.tended c = c) ∨
    ∃ live next, c.find? d.address.key = some live ∧ d.revision live = .ok (some next) ∧ outcome = .updated ∧
      d.tended c = c.commit (Dict.put c.objects d.address.key (c.revised live (carried live next))) := by
  unfold verdict at h
  cases hstruck : d.struck c .get with
  | some e =>
      simp only [hstruck] at h
      cases h
  | none =>
      cases hfind : c.find? d.address.key with
      | none =>
          simp only [hstruck, hfind] at h
          cases hcreate : d.struck c .create with
          | some e =>
              rw [hcreate] at h
              cases h
          | none =>
              rw [hcreate] at h
              cases h
              exact .inl ⟨rfl, rfl, by simp only [tended, hfind]⟩
      | some live =>
          simp only [hstruck, hfind] at h
          cases hrevision : d.revision live with
          | error e =>
              simp only [hrevision] at h
              cases h
          | ok revision =>
              cases revision with
              | none =>
                  simp only [hrevision] at h
                  cases h
                  exact .inr (.inl ⟨live, rfl, hrevision, rfl, by simp only [tended, hfind, hrevision]⟩)
              | some next =>
                  simp only [hrevision] at h
                  cases hreplace : d.struck c .replace with
                  | some e =>
                      rw [hreplace] at h
                      cases h
                  | none =>
                      rw [hreplace] at h
                      cases h
                      exact .inr (.inr ⟨live, next, rfl, hrevision, rfl, by simp only [tended, hfind, hrevision]⟩)

theorem find?_tended_of_ne {k : Key} (h : k ≠ d.address.key) : (d.tended c).find? k = c.find? k := by
  unfold tended
  split
  · exact (find?_commit_put ..).trans (if_neg h)
  · split
    · exact (find?_commit_put ..).trans (if_neg h)
    · rfl

theorem Decided.others {r : Except StoreError EnsureOutcome} {c' : Cluster} (h : d.Decided c r c') {k : Key}
    (hk : k ≠ d.address.key) : c'.find? k = c.find? k := by
  obtain ⟨-, hafter⟩ := h
  cases r with
  | ok outcome =>
      cases hafter
      exact find?_tended_of_ne hk
  | error e => exact hafter.find? k

variable {α : Type} [Manifest α] [FaithfulManifest α] {lay : α → α → α} {x : α}

theorem eq_of_revision_none (hlay : Overlay.Settles lay x) {live : Object}
    (h : (overwrite lay x).revision live = .ok none) :
    ∃ current, Manifest.ofObject live = .ok current ∧ lay current x = current := by
  obtain ⟨current, hlive, hsame⟩ := revision_overwrite_idle h
  have hdata : Manifest.data current = Manifest.data (lay current x) :=
    Json.obj.inj (congrArg Object.data hsame).symm
  have hlabels : (Manifest.metadata (lay current x)).labels = (Manifest.metadata current).labels :=
    congrArg (fun o : Object => o.metadata.labels) hsame
  have hmetadata : Manifest.metadata (lay current x) = Manifest.metadata current := by
    rw [hlay.metadata current, hlabels]
  refine ⟨current, hlive, ?_⟩
  have hcurrent := eq_of_data_eq (hlay.writable current) (hlay.status current) hdata
  rw [← hmetadata, withMetadata_self] at hcurrent
  exact hcurrent.symm

theorem metadata_revised (hlay : Overlay.Settles lay x) {live : Object} {current : α}
    (hlive : Manifest.ofObject live = .ok current) :
    ∃ version generation,
      (c.revised live (carried live (Manifest.toObject (lay current x)))).metadata.exchanged =
        { Manifest.metadata (lay current x) with resourceVersion := version, generation } := by
  have hlaid := hlay.metadata current
  rw [(of_ok hlive).1] at hlaid
  have hnext : (Manifest.toObject (lay current x)).metadata =
      { live.metadata.exchanged with labels := (Manifest.metadata (lay current x)).labels } := by
    show (Manifest.metadata (lay current x)).exchanged = _
    rw [hlaid]
    exact Metadata.exchanged_labelled live.metadata _
  refine ⟨some c.nextVersion, (c.revised live (carried live (Manifest.toObject (lay current x)))).metadata.generation,
    ?_⟩
  rw [hlaid]
  simp only [revised, carried, hnext]
  exact Metadata.exchanged_carried live.metadata _ _ _

end Declaration

/-- What is done with an object that is there already: it stays, or an overlay is laid over it. -/
inductive Policy : Type 1 where
  | createOnly {α : Type} [Manifest α] (x : α)
  | overwrite {α : Type} [Manifest α] [FaithfulManifest α] (lay : α → α → α) (x : α)
      (settles : Overlay.Settles lay x)

namespace Policy

def declaration : Policy → Declaration
  | @createOnly _ _ x => .createOnly x
  | @overwrite _ _ _ lay x _ => .overwrite lay x

structure Creates (d : Declaration) (c c' : Cluster) : Prop where
  free : c.find? d.address.key = none
  unassigned : d.desired.Unassigned
  holds : ∃ uid version, c'.find? d.address.key = some { d.desired with metadata := { d.desired.metadata with
    uid := some uid, resourceVersion := some version, generation := some 1 } }

section Overlays

variable {α : Type} [Manifest α] [FaithfulManifest α]

structure Updates (lay : α → α → α) (x : α) (c c' : Cluster) (current : α) : Prop where
  read : c.read? α (Declaration.overwrite lay x).address = some current
  differs : lay current x ≠ current
  holds : ∃ resourceVersion generation, c'.read? α (Declaration.overwrite lay x).address =
    some (withMetadata (lay current x)
      { Manifest.metadata (lay current x) with resourceVersion, generation })
  mutations : c'.mutations = c.mutations + 1

structure Spares (lay : α → α → α) (x : α) (c c' : Cluster) (current : α) : Prop where
  read : c.read? α (Declaration.overwrite lay x).address = some current
  same : lay current x = current
  kept : c' = c

end Overlays

def Tells (p : Policy) (c : Cluster) (r : Except StoreError EnsureOutcome) (c' : Cluster) : Prop :=
  match r, p with
  | .ok .created, p => Creates p.declaration c c'
  | .ok .updated, @createOnly _ _ _ => False
  | .ok .updated, @overwrite _ _ _ lay x _ => ∃ current, Updates lay x c c' current
  | .ok .unchanged, @createOnly _ _ x => c.contains (Declaration.createOnly x).address = true ∧ c' = c
  | .ok .unchanged, @overwrite _ _ _ lay x _ => ∃ current, Spares lay x c c' current
  | .error _, _ => Spent c c'

variable {p : Policy} {c c' : Cluster} {r : Except StoreError EnsureOutcome}

theorem creates_admitted {d : Declaration} (hfree : c.find? d.address.key = none) (hnew : d.desired.Unassigned) :
    Creates d c (c.commit (Dict.put c.objects d.address.key (c.admitted d.desired))) := by
  refine ⟨hfree, hnew, "uid-" ++ c.nextVersion, c.nextVersion, (find?_put_self ..).trans ?_⟩
  rw [admitted, ← hnew.deletionTimestamp]

section Overlays

variable {α : Type} [Manifest α] [FaithfulManifest α] {lay : α → α → α} {x : α} {live next : Object}

theorem spares_of_revision_none (hlay : Overlay.Settles lay x)
    (hlive : c.find? (Declaration.overwrite lay x).address.key = some live)
    (h : (Declaration.overwrite lay x).revision live = .ok none) : ∃ current, Spares lay x c c current := by
  obtain ⟨current, hcurrent, hsame⟩ := Declaration.eq_of_revision_none hlay h
  exact ⟨current, read?_of_find? hlive hcurrent, hsame, rfl⟩

theorem updates_revised (hlay : Overlay.Settles lay x)
    (hlive : c.find? (Declaration.overwrite lay x).address.key = some live)
    (h : (Declaration.overwrite lay x).revision live = .ok (some next)) :
    ∃ current, Updates lay x c (c.commit (Dict.put c.objects (Declaration.overwrite lay x).address.key
      (c.revised live (carried live next)))) current := by
  obtain ⟨current, hcurrent, rfl, hne⟩ := Declaration.revision_overwrite_some h
  obtain ⟨current', hcurrent', -, hread⟩ :=
    Declaration.read_revised hlay h (o := c.revised live (carried live (Manifest.toObject (lay current x)))) rfl rfl
  cases hcurrent.symm.trans hcurrent'
  obtain ⟨version, generation, hmetadata⟩ := Declaration.metadata_revised (c := c) hlay hcurrent
  rw [hmetadata] at hread
  exact ⟨current, read?_of_find? hlive hcurrent, fun hsame => hne (by rw [hsame]), ⟨version, generation,
    read?_of_find? (find?_put_self ..) hread⟩, rfl⟩

end Overlays

theorem tells_of_decided (hnew : p.declaration.desired.Unassigned) (h : p.declaration.Decided c r c') :
    p.Tells c r c' := by
  obtain ⟨hverdict, hafter⟩ := h
  cases r with
  | error e => exact hafter
  | ok outcome =>
      cases hafter
      rcases Declaration.verdict_ok hverdict.symm with ⟨hfree, rfl, htended⟩ | ⟨live, hlive, hrevision, rfl, htended⟩ |
        ⟨live, next, hlive, hrevision, rfl, htended⟩
      · rw [htended]
        exact creates_admitted hfree hnew
      · rw [htended]
        cases p with
        | createOnly x => exact ⟨Option.isSome_iff_exists.2 ⟨live, hlive⟩, rfl⟩
        | overwrite lay x hlay => exact spares_of_revision_none hlay hlive hrevision
      · rw [htended]
        cases p with
        | createOnly x => cases hrevision
        | overwrite lay x hlay => exact updates_revised hlay hlive hrevision

end Policy

namespace Stage

def policies (s : Scope) (spec : EnvironmentSpec) : Stage → List Policy
  | .namespace => [.createOnly (Desired.dedicatedNamespace s)]
  | .certificate => [.createOnly (Desired.issuer s), .createOnly (Desired.certificate s)]
  | .tooling => [.overwrite Overlay.configMap (Desired.toolsConfigMap s spec) (Overlay.settles_configMap _)]
  | .ide => [
      .overwrite Overlay.claim (Desired.ideWorkspace s) (Overlay.settles_claim rfl rfl rfl),
      .overwrite Overlay.secret (Desired.idePassword s spec) (Overlay.settles_secret _),
      .overwrite Overlay.deployment (Desired.ideDeployment s spec) (settles_ideDeployment s spec),
      .overwrite Overlay.service (Desired.ideService s) (Overlay.settles_service rfl),
      .overwrite Overlay.ingress (Desired.ideIngress s) (Overlay.settles_ingress rfl)]
  | .database => [
      .overwrite Overlay.claim (Desired.databaseClaim s) (Overlay.settles_claim rfl rfl rfl),
      .overwrite Overlay.deployment (Desired.databaseDeployment s spec.database)
        (settles_databaseDeployment s spec.database),
      .overwrite Overlay.service (Desired.databaseService s spec.database) (Overlay.settles_service rfl)]

theorem policies_declarations (s : Scope) (spec : EnvironmentSpec) (stage : Stage) :
    (stage.policies s spec).map Policy.declaration = stage.declarations s spec := by
  cases stage <;> rfl

theorem unassigned_of_mem_declarations {s : Scope} {spec : EnvironmentSpec} {stage : Stage} {d : Declaration}
    (h : d ∈ stage.declarations s spec) : d.desired.Unassigned := by
  cases stage <;> simp only [declarations, List.mem_cons, List.not_mem_nil, or_false] at h
  · subst h
    exact ⟨rfl, rfl, rfl, rfl⟩
  · rcases h with rfl | rfl <;> exact ⟨rfl, rfl, rfl, rfl⟩
  · subst h
    exact ⟨rfl, rfl, rfl, rfl⟩
  · rcases h with rfl | rfl | rfl | rfl | rfl <;> exact ⟨rfl, rfl, rfl, rfl⟩
  · rcases h with rfl | rfl | rfl <;> exact ⟨rfl, rfl, rfl, rfl⟩

/-- Whatever the cluster holds and whichever faults are planted, the outcome of ensuring a declared object tells what
has happened to it, and no other object changes. -/
theorem ensure_tells (now : Instant) {c : Cluster} (h : Reachable c) (s : Scope) (spec : EnvironmentSpec)
    (stage : Stage) :
    (stage.policies s spec).map Policy.declaration = stage.declarations s spec ∧
      ∀ p ∈ stage.policies s spec, ∃ r c', p.declaration.ensure.run (answerer now) c = (r, c') ∧ p.Tells c r c' ∧
        ∀ k, k ≠ p.declaration.address.key → c'.find? k = c.find? k := by
  have hpolicies := policies_declarations s spec stage
  refine ⟨hpolicies, fun p hp => ⟨_, _, rfl, ?_⟩⟩
  have hd : p.declaration ∈ stage.declarations s spec := hpolicies ▸ List.mem_map_of_mem hp
  have hdecided := (Declaration.ensure_decided now (lawful_of_mem_declarations hd) h.kept).run
  exact ⟨Policy.tells_of_decided (unassigned_of_mem_declarations hd) hdecided, fun _ hk => hdecided.others hk⟩

section Hosted

open Pass

def editor : Declaration :=
  .overwrite Overlay.deployment (Desired.ideDeployment submittedScope { language := "go" })

def unhosted : Cluster := (editor.ensure.run (answerer midnight) hosted).2

theorem reachable_unhosted : Reachable unhosted := reachable_hosted.run midnight _

/-- The editor is created where it is missing, taken off the network of its node where it had been put on it, and then
left as it is. -/
theorem ensure_tells_editor :
    (editor.ensure.run (answerer midnight) (submitted (some "alice") [])).1 = .ok .created ∧
      (editor.ensure.run (answerer midnight) hosted).1 = .ok .updated ∧
      (editor.ensure.run (answerer midnight) unhosted).1 = .ok .unchanged ∧
      ∀ c ∈ [submitted (some "alice") [], hosted, unhosted],
        (Stage.ide.policies submittedScope { language := "go" }).map Policy.declaration =
          Stage.ide.declarations submittedScope { language := "go" } ∧
        ∀ p ∈ Stage.ide.policies submittedScope { language := "go" }, ∃ r c',
          p.declaration.ensure.run (answerer midnight) c = (r, c') ∧ p.Tells c r c' ∧
            ∀ k, k ≠ p.declaration.address.key → c'.find? k = c.find? k := by
  refine ⟨by with_unfolding_all rfl, by with_unfolding_all rfl, by with_unfolding_all rfl, ?_⟩
  have hreachable : ∀ c ∈ [submitted (some "alice") [], hosted, unhosted], Reachable c := by
    simp [reachable_submitted, reachable_hosted, reachable_unhosted]
  intro c hc
  exact ensure_tells midnight (hreachable c hc) submittedScope { language := "go" } .ide

end Hosted

end Stage

end EnvironmentOperator
