import EnvironmentOperator.Proofs.Cluster.Call
import EnvironmentOperator.Proofs.Desired.Overlay
import EnvironmentOperator.Reconcile.Ensure

namespace EnvironmentOperator

theorem Metadata.exchanged_labelled (m : Metadata) (labels : Option (Named String)) :
    ({ m.exchanged with labels } : Metadata).exchanged = { m.exchanged with labels } :=
  congrArg (fun m' : Metadata => { m' with labels }) (Metadata.exchanged_exchanged m)

namespace Declaration

structure Lawful (d : Declaration) : Prop where
  unguarded : d.desired.metadata.hasFinalizers = false
  metadata : ∀ {live next}, d.revision live = .ok (some next) →
    next.metadata = { live.metadata.exchanged with labels := next.metadata.labels }
  changes : ∀ {live next}, d.revision live = .ok (some next) →
    ¬Cluster.SameContent (Cluster.carried live next) live
  settles : ∀ {live next o}, d.revision live = .ok (some next) → o.types = next.types →
    o.metadata.labels = next.metadata.labels → o.data = (Cluster.carried live next).data → d.revision o = .ok none
  fresh : ∀ {o}, o.types = d.desired.types → o.metadata.labels = d.desired.metadata.labels →
    o.data = d.desired.data → d.revision o = .ok none

variable {α : Type} [Manifest α]

theorem lawful_createOnly {x : α} (h : (Manifest.metadata x).hasFinalizers = false) : (createOnly x).Lawful where
  unguarded := h
  metadata h := by cases h
  changes h := by cases h
  settles h := by cases h
  fresh _ _ _ := rfl

section Overwrite

open FaithfulManifest

variable {lay : α → α → α} {x : α}

theorem revision_overwrite_some {live next : Object} (h : (overwrite lay x).revision live = .ok (some next)) :
    ∃ current, Manifest.ofObject live = .ok current ∧ next = Manifest.toObject (lay current x) ∧
      next ≠ Manifest.toObject current := by
  simp only [overwrite, Object.typed] at h
  cases hlive : (Manifest.ofObject live : Except DecodeError α) with
  | error e =>
      rw [hlive] at h
      cases h
  | ok current =>
      rw [hlive] at h
      have h : (if Manifest.toObject (lay current x) = Manifest.toObject current then none
          else some (Manifest.toObject (lay current x))) = some next := Except.ok.inj h
      split at h
      · cases h
      · rename_i hne
        cases h
        exact ⟨current, rfl, rfl, hne⟩

theorem revision_overwrite_idle {live : Object} (h : (overwrite lay x).revision live = .ok none) :
    ∃ current, Manifest.ofObject live = .ok current ∧
      Manifest.toObject (lay current x) = Manifest.toObject current := by
  simp only [overwrite, Object.typed] at h
  cases hlive : (Manifest.ofObject live : Except DecodeError α) with
  | error e =>
      rw [hlive] at h
      cases h
  | ok current =>
      rw [hlive] at h
      have h : (if Manifest.toObject (lay current x) = Manifest.toObject current then none
          else some (Manifest.toObject (lay current x))) = (none : Option Object) := Except.ok.inj h
      split at h
      · rename_i hsame
        exact ⟨current, rfl, hsame⟩
      · cases h

theorem revision_overwrite_none {o : Object} {z : α} (hread : Manifest.ofObject o = .ok z) (hz : lay z x = z) :
    (overwrite lay x).revision o = .ok none := by
  simp only [overwrite, Object.typed, hread]
  show Except.ok (if Manifest.toObject (lay z x) = Manifest.toObject z then none else _) = _
  rw [hz, if_pos rfl]

theorem labels_toObject (y : α) : (Manifest.toObject y).metadata.labels = (Manifest.metadata y).labels := rfl

theorem members_carried (live : Object) (y : α) :
    ∃ members, (Cluster.carried live (Manifest.toObject y)).data = .obj members := by
  show ∃ members, Cluster.keptStatus live.data (.obj (Manifest.data y)) = .obj members
  unfold Cluster.keptStatus
  cases live.data.member? "status" with
  | none => exact ⟨_, rfl⟩
  | some status => exact ⟨_, rfl⟩

variable [FaithfulManifest α]

theorem eq_of_sameContent (hlay : Overlay.Settles lay x) {live : Object} {current : α}
    (hlive : Manifest.ofObject live = .ok current)
    (hsame : Cluster.SameContent (Cluster.carried live (Manifest.toObject (lay current x))) live) :
    lay current x = current := by
  obtain ⟨hown, hdata⟩ := hsame
  obtain ⟨hmetadata, hbears⟩ := of_ok hlive
  obtain ⟨members, hmembers, -⟩ := Manifest.ofObject_eq_ok.1 hlive
  have hkept : ∀ k, k ≠ "status" → live.data.member? k = Dict.at? (Manifest.data (lay current x)) k := by
    intro k hk
    have hcarried := Cluster.carried_data live (Manifest.toObject (lay current x)) rfl k
    rw [if_neg hk] at hcarried
    refine (hdata.symm.member?_eq ?_).trans hcarried
    intro j hj
    rw [hcarried] at hj
    exact realFree (hlay.writable current) hk hj
  have hread := read_kept hbears hmembers hlive (hlay.writable current) (hlay.status current) hkept rfl
  rw [hlive, ← hmetadata] at hread
  have hcurrent := Except.ok.inj hread
  have hlabels : (Manifest.metadata (lay current x)).labels = (Manifest.metadata current).labels := by
    have hown := congrArg Metadata.labels hown
    rw [hmetadata]
    exact hown
  have hsame : Manifest.metadata (lay current x) = Manifest.metadata current := by
    rw [hlay.metadata current, hlabels]
  rw [← hsame, withMetadata_self] at hcurrent
  exact hcurrent.symm

theorem read_revised (hlay : Overlay.Settles lay x) {live next o : Object}
    (h : (overwrite lay x).revision live = .ok (some next)) (htypes : o.types = next.types)
    (hdata : o.data = (Cluster.carried live next).data) :
    ∃ current, Manifest.ofObject live = .ok current ∧ next = Manifest.toObject (lay current x) ∧
      Manifest.ofObject o = .ok (withMetadata (lay current x) o.metadata.exchanged) := by
  obtain ⟨current, hlive, rfl, -⟩ := revision_overwrite_some h
  refine ⟨current, hlive, rfl, ?_⟩
  have hcarried := Cluster.carried_data live (Manifest.toObject (lay current x)) rfl
  rw [← hdata] at hcarried
  obtain ⟨members, hmembers⟩ := members_carried live (lay current x)
  have hkept : ∀ k, k ≠ "status" → o.data.member? k = Dict.at? (Manifest.data (lay current x)) k := by
    intro k hk
    rw [hcarried, if_neg hk]
    rfl
  have hstatus : o.data.member? "status" = live.data.member? "status" := by
    rw [hcarried, if_pos rfl]
    cases hlivestatus : live.data.member? "status" with
    | none => exact status_absent hlive (hlay.status current) hlivestatus
    | some status => rfl
  exact read_kept (Object.bears_of_types htypes) (Object.members_of_data (hdata.trans hmembers)) hlive
    (hlay.writable current) (hlay.status current) hkept hstatus

theorem lawful_overwrite (hlay : Overlay.Settles lay x) (hx : (Manifest.metadata x).hasFinalizers = false) :
    (overwrite lay x).Lawful where
  unguarded := hx
  metadata {live next} h := by
    obtain ⟨current, hlive, rfl, -⟩ := revision_overwrite_some h
    have hmetadata := (of_ok hlive).1
    show (Manifest.metadata (lay current x)).exchanged = _
    rw [labels_toObject, hlay.metadata current, hmetadata]
    exact Metadata.exchanged_labelled live.metadata _
  changes {live next} h := by
    obtain ⟨current, hlive, rfl, hne⟩ := revision_overwrite_some h
    intro hsame
    exact hne (by rw [eq_of_sameContent hlay hlive hsame])
  settles {live next o} h htypes hlabels hdata := by
    obtain ⟨current, -, rfl, hread⟩ := read_revised hlay h htypes hdata
    exact revision_overwrite_none hread (hlay.again current _ hlabels)
  fresh {o} htypes hlabels hdata := by
    have hread := read_own (Object.bears_of_types htypes) hlay.writable_desired hlay.unreported hdata
    exact revision_overwrite_none hread (hlay.fresh _ hlabels)

end Overwrite

end Declaration

end EnvironmentOperator
