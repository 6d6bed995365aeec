import EnvironmentOperator.Cluster.Operation
import EnvironmentOperator.Proofs.Manifest.Faithful
import EnvironmentOperator.Proofs.Manifest.Object
import EnvironmentOperator.Proofs.Reconcile.Stage

namespace EnvironmentOperator

namespace Kind

def Typed : Kind → Type
  | .namespace => Namespace
  | .configMap => ConfigMap
  | .secret => Secret
  | .service => Service
  | .claim => Claim
  | .deployment => Deployment
  | .ingress => Ingress
  | .issuer => Issuer
  | .certificate => Certificate
  | .environment => Environment

instance (k : Kind) : Manifest k.Typed :=
  match k with
  | .namespace => inferInstanceAs (Manifest Namespace)
  | .configMap => inferInstanceAs (Manifest ConfigMap)
  | .secret => inferInstanceAs (Manifest Secret)
  | .service => inferInstanceAs (Manifest Service)
  | .claim => inferInstanceAs (Manifest Claim)
  | .deployment => inferInstanceAs (Manifest Deployment)
  | .ingress => inferInstanceAs (Manifest Ingress)
  | .issuer => inferInstanceAs (Manifest Issuer)
  | .certificate => inferInstanceAs (Manifest Certificate)
  | .environment => inferInstanceAs (Manifest Environment)

end Kind

theorem Object.normalizedAs_eq (k : Kind) (o : Object) : o.normalizedAs k = o.normalized k.Typed := by
  cases k <;> rfl

instance : ExchangeForm NamespaceSpec := .ofPlain _

instance : ExchangeForm ServiceSpec := .ofPlain _

instance : ExchangeForm ClaimSpec := .ofPlain _

instance : ExchangeForm IngressSpec := .ofPlain _

instance : ExchangeForm IngressStatus := .ofPlain _

/-- Manifests, with what they hold beside their own metadata. That metadata crosses as it is exchanged; everything else
goes through JSON. -/
class Exchangeable (α : Type) [Manifest α] where
  instantsWithin : α → List Instant
  fieldSetsWithin : α → List Json
  exchanged : α → α
  ofObject_toObject : ∀ x, (∀ t ∈ instantsWithin x, t.Recordable) →
    Manifest.ofObject (Manifest.toObject x) = .ok (exchanged x)
  toObject_exchanged : ∀ x, (∀ j ∈ fieldSetsWithin x, j ≠ .null) →
    Manifest.toObject (exchanged x) = Manifest.toObject x
  exchanged_eq_iff : ∀ x, exchanged x = x ↔ (Manifest.metadata x).exchanged = Manifest.metadata x ∧
    (∀ t ∈ instantsWithin x, t.wholeSeconds = t) ∧ ∀ j ∈ fieldSetsWithin x, j ≠ .null
  of_read : ∀ {o : Object} {x : α}, Manifest.ofObject o = .ok x →
    (∀ t ∈ instantsWithin x, t.Recordable) ∧ ∀ j ∈ fieldSetsWithin x, j ≠ .null

namespace Exchangeable

section Exchange

variable {α : Type} [Manifest α] [Exchangeable α] {x : α}

def instants (x : α) : List Instant := ExchangeForm.instants (Manifest.metadata x) ++ instantsWithin x

def fieldSets (x : α) : List Json := ExchangeForm.fieldSets (Manifest.metadata x) ++ fieldSetsWithin x

theorem ofObject_toObject_iff (h : ∀ t ∈ instants x, t.Recordable) :
    Manifest.ofObject (Manifest.toObject x) = .ok x ↔
      (∀ t ∈ instants x, t.wholeSeconds = t) ∧ ∀ j ∈ fieldSets x, j ≠ .null := by
  have hown : (Manifest.metadata x).exchanged = Manifest.metadata x ↔
      (∀ t ∈ ExchangeForm.instants (Manifest.metadata x), t.wholeSeconds = t) ∧
        ∀ j ∈ ExchangeForm.fieldSets (Manifest.metadata x), j ≠ .null := ExchangeForm.exchanged_eq_iff _
  rw [ofObject_toObject x (List.forall_mem_append.1 h).2, Except.ok.injEq, exchanged_eq_iff, hown, instants, fieldSets,
    List.forall_mem_append, List.forall_mem_append]
  tauto

theorem decode_encode (h : ∀ t ∈ instants x, t.Recordable) :
    decode (Manifest.encode x) = .ok (Manifest.toObject x) := by
  have hread := ExchangeForm.decode_encode (Manifest.metadata x) (List.forall_mem_append.1 h).1
  -- What is written of the metadata has been exchanged already, and once more makes no difference.
  have hwritten : ∀ t ∈ ExchangeForm.instants (Manifest.metadata x).exchanged, t.Recordable :=
    (ExchangeForm.of_decode hread).1
  refine (Object.decode_encode (o := Manifest.toObject x) rfl rfl hwritten).trans (congrArg Except.ok ?_)
  simp only [Manifest.toObject, Metadata.exchanged_exchanged]

theorem normalized_again {o o' : Object} (h : o.normalized α = .ok o') : o'.normalized α = .ok o' := by
  unfold Object.normalized Object.typed at h ⊢
  cases hread : (Manifest.ofObject o : Except DecodeError α) with
  | error e =>
      rw [hread] at h
      cases h
  | ok x =>
      rw [hread] at h
      cases h
      obtain ⟨hinstants, hsets⟩ := of_read hread
      rw [ofObject_toObject x hinstants]
      exact congrArg Except.ok (toObject_exchanged x hsets)

end Exchange

section Instances

variable {α : Type} [Manifest α]

@[reducible] def ofMetadata (withMetadata : α → Metadata → α)
    (hself : ∀ x, withMetadata x (Manifest.metadata x) = x)
    (hmetadata : ∀ x m, Manifest.metadata (withMetadata x m) = m)
    (hdata : ∀ x m, Manifest.data (withMetadata x m) = Manifest.data x)
    (hread : ∀ x, Manifest.ofObject (Manifest.toObject x) = .ok (withMetadata x (Manifest.metadata x).exchanged)) :
    Exchangeable α where
  instantsWithin _ := []
  fieldSetsWithin _ := []
  exchanged x := withMetadata x (Manifest.metadata x).exchanged
  ofObject_toObject x _ := hread x
  toObject_exchanged x _ := by
    simp only [Manifest.toObject, hmetadata, hdata, Metadata.exchanged_exchanged]
  exchanged_eq_iff x := by
    constructor
    · intro h
      exact ⟨by rw [← hmetadata x (Manifest.metadata x).exchanged, h], by simp, by simp⟩
    · rintro ⟨h, -⟩
      rw [h, hself]
  of_read _ := ⟨by simp, by simp⟩

open FaithfulManifest in
@[reducible] def ofFaithful [FaithfulManifest α] (hwritable : ∀ x : α, Writable x) (hnone : ∀ x : α, Unreported x) :
    Exchangeable α :=
  ofMetadata withMetadata withMetadata_self metadata_withMetadata data_withMetadata fun x => by
    have hread := read_own (o := Manifest.toObject x) (Object.bears_of_types rfl) (hwritable x) (hnone x) rfl
    rw [hread]
    exact congrArg (fun m => Except.ok (withMetadata x m)) (Metadata.exchanged_exchanged _)

open ExchangeForm in
@[reducible] def ofShape {σ τ : Type} [JsonForm σ] [JsonForm τ] [ExchangeForm σ] [ExchangeForm τ]
    (shape : SpecAndStatus α σ τ) : Exchangeable α where
  instantsWithin x := (shape.spec x).toList.flatMap ExchangeForm.instants ++
    (shape.status x).toList.flatMap ExchangeForm.instants
  fieldSetsWithin x := (shape.spec x).toList.flatMap ExchangeForm.fieldSets ++
    (shape.status x).toList.flatMap ExchangeForm.fieldSets
  exchanged x := shape.make (Manifest.metadata x).exchanged ((shape.spec x).map ExchangeForm.exchanged)
    ((shape.status x).map ExchangeForm.exchanged)
  ofObject_toObject x h := by
    obtain ⟨hspec, hstatus⟩ := List.forall_mem_append.1 h
    refine shape.ofObject_make rfl (Object.bears_of_types rfl) (Metadata.exchanged_exchanged _).symm ?_ ?_
    · exact (congrArg Fields.readOptional (shape.at?_spec x)).trans (readOptional_encode hspec)
    · exact (congrArg Fields.readOptional (shape.at?_status x)).trans (readOptional_encode hstatus)
  toObject_exchanged x h := by
    obtain ⟨hspec, hstatus⟩ := List.forall_mem_append.1 h
    simp only [Manifest.toObject, shape.metadata_make, Metadata.exchanged_exchanged, shape.data_eq, shape.spec_make,
      shape.status_make, map_encode_exchanged hspec, map_encode_exchanged hstatus]
  exchanged_eq_iff x := by
    have hparts : shape.make (Manifest.metadata x).exchanged ((shape.spec x).map ExchangeForm.exchanged)
          ((shape.status x).map ExchangeForm.exchanged) = x ↔
        (Manifest.metadata x).exchanged = Manifest.metadata x ∧
          (shape.spec x).map ExchangeForm.exchanged = shape.spec x ∧
            (shape.status x).map ExchangeForm.exchanged = shape.status x := by
      constructor
      · intro h
        have hmetadata := congrArg Manifest.metadata h
        have hspec := congrArg shape.spec h
        have hstatus := congrArg shape.status h
        rw [shape.metadata_make] at hmetadata
        rw [shape.spec_make] at hspec
        rw [shape.status_make] at hstatus
        exact ⟨hmetadata, hspec, hstatus⟩
      · rintro ⟨hmetadata, hspec, hstatus⟩
        rw [hmetadata, hspec, hstatus, shape.make_parts]
    rw [hparts, member_exchanged_eq_iff, member_exchanged_eq_iff, List.forall_mem_append, List.forall_mem_append]
    tauto
  of_read h := by
    obtain ⟨-, -, -, hspec, hstatus⟩ := shape.ofObject_eq_ok.1 h
    have hspec := settled_of_readOptional hspec
    have hstatus := settled_of_readOptional hstatus
    exact ⟨List.forall_mem_append.2 ⟨hspec.1, hstatus.1⟩, List.forall_mem_append.2 ⟨hspec.2, hstatus.2⟩⟩

end Instances

section Kinds

instance : Exchangeable Namespace := ofShape .namespaces

instance : Exchangeable Service := ofShape .services

instance : Exchangeable Claim := ofShape .claims

instance : Exchangeable Deployment := ofShape .deployments

instance : Exchangeable Ingress := ofShape .ingresses

instance : Exchangeable ConfigMap := ofFaithful (fun _ => trivial) fun _ => trivial

instance : Exchangeable Secret := ofFaithful (fun _ => trivial) fun _ => trivial

instance : Exchangeable Issuer :=
  ofMetadata (fun x m => { x with metadata := m }) (fun _ => rfl) (fun _ _ => rfl) (fun _ _ => rfl) fun x => by
    rw [Manifest.ofObject_of_members rfl]
    simp [Manifest.ofMembers, Manifest.toObject, Manifest.data, Manifest.metadata]

instance : Exchangeable Certificate :=
  ofMetadata (fun x m => { x with metadata := m }) (fun _ => rfl) (fun _ _ => rfl) (fun _ _ => rfl) fun x => by
    rw [Manifest.ofObject_of_members rfl]
    simp [Manifest.ofMembers, Manifest.toObject, Manifest.data, Manifest.metadata]

instance : Exchangeable Environment :=
  ofMetadata (fun x m => { x with metadata := m }) (fun _ => rfl) (fun _ _ => rfl) (fun _ _ => rfl) fun x => by
    rw [Manifest.ofObject_of_members rfl]
    simp [Manifest.ofMembers, Manifest.toObject, Manifest.data, Manifest.metadata]

instance (k : Kind) : Exchangeable k.Typed :=
  match k with
  | .namespace => inferInstanceAs (Exchangeable Namespace)
  | .configMap => inferInstanceAs (Exchangeable ConfigMap)
  | .secret => inferInstanceAs (Exchangeable Secret)
  | .service => inferInstanceAs (Exchangeable Service)
  | .claim => inferInstanceAs (Exchangeable Claim)
  | .deployment => inferInstanceAs (Exchangeable Deployment)
  | .ingress => inferInstanceAs (Exchangeable Ingress)
  | .issuer => inferInstanceAs (Exchangeable Issuer)
  | .certificate => inferInstanceAs (Exchangeable Certificate)
  | .environment => inferInstanceAs (Exchangeable Environment)

end Kinds

section Desired

variable {α : Type} [Manifest α] [Exchangeable α] {x : α}

def Steady (x : α) : Prop := instants x = [] ∧ fieldSets x = []

theorem Steady.ofObject_toObject (h : Steady x) : Manifest.ofObject (Manifest.toObject x) = .ok x := by
  obtain ⟨hinstants, hsets⟩ := h
  exact (ofObject_toObject_iff (by simp [hinstants])).2 (by simp [hinstants, hsets])

theorem databaseDeployment_steady (s : Scope) (db : Database) : Steady (Desired.databaseDeployment s db) := by
  unfold Steady Desired.databaseDeployment Desired.databaseVolumes
  cases DatabaseEngine.ofName? db.engine <;> exact ⟨rfl, rfl⟩

theorem desired_steady {s : Scope} {spec : EnvironmentSpec} {d : Declaration} (h : d ∈ Stage.declared s spec) :
    ∃ x : d.kind.Typed, d.desired = Manifest.toObject x ∧ Steady x := by
  simp only [Stage.declared, Stage.all, Stage.declarations, List.flatMap_cons, List.flatMap_nil, List.mem_append,
    List.mem_cons, List.not_mem_nil, or_false] at h
  rcases h with rfl | (rfl | rfl) | rfl | (rfl | rfl | rfl | rfl | rfl) | (rfl | rfl | rfl)
  · exact ⟨Desired.dedicatedNamespace s, rfl, rfl, rfl⟩
  · exact ⟨Desired.issuer s, rfl, rfl, rfl⟩
  · exact ⟨Desired.certificate s, rfl, rfl, rfl⟩
  · exact ⟨Desired.toolsConfigMap s spec, rfl, rfl, rfl⟩
  · exact ⟨Desired.ideWorkspace s, rfl, rfl, rfl⟩
  · exact ⟨Desired.idePassword s spec, rfl, rfl, rfl⟩
  · exact ⟨Desired.ideDeployment s spec, rfl, rfl, rfl⟩
  · exact ⟨Desired.ideService s, rfl, rfl, rfl⟩
  · exact ⟨Desired.ideIngress s, rfl, rfl, rfl⟩
  · exact ⟨Desired.databaseClaim s, rfl, rfl, rfl⟩
  · exact ⟨Desired.databaseDeployment s spec.database, rfl, databaseDeployment_steady s spec.database⟩
  · exact ⟨Desired.databaseService s spec.database, rfl, rfl, rfl⟩

end Desired

/-- The untyped form of a manifest is what is read of its text, and the manifest comes back from it exactly when its
instants have whole seconds and none of its sets of managed fields is null. Every object that the operator desires is
the form of a manifest that comes back. The form of whatever was read of an object stays as it is when it is read
again. -/
theorem forms_agree (k : Kind) :
    (∀ x : k.Typed, (∀ t ∈ instants x, t.Recordable) →
      decode (Manifest.encode x) = .ok (Manifest.toObject x) ∧
        (Manifest.ofObject (Manifest.toObject x) = .ok x ↔
          (∀ t ∈ instants x, t.wholeSeconds = t) ∧ ∀ j ∈ fieldSets x, j ≠ .null)) ∧
    (∀ s spec, ∀ d ∈ Stage.declared s spec, ∃ x : d.kind.Typed,
      d.desired = Manifest.toObject x ∧ Manifest.ofObject d.desired = .ok x) ∧
    ∀ o o' : Object, o.normalizedAs k = .ok o' → o'.normalizedAs k = .ok o' := by
  refine ⟨fun x h => ⟨decode_encode h, ofObject_toObject_iff h⟩, ?_, ?_⟩
  · intro s spec d hd
    obtain ⟨x, hx, hsteady⟩ := desired_steady hd
    exact ⟨x, hx, hx ▸ hsteady.ofObject_toObject⟩
  · intro o o' h
    rw [Object.normalizedAs_eq] at h ⊢
    exact normalized_again h

section Restarted

def restarted : Deployment where
  metadata := { name := some "web", creationTimestamp := some ⟨1767225600, 0⟩ }
  spec := some { template := { metadata := some {
    creationTimestamp := some ⟨1767225599, 1000000000⟩
    managedFields := some [⟨none, none, some (.obj []), some "operator", none, none, some ⟨1767225600, 0⟩⟩] } } }
  status := some { conditions := some [{ lastUpdateTime := some ⟨1767225600, 0⟩ }] }

theorem recordable_newYear : Instant.Recordable ⟨1767225600, 0⟩ := ⟨by decide, by decide⟩

theorem recordable_leapSecond : Instant.Recordable ⟨1767225599, 1000000000⟩ := ⟨by decide, by decide⟩

theorem instants_restarted : instants restarted =
    [⟨1767225600, 0⟩, ⟨1767225599, 1000000000⟩, ⟨1767225600, 0⟩, ⟨1767225600, 0⟩] := rfl

def looseObject : Object where
  types := none
  metadata := { name := some "web" }
  data := .obj [
    ("spec", .obj [("paused", .null), ("template", .obj [("metadata", .obj [
      ("creationTimestamp", .str "2026-1-1T02:00:00.25+02:00")])])]),
    ("tier", .str "front")]

def tightObject : Object where
  types := some ⟨"apps/v1", "Deployment"⟩
  metadata := { name := some "web" }
  data := .obj [("spec", .obj [("selector", .obj []), ("template", .obj [("metadata", .obj [
    ("creationTimestamp", .str "2026-01-01T00:00:00Z")])])])]

theorem forms_agree_restarted :
    (Manifest.ofObject (Manifest.toObject restarted) = .ok restarted ∧
      decode (Manifest.encode restarted) = .ok (Manifest.toObject restarted)) ∧
    looseObject.normalizedAs .deployment = .ok tightObject ∧
      tightObject.normalizedAs .deployment = .ok tightObject := by
  obtain ⟨hread, -, hagain⟩ := forms_agree .deployment
  have hrecordable : ∀ t ∈ instants restarted, t.Recordable := by
    rw [instants_restarted]
    simp [recordable_newYear, recordable_leapSecond]
  obtain ⟨htext, hback⟩ := hread restarted hrecordable
  have hloose : looseObject.normalizedAs .deployment = .ok tightObject := by with_unfolding_all rfl
  exact ⟨⟨hback.2 ⟨by decide, by decide⟩, htext⟩, hloose, hagain _ _ hloose⟩

end Restarted

def disowned : ConfigMap where
  metadata :=
    { name := some "note", managedFields := some [⟨none, none, some .null, some "kubectl", none, none, none⟩] }

/-- A null set of managed fields is written as null and reads back as none. -/
theorem forms_differ_disowned : ¬∀ (k : Kind) (x : k.Typed),
    (∀ t ∈ instants x, t.Recordable ∧ t.wholeSeconds = t) → Manifest.ofObject (Manifest.toObject x) = .ok x := by
  intro h
  have hinstants : instants disowned = [] := rfl
  have hwhole : ∀ t ∈ instants disowned, t.Recordable ∧ t.wholeSeconds = t := by simp [hinstants]
  have hback := h .configMap disowned hwhole
  have hlost := congrArg (fun r : Except DecodeError ConfigMap => r.map (·.metadata.managedFields)) hback
  exact absurd hlost (by decide)

end Exchangeable

end EnvironmentOperator
