import EnvironmentOperator.Manifest.ConfigMap
import EnvironmentOperator.Manifest.Secret
import EnvironmentOperator.Proofs.Manifest.Members
/-!
Typed manifests that come back from an object as they went in. The members of `data` decide what is read, but for
the status, which a replace takes over from what is stored; the metadata is that of the object.
-/
namespace EnvironmentOperator

namespace Object

def Bears (o : Object) (k : Kind) : Prop := o.expectApiVersion k = .ok () ∧ o.expectKind k = .ok ()

theorem bears_of_types {o : Object} {k : Kind} (h : o.types = some ⟨k.apiVersion, k.name⟩) : o.Bears k := by
  constructor
  · simp [expectApiVersion, stated, h, expect]
  · simp [expectKind, stated, h, expect]

end Object

theorem Object.at?_of_members {o : Object} {members : Fields} (h : o.members = .ok members) (key : String) :
    Dict.at? members key = o.data.member? key := by
  unfold Object.members at h
  cases hdata : o.data <;> rw [hdata] at h <;> cases h <;> rfl

theorem Object.members_of_data {o : Object} {fields : Fields} (h : o.data = .obj fields) : o.members = .ok fields := by
  rw [members, h]

theorem Object.members_of_member? {o : Object} {key : String} {j : Json} (h : o.data.member? key = some j) :
    ∃ members, o.members = .ok members := by
  cases hdata : o.data with
  | obj fields => exact ⟨fields, members_of_data hdata⟩
  | _ =>
      rw [hdata] at h
      cases h

theorem Manifest.ofObject_eq_ok {α : Type} [Manifest α] {o : Object} {x : α} :
    Manifest.ofObject o = .ok x ↔ ∃ members, o.members = .ok members ∧ Manifest.ofMembers o members = .ok x :=
  bind_eq_ok

theorem Manifest.ofObject_of_members {α : Type} [Manifest α] {o : Object} {members : Fields}
    (h : o.members = .ok members) : (Manifest.ofObject o : Except DecodeError α) = Manifest.ofMembers o members := by
  rw [Manifest.ofObject, h]
  rfl

class FaithfulManifest (α : Type) [Manifest α] where
  withMetadata : α → Metadata → α
  /-- What is written of the value can be read again, but for the status. -/
  Writable : α → Prop
  Unreported : α → Prop
  /-- The values agree in what a replace takes over from what is stored. -/
  SameStatus : α → α → Prop
  metadata_withMetadata : ∀ x m, Manifest.metadata (withMetadata x m) = m
  data_withMetadata : ∀ x m, Manifest.data (withMetadata x m) = Manifest.data x
  withMetadata_self : ∀ x, withMetadata x (Manifest.metadata x) = x
  of_ok : ∀ {o : Object} {x : α}, Manifest.ofObject o = .ok x →
    Manifest.metadata x = o.metadata.exchanged ∧ o.Bears (Manifest.kind α)
  read_own : ∀ {o : Object} {x : α}, o.Bears (Manifest.kind α) → Writable x → Unreported x →
    o.data = .obj (Manifest.data x) → Manifest.ofObject o = .ok (withMetadata x o.metadata.exchanged)
  read_kept : ∀ {o p : Object} {x y : α} {members : Fields}, o.Bears (Manifest.kind α) → o.members = .ok members →
    Manifest.ofObject p = .ok y → Writable x → SameStatus x y →
      (∀ k, k ≠ "status" → o.data.member? k = Dict.at? (Manifest.data x) k) →
        o.data.member? "status" = p.data.member? "status" →
          Manifest.ofObject o = .ok (withMetadata x o.metadata.exchanged)
  status_absent : ∀ {p : Object} {x y : α}, Manifest.ofObject p = .ok y → SameStatus x y →
    p.data.member? "status" = none → Dict.at? (Manifest.data x) "status" = none
  eq_of_data_eq : ∀ {x y : α}, Writable x → SameStatus x y → Manifest.data y = Manifest.data x →
    y = withMetadata x (Manifest.metadata y)
  realFree : ∀ {x : α} {k : String} {j : Json}, Writable x → k ≠ "status" → Dict.at? (Manifest.data x) k = some j →
    j.RealFree

theorem Object.expectType_eq_ok {o : Object} {k : Kind} : o.expectType k = .ok () ↔ o.Bears k := by
  rw [Object.expectType, bind_eq_ok]
  exact ⟨fun ⟨_, hv, hk⟩ => ⟨hv, hk⟩, fun h => ⟨(), h⟩⟩

namespace FaithfulManifest

variable {o : Object} {members : Fields}

theorem read_configMap {x : ConfigMap} (ho : o.Bears .configMap) (hmembers : o.members = .ok members)
    (hd : ∀ k, k ≠ "status" → o.data.member? k = Dict.at? (Manifest.data x) k) :
    Manifest.ofObject o = .ok { x with metadata := o.metadata.exchanged } := by
  have hv : o.expectApiVersion .configMap = .ok () := ho.1
  have hk : o.expectKind .configMap = .ok () := ho.2
  have hbinary := (Object.at?_of_members hmembers _).trans (hd "binaryData" (by decide))
  have hdata := (Object.at?_of_members hmembers _).trans (hd "data" (by decide))
  have himmutable := (Object.at?_of_members hmembers _).trans (hd "immutable" (by decide))
  simp [Manifest.data] at hbinary hdata himmutable
  simp [Manifest.ofObject_of_members hmembers, Manifest.ofMembers, hv, hk, hbinary, hdata, himmutable]

instance : FaithfulManifest ConfigMap where
  withMetadata x m := { x with metadata := m }
  Writable _ := True
  Unreported _ := True
  SameStatus _ _ := True
  metadata_withMetadata _ _ := rfl
  data_withMetadata _ _ := rfl
  withMetadata_self _ := rfl
  of_ok h := by
    obtain ⟨_, -, h⟩ := Manifest.ofObject_eq_ok.1 h
    simp only [Manifest.ofMembers, bind_eq_ok] at h
    obtain ⟨⟨⟩, hv, _, -, _, -, _, -, ⟨⟩, hk, h⟩ := h
    cases h
    exact ⟨rfl, hv, hk⟩
  read_own {o x} ho _ _ hd := by
    have hmembers := Object.members_of_data hd
    exact read_configMap ho hmembers fun k _ => by rw [hd, Json.member?_obj]
  read_kept ho hmembers _ _ _ hd _ := read_configMap ho hmembers hd
  status_absent _ _ _ := by simp [Manifest.data]
  eq_of_data_eq {x y} _ _ h := by
    have hbears : (Manifest.toObject y).Bears (Manifest.kind ConfigMap) := Object.bears_of_types rfl
    have hown := read_configMap (x := y) hbears rfl fun _ _ => rfl
    have hother := read_configMap (x := x) hbears rfl fun k _ => congrArg (fun d => Dict.at? d k) h
    have hsame := Except.ok.inj (hown.symm.trans hother)
    exact congrArg (fun z : ConfigMap => { z with metadata := y.metadata }) hsame
  realFree _ _ := Json.realFree_of_at? (Json.realFree_present (by simp))

theorem read_secret {x : Secret} (ho : o.Bears .secret) (hmembers : o.members = .ok members)
    (hd : ∀ k, k ≠ "status" → o.data.member? k = Dict.at? (Manifest.data x) k) :
    Manifest.ofObject o = .ok { x with metadata := o.metadata.exchanged } := by
  have hv : o.expectApiVersion .secret = .ok () := ho.1
  have hk : o.expectKind .secret = .ok () := ho.2
  have hdata := (Object.at?_of_members hmembers _).trans (hd "data" (by decide))
  have himmutable := (Object.at?_of_members hmembers _).trans (hd "immutable" (by decide))
  have htext := (Object.at?_of_members hmembers _).trans (hd "stringData" (by decide))
  have htype := (Object.at?_of_members hmembers _).trans (hd "type" (by decide))
  simp [Manifest.data] at hdata himmutable htext htype
  simp [Manifest.ofObject_of_members hmembers, Manifest.ofMembers, hv, hk, hdata, himmutable, htext, htype]

instance : FaithfulManifest Secret where
  withMetadata x m := { x with metadata := m }
  Writable _ := True
  Unreported _ := True
  SameStatus _ _ := True
  metadata_withMetadata _ _ := rfl
  data_withMetadata _ _ := rfl
  withMetadata_self _ := rfl
  of_ok h := by
    obtain ⟨_, -, h⟩ := Manifest.ofObject_eq_ok.1 h
    simp only [Manifest.ofMembers, bind_eq_ok] at h
    obtain ⟨⟨⟩, hv, _, -, _, -, ⟨⟩, hk, _, -, _, -, h⟩ := h
    cases h
    exact ⟨rfl, hv, hk⟩
  read_own {o x} ho _ _ hd := by
    have hmembers := Object.members_of_data hd
    exact read_secret ho hmembers fun k _ => by rw [hd, Json.member?_obj]
  read_kept ho hmembers _ _ _ hd _ := read_secret ho hmembers hd
  status_absent _ _ _ := by simp [Manifest.data]
  eq_of_data_eq {x y} _ _ h := by
    have hbears : (Manifest.toObject y).Bears (Manifest.kind Secret) := Object.bears_of_types rfl
    have hown := read_secret (x := y) hbears rfl fun _ _ => rfl
    have hother := read_secret (x := x) hbears rfl fun k _ => congrArg (fun d => Dict.at? d k) h
    have hsame := Except.ok.inj (hown.symm.trans hother)
    exact congrArg (fun z : Secret => { z with metadata := y.metadata }) hsame
  realFree _ _ := Json.realFree_of_at? (Json.realFree_present (by simp))

end FaithfulManifest

structure SpecAndStatus (α σ τ : Type) [Manifest α] [JsonForm σ] [JsonForm τ] where
  make : Metadata → Option σ → Option τ → α
  spec : α → Option σ
  status : α → Option τ
  make_parts : ∀ x, make (Manifest.metadata x) (spec x) (status x) = x
  metadata_make : ∀ m s t, Manifest.metadata (make m s t) = m
  spec_make : ∀ m s t, spec (make m s t) = s
  status_make : ∀ m s t, status (make m s t) = t
  data_eq : ∀ x, Manifest.data x = Json.present [("spec", (spec x).map encode), ("status", (status x).map encode)]
  ofMembers_eq : ∀ o members, Manifest.ofMembers o members = (do
    o.expectType (Manifest.kind α)
    let s ← Fields.optional members "spec"
    let t ← Fields.optional members "status"
    return make o.metadata.exchanged s t)

namespace SpecAndStatus

variable {α σ τ : Type} [Manifest α] [JsonForm σ] [JsonForm τ] (shape : SpecAndStatus α σ τ) {o : Object} {x : α}

theorem ofObject_eq_ok : Manifest.ofObject o = .ok x ↔ (∃ members, o.members = .ok members) ∧
    o.Bears (Manifest.kind α) ∧ Manifest.metadata x = o.metadata.exchanged ∧
      Fields.readOptional (o.data.member? "spec") = .ok (shape.spec x) ∧
        Fields.readOptional (o.data.member? "status") = .ok (shape.status x) := by
  rw [Manifest.ofObject_eq_ok]
  constructor
  · rintro ⟨members, hmembers, h⟩
    rw [shape.ofMembers_eq, bind_eq_ok] at h
    obtain ⟨⟨⟩, htype, h⟩ := h
    simp only [Fields.optional_eq, bind_eq_ok, Object.at?_of_members hmembers] at h
    obtain ⟨s, hs, t, ht, h⟩ := h
    cases h
    rw [shape.metadata_make, shape.spec_make, shape.status_make]
    exact ⟨⟨members, hmembers⟩, Object.expectType_eq_ok.1 htype, rfl, hs, ht⟩
  · rintro ⟨⟨members, hmembers⟩, htype, hmetadata, hs, ht⟩
    refine ⟨members, hmembers, ?_⟩
    rw [shape.ofMembers_eq, Object.expectType_eq_ok.2 htype]
    simp only [Fields.optional_eq, Object.at?_of_members hmembers, hs, ht, bind_ok]
    rw [← hmetadata]
    exact congrArg Except.ok (shape.make_parts x)

theorem at?_spec (x : α) : Dict.at? (Manifest.data x) "spec" = (shape.spec x).map encode := by
  simp [shape.data_eq]

theorem at?_status (x : α) : Dict.at? (Manifest.data x) "status" = (shape.status x).map encode := by
  simp [shape.data_eq]

theorem ofObject_make {m : Metadata} {s : Option σ} {t : Option τ} {members : Fields}
    (hmembers : o.members = .ok members) (ho : o.Bears (Manifest.kind α)) (hm : m = o.metadata.exchanged)
    (hs : Fields.readOptional (o.data.member? "spec") = .ok s)
    (ht : Fields.readOptional (o.data.member? "status") = .ok t) : Manifest.ofObject o = .ok (shape.make m s t) := by
  refine shape.ofObject_eq_ok.2 ⟨⟨members, hmembers⟩, ho, ?_⟩
  rw [shape.metadata_make, shape.spec_make, shape.status_make]
  exact ⟨hm, hs, ht⟩

@[reducible] def faithful : FaithfulManifest α where
  withMetadata x m := shape.make m (shape.spec x) (shape.status x)
  Writable x := PlainValue.Members (shape.spec x)
  Unreported x := shape.status x = none
  SameStatus x y := shape.status x = shape.status y
  metadata_withMetadata _ _ := shape.metadata_make _ _ _
  data_withMetadata _ _ := by
    rw [shape.data_eq, shape.data_eq, shape.spec_make, shape.status_make]
  withMetadata_self := shape.make_parts
  of_ok h := by
    obtain ⟨-, ho, hmetadata, -⟩ := shape.ofObject_eq_ok.1 h
    exact ⟨hmetadata, ho⟩
  read_own {o x} ho hx hnone hd := by
    have hmembers := Object.members_of_data hd
    refine shape.ofObject_make hmembers ho rfl ?_ ?_
    · rw [hd, Json.member?_obj, shape.at?_spec, hx.readOptional]
    · rw [hd, Json.member?_obj, shape.at?_status, hnone]
      rfl
  read_kept {o p x y members} ho hmembers hp hx hstatus hd hkept := by
    obtain ⟨-, -, -, -, hread⟩ := shape.ofObject_eq_ok.1 hp
    refine shape.ofObject_make hmembers ho rfl ?_ ?_
    · rw [hd "spec" (by decide), shape.at?_spec, hx.readOptional]
    · rw [hkept, hread, hstatus]
  status_absent {p x y} hp hstatus hnone := by
    obtain ⟨-, -, -, -, hread⟩ := shape.ofObject_eq_ok.1 hp
    rw [hnone] at hread
    rw [shape.at?_status, hstatus, ← Except.ok.inj hread]
    rfl
  eq_of_data_eq {x y} hx hstatus h := by
    have hspec : shape.spec y = shape.spec x := hx.unique (by rw [← shape.at?_spec, h, shape.at?_spec])
    rw [← hspec, hstatus]
    exact (shape.make_parts y).symm
  realFree {x k j} hx hk hj := by
    rw [shape.data_eq] at hj
    by_cases hspec : k = "spec"
    · subst hspec
      simp at hj
      obtain ⟨s, hs, rfl⟩ := hj
      exact (hx s hs).encode_realFree
    · simp [hspec, hk] at hj

end SpecAndStatus

@[reducible] def SpecAndStatus.namespaces : SpecAndStatus Namespace NamespaceSpec NamespaceStatus where
  make := Namespace.mk
  spec := Namespace.spec
  status := Namespace.status
  make_parts _ := rfl
  metadata_make _ _ _ := rfl
  spec_make _ _ _ := rfl
  status_make _ _ _ := rfl
  data_eq _ := rfl
  ofMembers_eq _ _ := rfl

instance : FaithfulManifest Namespace := SpecAndStatus.namespaces.faithful

@[reducible] def SpecAndStatus.services : SpecAndStatus Service ServiceSpec ServiceStatus where
  make := Service.mk
  spec := Service.spec
  status := Service.status
  make_parts _ := rfl
  metadata_make _ _ _ := rfl
  spec_make _ _ _ := rfl
  status_make _ _ _ := rfl
  data_eq _ := rfl
  ofMembers_eq _ _ := rfl

instance : FaithfulManifest Service := SpecAndStatus.services.faithful

@[reducible] def SpecAndStatus.claims : SpecAndStatus Claim ClaimSpec ClaimStatus where
  make := Claim.mk
  spec := Claim.spec
  status := Claim.status
  make_parts _ := rfl
  metadata_make _ _ _ := rfl
  spec_make _ _ _ := rfl
  status_make _ _ _ := rfl
  data_eq _ := rfl
  ofMembers_eq _ _ := rfl

instance : FaithfulManifest Claim := SpecAndStatus.claims.faithful

@[reducible] def SpecAndStatus.deployments : SpecAndStatus Deployment DeploymentSpec DeploymentStatus where
  make := Deployment.mk
  spec := Deployment.spec
  status := Deployment.status
  make_parts _ := rfl
  metadata_make _ _ _ := rfl
  spec_make _ _ _ := rfl
  status_make _ _ _ := rfl
  data_eq _ := rfl
  ofMembers_eq _ _ := rfl

instance : FaithfulManifest Deployment := SpecAndStatus.deployments.faithful

@[reducible] def SpecAndStatus.ingresses : SpecAndStatus Ingress IngressSpec IngressStatus where
  make := Ingress.mk
  spec := Ingress.spec
  status := Ingress.status
  make_parts _ := rfl
  metadata_make _ _ _ := rfl
  spec_make _ _ _ := rfl
  status_make _ _ _ := rfl
  data_eq _ := rfl
  ofMembers_eq _ _ := rfl

instance : FaithfulManifest Ingress := SpecAndStatus.ingresses.faithful

end EnvironmentOperator
