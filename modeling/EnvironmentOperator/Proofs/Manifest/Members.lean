import EnvironmentOperator.Environment
import EnvironmentOperator.Manifest.Claim
import EnvironmentOperator.Manifest.Deployment
import EnvironmentOperator.Manifest.Ingress
import EnvironmentOperator.Manifest.Issuing
import EnvironmentOperator.Manifest.Namespace
import EnvironmentOperator.Manifest.Service
import EnvironmentOperator.Proofs.Decoding.Shape
import EnvironmentOperator.Proofs.Text.Base64

namespace EnvironmentOperator

instance : PlainJsonForm Bytes where
  decode_encode b := by
    show ((Text.Base64.decodeText (Text.Base64.encodeText b.octets)).mapError DecodeError.notBase64).map Bytes.mk = _
    rw [Text.Base64.decodeText_encodeText]
    rfl
  encode_ne_null _ h := by cases h
  encode_realFree _ := trivial

instance : PlainJsonForm OwnerReference :=
  .of_record (fun _ => rfl) (fun x => by simp [decode]) (fun x => by simp)

def Metadata.InstantFree (m : Metadata) : Prop :=
  m.creationTimestamp = none ∧ m.deletionTimestamp = none ∧ m.managedFields = none

namespace Metadata.InstantFree

variable {m : Metadata}

theorem decode_encode (h : m.InstantFree) : decode (encode m) = .ok m := by
  obtain ⟨hc, hd, hf⟩ := h
  cases m
  subst hc hd hf
  show decode (Json.obj (Json.present _)) = _
  simp [decode]

theorem of_encode_eq (h : m.InstantFree) {m' : Metadata} (he : encode m' = encode m) : m'.InstantFree := by
  obtain ⟨hc, hd, hf⟩ := h
  have hmember := Json.at?_of_record_eq he
  have hcreated := hmember "creationTimestamp"
  have hdeleted := hmember "deletionTimestamp"
  have hfields := hmember "managedFields"
  simp [hc] at hcreated
  simp [hd] at hdeleted
  simp [hf] at hfields
  exact ⟨hcreated, hdeleted, hfields⟩

theorem plain (h : m.InstantFree) : PlainValue m where
  decode_encode := h.decode_encode
  encode_ne_null h := by cases h
  encode_realFree := by
    obtain ⟨hc, hd, hf⟩ := h
    exact Json.realFree_present (by simp [hc, hd, hf])
  encode_unique m' he := by
    have hm' := (h.of_encode_eq he).decode_encode
    rw [he, h.decode_encode] at hm'
    exact (Except.ok.inj hm').symm

end Metadata.InstantFree

/-! ### Claims -/

instance : PlainJsonForm ClaimResources :=
  .of_record (fun _ => rfl) (fun x => by simp [decode]) (fun x => by simp)

instance : PlainJsonForm ClaimSpec :=
  .of_record (fun _ => rfl) (fun x => by simp [decode]) (fun x => by simp)

/-! ### Pods -/

instance : PlainJsonForm SecretKey :=
  .of_record (fun _ => rfl) (fun x => by simp [decode]) (fun x => by simp)

instance : PlainJsonForm EnvironmentSource :=
  .of_record (fun _ => rfl) (fun x => by simp [decode]) (fun x => by simp)

instance : PlainJsonForm EnvironmentVariable :=
  .of_record (fun _ => rfl) (fun x => by simp [decode]) (fun x => by simp)

instance : PlainJsonForm ContainerPort :=
  .of_record (fun _ => rfl) (fun x => by simp [decode]) (fun x => by simp)

instance : PlainJsonForm VolumeMount :=
  .of_record (fun _ => rfl) (fun x => by simp [decode]) (fun x => by simp)

instance : PlainJsonForm ExecAction :=
  .of_record (fun _ => rfl) (fun x => by simp [decode]) (fun x => by simp)

instance : PlainJsonForm LifecycleHandler :=
  .of_record (fun _ => rfl) (fun x => by simp [decode]) (fun x => by simp)

instance : PlainJsonForm ContainerLifecycle :=
  .of_record (fun _ => rfl) (fun x => by simp [decode]) (fun x => by simp)

instance : PlainJsonForm ContainerResources :=
  .of_record (fun _ => rfl) (fun x => by simp [decode]) (fun x => by simp)

instance : PlainJsonForm Container :=
  .of_record (fun _ => rfl) (fun x => by simp [decode]) (fun x => by simp)

instance : PlainJsonForm EphemeralContainer :=
  .of_record (fun _ => rfl) (fun x => by simp [decode]) (fun x => by simp)

instance : PlainJsonForm ClaimVolume :=
  .of_record (fun _ => rfl) (fun x => by simp [decode]) (fun x => by simp)

instance : PlainJsonForm ConfigMapVolume :=
  .of_record (fun _ => rfl) (fun x => by simp [decode]) (fun x => by simp)

theorem Volume.plain {v : Volume} (h : PlainValue.Members v.ephemeral) : PlainValue v :=
  .of_reads (P := fun v => PlainValue.Members v.ephemeral) h
    (fun w hw => by
      show decode (Json.obj (Json.present _)) = _
      simp [decode, hw.readOptional])
    (fun w he => by
      have hephemeral := Json.at?_of_record_eq he "ephemeral"
      simp at hephemeral
      rw [h.unique hephemeral]
      exact h)
    (fun h => by cases h) (Json.realFree_present (by simp [h.realFree]))

theorem PodSpec.plain {s : PodSpec} (h : PlainValue.Members s.volumes) : PlainValue s :=
  .of_reads (P := fun s => PlainValue.Members s.volumes) h
    (fun w hw => by
      show decode (Json.obj (Json.present _)) = _
      simp [decode, hw.readOptional])
    (fun w he => by
      have hvolumes := Json.at?_of_record_eq he "volumes"
      simp at hvolumes
      rw [h.unique hvolumes]
      exact h)
    (fun h => by cases h) (Json.realFree_present (by simp [h.realFree]))

theorem PodTemplate.plain {t : PodTemplate} (hmetadata : PlainValue.Members t.metadata)
    (hspec : PlainValue.Members t.spec) : PlainValue t :=
  .of_reads (P := fun t => PlainValue.Members t.metadata ∧ PlainValue.Members t.spec) ⟨hmetadata, hspec⟩
    (fun w hw => by
      show decode (Json.obj (Json.present _)) = _
      simp [decode, hw.1.readOptional, hw.2.readOptional])
    (fun w he => by
      have hmember := Json.at?_of_record_eq he
      have hmetadata' := hmember "metadata"
      have hspec' := hmember "spec"
      simp at hmetadata' hspec'
      rw [hmetadata.unique hmetadata', hspec.unique hspec']
      exact ⟨hmetadata, hspec⟩)
    (fun h => by cases h) (Json.realFree_present (by simp [hmetadata.realFree, hspec.realFree]))

/-! ### Deployments -/

instance : PlainJsonForm LabelRequirement :=
  .of_record (fun _ => rfl) (fun x => by simp [decode]) (fun x => by simp)

instance : PlainJsonForm LabelSelector :=
  .of_record (fun _ => rfl) (fun x => by simp [decode]) (fun x => by simp)

instance : PlainJsonForm RollingUpdate :=
  .of_record (fun _ => rfl) (fun x => by simp [decode]) (fun x => by simp)

instance : PlainJsonForm DeploymentStrategy :=
  .of_record (fun _ => rfl) (fun x => by simp [decode]) (fun x => by simp)

theorem DeploymentSpec.plain {s : DeploymentSpec} (h : PlainValue s.template) : PlainValue s :=
  .of_reads (P := fun s => PlainValue s.template) h
    (fun w hw => by
      have htemplate := (PlainValue.members_some hw).readOptional
      rw [Option.map_some] at htemplate
      show decode (Json.obj (Json.present _)) = _
      simp [decode, htemplate])
    (fun w he => by
      have htemplate := Json.at?_of_record_eq he "template"
      simp at htemplate
      rw [h.encode_unique _ htemplate]
      exact h)
    (fun h => by cases h)
    (Json.realFree_present (by
      have htemplate := (PlainValue.members_some h).realFree
      rw [Option.map_some] at htemplate
      simp [htemplate]))

/-! ### Ingresses -/

instance : PlainJsonForm BackendPort :=
  .of_record (fun _ => rfl) (fun x => by simp [decode]) (fun x => by simp)

instance : PlainJsonForm ServiceBackend :=
  .of_record (fun _ => rfl) (fun x => by simp [decode]) (fun x => by simp)

instance : PlainJsonForm IngressBackend :=
  .of_record (fun _ => rfl) (fun x => by simp [decode]) (fun x => by simp)

instance : PlainJsonForm IngressPath :=
  .of_record (fun _ => rfl) (fun x => by simp [decode]) (fun x => by simp)

instance : PlainJsonForm IngressPaths :=
  .of_record (fun _ => rfl) (fun x => by simp [decode]) (fun x => by simp)

instance : PlainJsonForm IngressRule :=
  .of_record (fun _ => rfl) (fun x => by simp [decode]) (fun x => by simp)

instance : PlainJsonForm IngressTls :=
  .of_record (fun _ => rfl) (fun x => by simp [decode]) (fun x => by simp)

instance : PlainJsonForm IngressSpec :=
  .of_record (fun _ => rfl) (fun x => by simp [decode]) (fun x => by simp)

instance : PlainJsonForm IngressAddress :=
  .of_record (fun _ => rfl) (fun x => by simp [decode]) (fun x => by simp)

instance : PlainJsonForm IngressBalancer :=
  .of_record (fun _ => rfl) (fun x => by simp [decode]) (fun x => by simp)

instance : PlainJsonForm IngressStatus :=
  .of_record (fun _ => rfl) (fun x => by simp [decode]) (fun x => by simp)

/-! ### Services -/

instance : PlainJsonForm ServicePort :=
  .of_record (fun _ => rfl) (fun x => by simp [decode]) (fun x => by simp)

instance : PlainJsonForm ServiceSpec :=
  .of_record (fun _ => rfl) (fun x => by simp [decode]) (fun x => by simp)

instance : PlainJsonForm ServiceAddress :=
  .of_record (fun _ => rfl) (fun x => by simp [decode]) (fun x => by simp)

instance : PlainJsonForm ServiceBalancer :=
  .of_record (fun _ => rfl) (fun x => by simp [decode]) (fun x => by simp)

/-! ### Namespaces -/

instance : PlainJsonForm NamespaceSpec :=
  .of_record (fun _ => rfl) (fun x => by simp [decode]) (fun x => by simp)

/-! ### Issuers and certificates -/

instance : PlainJsonForm SelfSigned where
  decode_encode _ := rfl
  encode_ne_null _ h := by cases h
  encode_realFree _ := trivial

instance : PlainJsonForm IssuerSpec :=
  .of_record (fun _ => rfl) (fun x => by simp [decode]) (fun x => by simp)

instance : PlainJsonForm PrivateKey :=
  .of_record (fun _ => rfl) (fun x => by simp [decode, PrivateKey.ofFields]) (fun x => by simp)

instance : PlainJsonForm IssuerReference :=
  .of_record (fun _ => rfl) (fun x => by simp [decode, IssuerReference.ofFields]) (fun x => by simp)

instance : PlainJsonForm CertificateSpec :=
  .of_record (fun _ => rfl) (fun x => by simp [decode, CertificateSpec.ofFields]) (fun x => by simp)

/-! ### Environments -/

instance : PlainJsonForm Dependency :=
  .of_record (fun _ => rfl) (fun x => by simp [decode, Dependency.ofFields]) (fun x => by simp)

instance : PlainJsonForm Database :=
  .of_record (fun _ => rfl) (fun x => by simp [decode, Database.ofFields]) (fun x => by simp)

instance : PlainJsonForm Ide :=
  .of_record (fun _ => rfl) (fun x => by simp [decode, Ide.ofFields]) (fun x => by simp)

instance : PlainJsonForm EnvironmentSpec :=
  .of_record (fun _ => rfl) (fun x => by simp [decode, EnvironmentSpec.ofFields]) (fun x => by simp)

instance : PlainJsonForm Condition :=
  .of_record (fun _ => rfl) (fun x => by simp [decode, Condition.ofFields]) (fun x => by simp)

instance : PlainJsonForm EnvironmentStatus :=
  .of_record (fun _ => rfl)
    (fun x => by
      by_cases h : x.conditions = []
      · simp [decode, EnvironmentStatus.ofFields, h]
        simp [← h]
      · simp [decode, EnvironmentStatus.ofFields, h])
    (fun x => by by_cases h : x.conditions = [] <;> simp [h])

end EnvironmentOperator
