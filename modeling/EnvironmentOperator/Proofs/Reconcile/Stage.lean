import EnvironmentOperator.Proofs.Reconcile.Declaration
import EnvironmentOperator.Reconcile.Stage
import EnvironmentOperator.Reconcile.Teardown
import Mathlib.Tactic.Tauto

namespace EnvironmentOperator.Stage

open Declaration

def declared (s : Scope) (spec : EnvironmentSpec) : List Declaration := all.flatMap (declarations s spec)

theorem deployment_plain {s : DeploymentSpec} {labels : Option (Named String)} {pod : PodSpec}
    (htemplate : s.template = { metadata := some { labels }, spec := some pod })
    (hvolumes : ∀ v ∈ pod.volumes.getD [], v.ephemeral = none) : PlainValue.Members (some s) := by
  have hmetadata : PlainValue ({ labels } : Metadata) := Metadata.InstantFree.plain ⟨rfl, rfl, rfl⟩
  have hvolume : PlainValue.Members pod.volumes := by
    intro vs hvs
    rw [hvs, Option.getD_some] at hvolumes
    exact .list fun v hv => Volume.plain (hvolumes v hv ▸ PlainValue.members_none)
  refine PlainValue.members_some (DeploymentSpec.plain ?_)
  rw [htemplate]
  exact PodTemplate.plain (PlainValue.members_some hmetadata) (PlainValue.members_some (PodSpec.plain hvolume))

theorem settles_ideDeployment (s : Scope) (spec : EnvironmentSpec) :
    Overlay.Settles Overlay.deployment (Desired.ideDeployment s spec) := by
  refine Overlay.settles_deployment (deployment_plain rfl ?_) rfl
  simp [Desired.ideVolumes]

theorem settles_databaseDeployment (s : Scope) (db : Database) :
    Overlay.Settles Overlay.deployment (Desired.databaseDeployment s db) := by
  refine Overlay.settles_deployment (deployment_plain rfl ?_) rfl
  cases hengine : DatabaseEngine.ofName? db.engine <;> simp [Desired.databaseVolumes, hengine]

theorem lawful_of_mem_declarations {s : Scope} {spec : EnvironmentSpec} {stage : Stage} {d : Declaration}
    (h : d ∈ stage.declarations s spec) : d.Lawful := by
  cases stage with
  | «namespace» =>
      simp only [declarations, List.mem_cons, List.not_mem_nil, or_false] at h
      subst h
      exact lawful_createOnly rfl
  | certificate =>
      simp only [declarations, List.mem_cons, List.not_mem_nil, or_false] at h
      rcases h with rfl | rfl
      · exact lawful_createOnly rfl
      · exact lawful_createOnly rfl
  | tooling =>
      simp only [declarations, List.mem_cons, List.not_mem_nil, or_false] at h
      subst h
      exact lawful_overwrite (Overlay.settles_configMap _) rfl
  | ide =>
      simp only [declarations, List.mem_cons, List.not_mem_nil, or_false] at h
      rcases h with rfl | rfl | rfl | rfl | rfl
      · exact lawful_overwrite (Overlay.settles_claim rfl rfl rfl) rfl
      · exact lawful_overwrite (Overlay.settles_secret _) rfl
      · exact lawful_overwrite (settles_ideDeployment s spec) rfl
      · exact lawful_overwrite (Overlay.settles_service rfl) rfl
      · exact lawful_overwrite (Overlay.settles_ingress rfl) rfl
  | database =>
      simp only [declarations, List.mem_cons, List.not_mem_nil, or_false] at h
      rcases h with rfl | rfl | rfl
      · exact lawful_overwrite (Overlay.settles_claim rfl rfl rfl) rfl
      · exact lawful_overwrite (settles_databaseDeployment s spec.database) rfl
      · exact lawful_overwrite (Overlay.settles_service rfl) rfl

theorem mem_declared {s : Scope} {spec : EnvironmentSpec} {d : Declaration} (stage : Stage)
    (h : d ∈ stage.declarations s spec) : d ∈ declared s spec :=
  List.mem_flatMap.2 ⟨stage, by cases stage <;> decide, h⟩

theorem lawful_of_mem_declared {s : Scope} {spec : EnvironmentSpec} {d : Declaration} (h : d ∈ declared s spec) :
    d.Lawful := by
  obtain ⟨stage, -, hd⟩ := List.mem_flatMap.1 h
  exact lawful_of_mem_declarations hd

theorem declared_addresses (s : Scope) (spec : EnvironmentSpec) :
    (declared s spec).map Declaration.address = [
      .ofKind .namespace none (Names.dedicatedNamespace s.name),
      .ofKind .issuer (some s.namespace) Names.issuer,
      .ofKind .certificate (some s.namespace) s.host,
      .ofKind .configMap (some s.namespace) (Names.toolsConfigMap s.name),
      .ofKind .claim (some s.namespace) (Names.ideWorkspace s.name),
      .ofKind .secret (some s.namespace) (Names.idePassword s.name),
      .ofKind .deployment (some s.namespace) (Names.ideServer s.name),
      .ofKind .service (some s.namespace) (Names.ideServer s.name),
      .ofKind .ingress (some s.namespace) (Names.ideIngress s.name),
      .ofKind .claim (some s.namespace) (Names.databaseClaim s.name),
      .ofKind .deployment (some s.namespace) (Names.database s.name),
      .ofKind .service (some s.namespace) (Names.database s.name)] := rfl

theorem mem_managedObjects {s : Scope} {spec : EnvironmentSpec} {a : Address} :
    a ∈ Teardown.managedObjects s ↔ ∃ d ∈ declared s spec, d.address = a := by
  rw [← List.mem_map, declared_addresses]
  simp only [Teardown.managedObjects, List.mem_cons, List.not_mem_nil, or_false]
  tauto

theorem declared_keys_nodup (s : Scope) (spec : EnvironmentSpec) :
    ((declared s spec).map (fun d => d.address.key)).Nodup := by
  have hkeys : (declared s spec).map (fun d => d.address.key) =
      ((declared s spec).map Declaration.address).map Address.key := by
    rw [List.map_map]
    rfl
  rw [hkeys, declared_addresses]
  simp [Address.key, Address.ofKind, Kind.resource, Kind.name, Names.ideServer, Names.database, Names.ideWorkspace,
    Names.databaseClaim]

end EnvironmentOperator.Stage
