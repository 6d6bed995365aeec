import EnvironmentOperator.Proofs.Desired.Overlay
import EnvironmentOperator.Proofs.Desired.References

namespace EnvironmentOperator.Overlay

structure Owns {α π ρ : Type} (lay : α → α → α) (x : α) (portion : α → π) (rest : α → ρ) (fits : α → π → Prop) :
    Prop where
  puts : ∀ live, fits live (portion (lay live x))
  leaves : ∀ live, rest (lay live x) = rest live
  again : ∀ live, lay (lay live x) x = lay live x
  whole : ∀ a b, portion a = portion b → rest a = rest b → a = b

theorem owns_deployment (x : Deployment) :
    Owns deployment x (·.spec) (fun d => (d.metadata, d.status)) (fun _ spec => spec = x.spec) where
  puts _ := rfl
  leaves _ := rfl
  again live := deployment_deployment live x
  whole a b hspec hrest := by
    cases a
    cases b
    cases hspec
    cases hrest
    rfl

theorem owns_ingress (x : Ingress) :
    Owns ingress x (·.spec) (fun i => (i.metadata, i.status)) (fun _ spec => spec = x.spec) where
  puts _ := rfl
  leaves _ := rfl
  again live := ingress_ingress live x
  whole a b hspec hrest := by
    cases a
    cases b
    cases hspec
    cases hrest
    rfl

theorem owns_secret (x : Secret) :
    Owns secret x (·.data) (fun y => (y.metadata, y.immutable, y.stringData, y.type))
      (fun _ data => data = x.data) where
  puts _ := rfl
  leaves _ := rfl
  again live := secret_secret live x
  whole a b hdata hrest := by
    cases a
    cases b
    cases hdata
    cases hrest
    rfl

theorem eq_of_unlabelled {m m' : Metadata} (h : ({ m with labels := none } : Metadata) = { m' with labels := none })
    (hlabels : m.labels = m'.labels) : m = m' := by
  cases m
  cases m'
  cases hlabels
  simpa only [Metadata.mk.injEq, true_and] using h

theorem owns_configMap (x : ConfigMap) :
    Owns configMap x (fun m => (m.data, m.metadata.labels))
      (fun m => (({ m.metadata with labels := none } : Metadata), m.binaryData, m.immutable))
      (fun _ portion => portion = (x.data, x.metadata.labels)) where
  puts _ := rfl
  leaves _ := rfl
  again live := configMap_configMap live x
  whole a b hportion hrest := by
    obtain ⟨m, _, _, _⟩ := a
    obtain ⟨m', _, _, _⟩ := b
    obtain ⟨hdata, hlabels⟩ := Prod.mk.inj hportion
    obtain ⟨hmetadata, hothers⟩ := Prod.mk.inj hrest
    cases eq_of_unlabelled hmetadata hlabels
    cases hdata
    cases hothers
    rfl

structure Addressed (live : Option ServiceSpec) (wanted laid : ServiceSpec) : Prop where
  address : laid.clusterAddress = (live.bind (·.clusterAddress)).or wanted.clusterAddress
  addresses : laid.clusterAddresses = (live.bind (·.clusterAddresses)).or wanted.clusterAddresses
  others : { laid with clusterAddress := none, clusterAddresses := none } =
    { wanted with clusterAddress := none, clusterAddresses := none }

theorem addressed_serviceSpec (live : Option ServiceSpec) (wanted : ServiceSpec) :
    Addressed live wanted (serviceSpec live wanted) where
  address := by cases h : live.bind (·.clusterAddress) <;> simp [serviceSpec, h]
  addresses := by cases h : live.bind (·.clusterAddresses) <;> simp [serviceSpec, h]
  others := rfl

theorem owns_service {x : Service} {wanted : ServiceSpec} (h : x.spec = some wanted) :
    Owns service x (·.spec) (fun y => (y.metadata, y.status))
      (fun live spec => ∃ laid, spec = some laid ∧ Addressed live.spec wanted laid) where
  puts live := ⟨_, congrArg (·.map (serviceSpec live.spec)) h, addressed_serviceSpec live.spec wanted⟩
  leaves _ := rfl
  again live := congrArg (Service.mk live.metadata · live.status) (map_serviceSpec_again live.spec x.spec)
  whole a b hspec hrest := by
    cases a
    cases b
    cases hspec
    cases hrest
    rfl

/-- Of a claim only the requests are owned, and of them the size gives way to the live one if that is kept. A claim
that has no spec yet takes the whole one. -/
structure OwnsRequests (x : Claim) (wanted : Named Quantity) : Prop where
  puts : ∀ live, requestsOf (claim live x) = some wanted ∨ ∃ size,
    (requestsOf live).bind (·.at? "storage") = some size ∧
      requestsOf (claim live x) = some (wanted.put "storage" size)
  leaves : ∀ live, (claim live x).metadata = live.metadata ∧ (claim live x).status = live.status
  spec : ∀ live spec, live.spec = some spec → ∃ laid, (claim live x).spec = some laid ∧
    { laid with resources := none } = { spec with resources := none } ∧
    laid.resources.bind (·.limits) = spec.resources.bind (·.limits)
  bare : ∀ live, live.spec = none → (claim live x).spec = x.spec
  again : ∀ live, claim (claim live x) x = claim live x

theorem chosen_cases (current : Option Quantity) (wanted : Named Quantity) :
    chosen current wanted = wanted ∨
      ∃ size, current = some size ∧ chosen current wanted = wanted.put "storage" size := by
  cases current with
  | none => exact .inl rfl
  | some size =>
      by_cases hkeep : keepsLive (some size) (wanted.at? "storage") = true
      · exact .inr ⟨size, rfl, if_pos hkeep⟩
      · exact .inl (if_neg hkeep)

theorem ownsRequests {x : Claim} {spec : ClaimSpec} {resources : ClaimResources} {wanted : Named Quantity}
    (hspec : x.spec = some spec) (hresources : spec.resources = some resources)
    (hrequests : resources.requests = some wanted) : OwnsRequests x wanted where
  puts live := by
    have hwanted : requestsOf x = some wanted := (requestsOf_of_spec hspec hresources).trans hrequests
    rw [requestsOf_claim, requests_eq, hwanted]
    rcases chosen_cases ((requestsOf live).bind (·.at? "storage")) wanted with hchosen | ⟨size, hsize, hchosen⟩
    · exact .inl (congrArg some hchosen)
    · exact .inr ⟨size, hsize, congrArg some hchosen⟩
  leaves live := by
    cases hlive : live.spec <;> simp [claim, hlive]
  spec live spec' hlive := by
    refine ⟨{ spec' with resources := some { spec'.resources.getD {} with requests := requests live x } }, ?_, rfl, ?_⟩
    · simp only [claim, hlive]
    · cases spec'.resources <;> rfl
  bare live hlive := by simp only [claim, hlive]
  again live := claim_again hspec hresources live (claim live x).metadata

structure Portions (u : Suite) : Prop where
  deployments : ∀ x ∈ u.deployments,
    Owns deployment x (·.spec) (fun d => (d.metadata, d.status)) (fun _ spec => spec = x.spec)
  ingresses : ∀ x ∈ u.ingresses,
    Owns ingress x (·.spec) (fun i => (i.metadata, i.status)) (fun _ spec => spec = x.spec)
  secrets : ∀ x ∈ u.secrets,
    Owns secret x (·.data) (fun y => (y.metadata, y.immutable, y.stringData, y.type)) (fun _ data => data = x.data)
  configMaps : ∀ x ∈ u.configMaps,
    Owns configMap x (fun m => (m.data, m.metadata.labels))
      (fun m => (({ m.metadata with labels := none } : Metadata), m.binaryData, m.immutable))
      (fun _ portion => portion = (x.data, x.metadata.labels))
  services : ∀ x ∈ u.services, ∃ wanted, x.spec = some wanted ∧
    Owns service x (·.spec) (fun y => (y.metadata, y.status))
      (fun live spec => ∃ laid, spec = some laid ∧ Addressed live.spec wanted laid)
  claims : ∀ x ∈ u.claims, ∃ wanted, requestsOf x = some wanted ∧ OwnsRequests x wanted

theorem owns_portions (s : Scope) (spec : EnvironmentSpec) : Portions (Suite.ofScope s spec) where
  deployments x _ := owns_deployment x
  ingresses x _ := owns_ingress x
  secrets x _ := owns_secret x
  configMaps x _ := owns_configMap x
  services x hx := by
    rcases Suite.mem_services.1 hx with rfl | rfl
    · exact ⟨_, rfl, owns_service rfl⟩
    · exact ⟨_, rfl, owns_service rfl⟩
  claims x hx := by
    rcases Suite.mem_claims.1 hx with rfl | rfl
    · exact ⟨_, rfl, ownsRequests rfl rfl rfl⟩
    · exact ⟨_, rfl, ownsRequests rfl rfl rfl⟩

end EnvironmentOperator.Overlay
