import EnvironmentOperator.Desired.Overlay
import EnvironmentOperator.Proofs.Dict
import EnvironmentOperator.Proofs.Manifest.Faithful

namespace EnvironmentOperator

open FaithfulManifest in
/-- What an overlay keeps of the live manifest, and that it settles when it is laid once. -/
structure Overlay.Settles {α : Type} [Manifest α] [FaithfulManifest α] (lay : α → α → α) (x : α) : Prop where
  writable_desired : Writable x
  unreported : Unreported x
  writable : ∀ live, Writable (lay live x)
  metadata : ∀ live, Manifest.metadata (lay live x) =
    { Manifest.metadata live with labels := (Manifest.metadata (lay live x)).labels }
  status : ∀ live, SameStatus (lay live x) live
  again : ∀ live m, m.labels = (Manifest.metadata (lay live x)).labels →
    lay (withMetadata (lay live x) m) x = withMetadata (lay live x) m
  fresh : ∀ m, m.labels = (Manifest.metadata x).labels → lay (withMetadata x m) x = withMetadata x m

namespace Overlay

theorem configMap_self {live x : ConfigMap} (hlabels : live.metadata.labels = x.metadata.labels)
    (hdata : live.data = x.data) : configMap live x = live := by
  unfold configMap
  rw [← hlabels, ← hdata]

theorem settles_configMap (x : ConfigMap) : Settles configMap x where
  writable_desired := trivial
  unreported := trivial
  writable _ := trivial
  metadata _ := rfl
  status _ := trivial
  again _ _ hlabels := configMap_self hlabels rfl
  fresh _ hlabels := configMap_self hlabels rfl

theorem settles_secret (x : Secret) : Settles secret x where
  writable_desired := trivial
  unreported := trivial
  writable _ := trivial
  metadata _ := rfl
  status _ := trivial
  again _ _ _ := rfl
  fresh _ _ := rfl

theorem settles_deployment {x : Deployment} (h : PlainValue.Members x.spec) (hnone : x.status = none) :
    Settles deployment x where
  writable_desired := h
  unreported := hnone
  writable _ := h
  metadata _ := rfl
  status _ := rfl
  again _ _ _ := rfl
  fresh _ _ := rfl

theorem settles_ingress {x : Ingress} (hnone : x.status = none) : Settles ingress x where
  writable_desired := .of_form _
  unreported := hnone
  writable _ := .of_form _
  metadata _ := rfl
  status _ := rfl
  again _ _ _ := rfl
  fresh _ _ := rfl

theorem serviceSpec_serviceSpec (live : Option ServiceSpec) (desired : ServiceSpec) :
    serviceSpec (some (serviceSpec live desired)) desired = serviceSpec live desired := by
  simp only [serviceSpec, Option.bind_some]
  cases live.bind (·.clusterAddress) <;> cases live.bind (·.clusterAddresses) <;>
    cases desired.clusterAddress <;> cases desired.clusterAddresses <;> rfl

theorem serviceSpec_self (desired : ServiceSpec) : serviceSpec (some desired) desired = desired := by
  have hself {α : Type} (v : Option α) : (v <|> v) = v := by cases v <;> rfl
  simp only [serviceSpec, Option.bind_some, hself]

theorem map_serviceSpec_again (live desired : Option ServiceSpec) :
    desired.map (serviceSpec (desired.map (serviceSpec live))) = desired.map (serviceSpec live) := by
  cases desired with
  | none => rfl
  | some s => exact congrArg some (serviceSpec_serviceSpec live s)

theorem map_serviceSpec_self (desired : Option ServiceSpec) : desired.map (serviceSpec desired) = desired := by
  cases desired with
  | none => rfl
  | some s => exact congrArg some (serviceSpec_self s)

theorem settles_service {x : Service} (hnone : x.status = none) : Settles service x where
  writable_desired := .of_form _
  unreported := hnone
  writable _ := .of_form _
  metadata _ := rfl
  status _ := rfl
  again live m _ := congrArg (Service.mk m · live.status) (map_serviceSpec_again live.spec x.spec)
  fresh m _ := congrArg (Service.mk m · x.status) (map_serviceSpec_self x.spec)

theorem lt_self (x : Binary64) : x.lt x = false := by
  cases x <;> simp [Binary64.lt]

theorem keepsLive_self (q : Option Quantity) : keepsLive q q = false := by
  unfold keepsLive
  cases q.bind storageBytes? with
  | none => rfl
  | some b => exact lt_self b

def chosen (current : Option Quantity) (wanted : Named Quantity) : Named Quantity :=
  match current with
  | some size => if keepsLive current (wanted.at? "storage") then wanted.put "storage" size else wanted
  | none => wanted

theorem requests_eq (live desired : Claim) :
    requests live desired = (requestsOf desired).map (chosen ((requestsOf live).bind (·.at? "storage"))) := by
  unfold requests chosen
  cases (requestsOf live).bind (·.at? "storage") <;> rfl

theorem chosen_self (wanted : Named Quantity) : chosen (wanted.at? "storage") wanted = wanted := by
  unfold chosen
  cases hsize : wanted.at? "storage" with
  | none => rfl
  | some size => simp [keepsLive_self]

theorem chosen_chosen (current : Option Quantity) (wanted : Named Quantity) :
    chosen ((chosen current wanted).at? "storage") wanted = chosen current wanted := by
  cases current with
  | none => exact chosen_self wanted
  | some size =>
      by_cases hkeep : keepsLive (some size) (wanted.at? "storage") = true
      · have hchosen : chosen (some size) wanted = wanted.put "storage" size := if_pos hkeep
        have hsize : (wanted.put "storage" size).at? "storage" = some size := by
          simp [Named.at?, Named.put, Dict.at?_put]
        rw [hchosen, hsize, hchosen]
      · have hchosen : chosen (some size) wanted = wanted := if_neg hkeep
        rw [hchosen, chosen_self]

theorem requests_again {live live' desired : Claim} (h : requestsOf live' = requests live desired) :
    requests live' desired = requests live desired := by
  rw [requests_eq, h, requests_eq]
  cases requestsOf desired with
  | none => rfl
  | some wanted => exact congrArg some (chosen_chosen _ wanted)

theorem requests_self {live desired : Claim} (h : requestsOf live = requestsOf desired) :
    requests live desired = requestsOf desired := by
  rw [requests_eq, h]
  cases requestsOf desired with
  | none => rfl
  | some wanted => exact congrArg some (chosen_self wanted)

theorem requestsOf_of_spec {c : Claim} {spec : ClaimSpec} {resources : ClaimResources} (hspec : c.spec = some spec)
    (hresources : spec.resources = some resources) : requestsOf c = resources.requests := by
  simp [requestsOf, hspec, hresources]

theorem requestsOf_claim (live desired : Claim) : requestsOf (claim live desired) = requests live desired := by
  cases hlive : live.spec with
  | some s =>
      simp only [claim, hlive]
      rfl
  | none =>
      have hrequests : requestsOf live = none := by simp [requestsOf, hlive]
      have hlaid : requestsOf (claim live desired) = requestsOf desired := by
        simp only [claim, hlive]
        rfl
      rw [requests_eq, hrequests, hlaid]
      cases requestsOf desired <;> rfl

theorem claim_of_requests {live desired : Claim} {spec : ClaimSpec} {resources : ClaimResources}
    (hspec : live.spec = some spec) (hresources : spec.resources = some resources)
    (hrequests : requests live desired = resources.requests) : claim live desired = live := by
  obtain ⟨_, _, _⟩ := live
  cases spec
  cases resources
  simp_all [claim]

theorem claim_again {x : Claim} {spec : ClaimSpec} {resources : ClaimResources} (hspec : x.spec = some spec)
    (hresources : spec.resources = some resources) (live : Claim) (m : Metadata) :
    claim { claim live x with metadata := m } x = { claim live x with metadata := m } := by
  cases hlive : live.spec with
  | none =>
      have hlaid : claim live x = { live with spec := x.spec } := by simp only [claim, hlive]
      rw [hlaid]
      exact claim_of_requests hspec hresources ((requests_self rfl).trans (requestsOf_of_spec hspec hresources))
  | some s =>
      have hlaid : claim live x = { live with spec := some { s with
          resources := some { s.resources.getD {} with requests := requests live x } } } := by
        simp only [claim, hlive]
      rw [hlaid]
      exact claim_of_requests rfl rfl (requests_again rfl)

theorem settles_claim {x : Claim} {spec : ClaimSpec} {resources : ClaimResources} (hspec : x.spec = some spec)
    (hresources : spec.resources = some resources) (hnone : x.status = none) : Settles claim x where
  writable_desired := .of_form _
  unreported := hnone
  writable _ := .of_form _
  metadata live := by
    cases hlive : live.spec <;> simp [claim, hlive] <;> rfl
  status live := by
    cases hlive : live.spec <;> simp [claim, hlive] <;> rfl
  again live m _ := claim_again hspec hresources live m
  fresh m _ :=
    claim_of_requests hspec hresources ((requests_self rfl).trans (requestsOf_of_spec hspec hresources))

end Overlay

end EnvironmentOperator
