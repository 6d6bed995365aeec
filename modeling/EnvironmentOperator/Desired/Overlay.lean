import EnvironmentOperator.Binary64
import EnvironmentOperator.Manifest.Claim
import EnvironmentOperator.Manifest.ConfigMap
import EnvironmentOperator.Manifest.Deployment
import EnvironmentOperator.Manifest.Ingress
import EnvironmentOperator.Manifest.Secret
import EnvironmentOperator.Manifest.Service
import EnvironmentOperator.Power
import EnvironmentOperator.Text.Blank
/-!
Laying a desired object over a live one. The operator owns a portion of each kind and puts the desired portion
in place whole; all else stays as it is on the live object.
-/
namespace EnvironmentOperator.Overlay

def deployment (live desired : Deployment) : Deployment := { live with spec := desired.spec }

def ingress (live desired : Ingress) : Ingress := { live with spec := desired.spec }

def secret (live desired : Secret) : Secret := { live with data := desired.data }

def configMap (live desired : ConfigMap) : ConfigMap :=
  { live with data := desired.data, metadata := { live.metadata with labels := desired.metadata.labels } }

/-- Cluster addresses are assigned once and stay with the service. -/
def serviceSpec (live : Option ServiceSpec) (desired : ServiceSpec) : ServiceSpec :=
  { desired with
    clusterAddress := live.bind (·.clusterAddress) <|> desired.clusterAddress
    clusterAddresses := live.bind (·.clusterAddresses) <|> desired.clusterAddresses }

def service (live desired : Service) : Service :=
  { live with spec := desired.spec.map (serviceSpec live.spec) }

def unitBytes? : String → Option Nat
  | "" => some 1
  | "Ki" => some 1024
  | "Mi" => some (kibiTo 2)
  | "Gi" => some (kibiTo 3)
  | "Ti" => some (kibiTo 4)
  | "Pi" => some (kibiTo 5)
  | "Ei" => some (kibiTo 6)
  | "k" => some (tenTo 3)
  | "M" => some (tenTo 6)
  | "G" => some (tenTo 9)
  | "T" => some (tenTo 12)
  | "P" => some (tenTo 15)
  | "E" => some (tenTo 18)
  | _ => none

/-- A number and a unit, where the unit begins at the first letter. -/
def storageBytes? (q : Quantity) : Option Binary64 :=
  let cs := Text.trimBlank q.text.toList
  let number := cs.takeWhile (fun c => !c.isAlpha)
  let unit := String.ofList (cs.dropWhile (fun c => !c.isAlpha))
  match unitBytes? unit, Binary64.ofDigits? number with
  | some scale, some n => some (n.times scale)
  | _, _ => none

/-- A live request is kept when both sizes can be read and it is the larger: a volume cannot shrink. -/
def keepsLive (live wanted : Option Quantity) : Bool :=
  match live.bind storageBytes?, wanted.bind storageBytes? with
  | some current, some wanted => wanted.lt current
  | _, _ => false

def requestsOf (c : Claim) : Option (Named Quantity) := do
  let spec ← c.spec
  let resources ← spec.resources
  resources.requests

def requests (live desired : Claim) : Option (Named Quantity) :=
  let current := (requestsOf live).bind (·.at? "storage")
  (requestsOf desired).map (fun wanted =>
    match current with
    | some size => if keepsLive current (wanted.at? "storage") then wanted.put "storage" size else wanted
    | none => wanted)

/-- Of a claim only the requests can change once it is bound. -/
def claim (live desired : Claim) : Claim :=
  match live.spec with
  | some spec =>
      { live with spec := some { spec with
          resources := some { spec.resources.getD {} with requests := requests live desired } } }
  | none => { live with spec := desired.spec }

theorem deployment_deployment (live desired : Deployment) :
    deployment (deployment live desired) desired = deployment live desired := rfl

theorem ingress_ingress (live desired : Ingress) :
    ingress (ingress live desired) desired = ingress live desired := rfl

theorem secret_secret (live desired : Secret) :
    secret (secret live desired) desired = secret live desired := rfl

theorem configMap_configMap (live desired : ConfigMap) :
    configMap (configMap live desired) desired = configMap live desired := rfl

end EnvironmentOperator.Overlay
