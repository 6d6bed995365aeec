import EnvironmentOperator.Desired.Database
import EnvironmentOperator.Desired.Ide
import EnvironmentOperator.Desired.Issuing
import EnvironmentOperator.Desired.Namespace
import EnvironmentOperator.Desired.Overlay
import EnvironmentOperator.Desired.Tools
import EnvironmentOperator.Reconcile.Ensure
import EnvironmentOperator.Reconcile.Failure

namespace EnvironmentOperator.Stage

def declarations (s : Scope) (spec : EnvironmentSpec) : Stage → List Declaration
  | .namespace => [.createOnly (Desired.dedicatedNamespace s)]
  | .certificate => [.createOnly (Desired.issuer s), .createOnly (Desired.certificate s)]
  | .tooling => [.overwrite Overlay.configMap (Desired.toolsConfigMap s spec)]
  | .ide => [
      .overwrite Overlay.claim (Desired.ideWorkspace s),
      .overwrite Overlay.secret (Desired.idePassword s spec),
      .overwrite Overlay.deployment (Desired.ideDeployment s spec),
      .overwrite Overlay.service (Desired.ideService s),
      .overwrite Overlay.ingress (Desired.ideIngress s)]
  | .database => [
      .overwrite Overlay.claim (Desired.databaseClaim s),
      .overwrite Overlay.deployment (Desired.databaseDeployment s spec.database),
      .overwrite Overlay.service (Desired.databaseService s spec.database)]

def ensureAll : List Declaration → Program Failure Unit
  | [] => .done ()
  | d :: rest => do
      let _ ← d.ensure.mapError (.during ("failed to ensure " ++ d.address.display))
      ensureAll rest

def provision (s : Scope) (spec : EnvironmentSpec) (stage : Stage) : Program Failure Unit :=
  ensureAll (stage.declarations s spec)

def provisionAll (s : Scope) (spec : EnvironmentSpec) : List Stage → Program PassError Unit
  | [] => .done ()
  | stage :: rest => do
      (stage.provision s spec).mapError (.provisioning stage)
      provisionAll s spec rest

end EnvironmentOperator.Stage
