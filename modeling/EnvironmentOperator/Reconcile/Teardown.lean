import EnvironmentOperator.Program
import EnvironmentOperator.Reconcile.Failure
import EnvironmentOperator.Scope
/-!
Deleting everything that may have been created for an environment. An object that is not there counts as deleted;
any other refusal ends the teardown. The issuer goes too, although others may use it: their next pass makes it
again.
-/
namespace EnvironmentOperator.Teardown

/-- Every object of an environment, in the order of deletion. -/
def managedObjects (s : Scope) : List Address :=
  let ns := some s.namespace
  [.ofKind .namespace none (Names.dedicatedNamespace s.name),
    .ofKind .deployment ns (Names.ideServer s.name),
    .ofKind .service ns (Names.ideServer s.name),
    .ofKind .secret ns (Names.idePassword s.name),
    .ofKind .ingress ns (Names.ideIngress s.name),
    .ofKind .configMap ns (Names.toolsConfigMap s.name),
    .ofKind .claim ns (Names.ideWorkspace s.name),
    .ofKind .issuer ns Names.issuer,
    .ofKind .certificate ns s.host,
    .ofKind .deployment ns (Names.database s.name),
    .ofKind .service ns (Names.database s.name),
    .ofKind .claim ns (Names.databaseClaim s.name)]

def deleteAll : List Address → Program Failure Unit
  | [] => .done ()
  | a :: rest => do
      let deleted : Except StoreError Unit ← Program.attempt (.delete a)
      match deleted with
      | .ok () => do
          Program.count (.deleted a.resource.kind)
          deleteAll rest
      | .error e =>
          if e.isNotFound then deleteAll rest
          else .fail (.during ("failed to delete " ++ a.display) e)

def teardown (s : Scope) : Program Failure Unit := deleteAll (managedObjects s)

end EnvironmentOperator.Teardown
