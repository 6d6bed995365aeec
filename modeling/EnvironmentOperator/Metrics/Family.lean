import EnvironmentOperator.Dict

namespace EnvironmentOperator

inductive FamilyKind where
  | counter
  | histogram
deriving DecidableEq

def FamilyKind.name : FamilyKind → String
  | .counter => "counter"
  | .histogram => "histogram"

structure Family where
  name : String
  help : String
  kind : FamilyKind := .counter
  labels : List String := []
deriving DecidableEq

namespace Family

def all : List Family := [
  { name := "devenv_reconciliations_total", help := "Total number of reconciliation passes" },
  { name := "devenv_reconciliation_errors_total"
    help := "Total number of reconciliation passes that ended in an error" },
  { name := "devenv_reconciliation_duration_seconds"
    help := "Duration of reconciliation in seconds"
    kind := .histogram },
  { name := "devenv_objects_applied_total"
    help := "Owned objects ensured during provisioning"
    labels := ["kind", "outcome"] },
  { name := "devenv_objects_deleted_total"
    help := "Owned objects deleted during teardown"
    labels := ["kind"] },
  { name := "devenv_teardowns_total"
    help := "Environments whose owned objects were removed and finalizer released" },
  { name := "devenv_requeues_total", help := "Requeue decisions by reason", labels := ["reason"] }]

def announcement (f : Family) : List String :=
  ["# HELP " ++ f.name ++ " " ++ f.help, "# TYPE " ++ f.name ++ " " ++ f.kind.name]

end Family

inductive RegistrationError where
  | duplicate (name : String)
deriving DecidableEq

def RegistrationError.message : RegistrationError → String
  | .duplicate _ => "Duplicate metrics collector registration attempted"

abbrev Registry := Dict String Family

namespace Registry

def register (r : Registry) (f : Family) : Except RegistrationError Registry :=
  if Dict.has r f.name then .error (.duplicate f.name) else .ok (Dict.put r f.name f)

def registerAll (r : Registry) : List Family → Except RegistrationError Registry
  | [] => .ok r
  | f :: rest => do
      let r ← register r f
      registerAll r rest

def unlabelled (r : Registry) : List Family := (Dict.values r).filter (fun f => f.labels.isEmpty)

def full : Registry := Dict.ofList (Family.all.map (fun f => (f.name, f)))

theorem register_registered (r : Registry) (f : Family) (h : Dict.has r f.name = true) :
    register r f = .error (.duplicate f.name) := by
  simp [register, h]

end Registry

end EnvironmentOperator
