import EnvironmentOperator.Manifest.Namespace
import EnvironmentOperator.Scope

namespace EnvironmentOperator.Desired

def manager : String := "devenv-operator"

def dedicatedNamespace (s : Scope) : Namespace where
  metadata := {
    name := some (Names.dedicatedNamespace s.name)
    labels := some (.ofList [("managed-by", manager), ("environment", s.name)]) }

end EnvironmentOperator.Desired
