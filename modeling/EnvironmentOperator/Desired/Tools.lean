import EnvironmentOperator.Manifest.ConfigMap
import EnvironmentOperator.Scope
import EnvironmentOperator.Script

namespace EnvironmentOperator.Desired

def scriptKey : String := "install-tools.sh"

def toolsConfigMap (s : Scope) (spec : EnvironmentSpec) : ConfigMap where
  metadata := {
    name := some (Names.toolsConfigMap s.name)
    «namespace» := some s.namespace
    labels := some (.ofList [
      ("developer-env", s.name), ("developer-env-uid", s.uid), ("app", "development-tools")]) }
  data := some (.ofList [(scriptKey, Script.render spec)])

end EnvironmentOperator.Desired
