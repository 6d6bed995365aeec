import EnvironmentOperator.Json.Render
import EnvironmentOperator.Log.Filter
import EnvironmentOperator.Settings

namespace EnvironmentOperator.Log

inductive Form where
  | silent
  | json
  | text
deriving DecidableEq

def Form.name : Form → String
  | .silent => "none"
  | .json => "json"
  | .text => "text"

def filter (given : Option String) (settings : Settings) : Filter :=
  (given.bind Filter.ofText?).getD
    ((Filter.ofText? settings.logLevel).getD (Filter.ofLevel .info))

def startEvents : List Event := [
  ⟨"devenv_operator::runtime::initialization", .info, ["message"]⟩,
  ⟨"kube_client::config", .trace, ["message", "error"]⟩]

def form (given : Option String) (settings : Settings) : Form :=
  if startEvents.any (filter given settings).lets then
    if settings.logFormat.toList.map Char.toLower = "json".toList then .json else .text
  else .silent

def startMessage : String := "Starting DevEnv operator"

def startLines : Form → List String
  | .silent => []
  | .json => [(Json.object [("level", .str "INFO"), ("message", .str startMessage)]).render]
  | .text => ["INFO " ++ startMessage]

end EnvironmentOperator.Log
