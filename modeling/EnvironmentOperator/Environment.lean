import EnvironmentOperator.Environment.Spec
import EnvironmentOperator.Environment.Status
import EnvironmentOperator.Manifest

namespace EnvironmentOperator

structure Environment where
  metadata : Metadata := {}
  spec : EnvironmentSpec
  status : Option EnvironmentStatus := none
deriving DecidableEq

instance : Manifest Environment where
  kind := .environment
  metadata x := x.metadata
  data x := Json.present [
    ("spec", some (encode x.spec)),
    ("status", x.status.map encode)]
  unreserved _ := .of_present ["spec", "status"] rfl (by decide)
  ofMembers o members := do
    let spec : Option EnvironmentSpec ← Fields.given members "spec"
    let status ← Fields.optional members "status"
    return { metadata := o.metadata.exchanged, spec := ← require "spec" spec, status }

end EnvironmentOperator
