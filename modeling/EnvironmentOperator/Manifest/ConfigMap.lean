import EnvironmentOperator.Manifest

namespace EnvironmentOperator

structure ConfigMap where
  metadata : Metadata := {}
  binaryData : Option (Named Bytes) := none
  data : Option (Named String) := none
  immutable : Option Bool := none
deriving DecidableEq

instance : Manifest ConfigMap where
  kind := .configMap
  metadata x := x.metadata
  data x := Json.present [
    ("binaryData", x.binaryData.map encode),
    ("data", x.data.map encode),
    ("immutable", x.immutable.map encode)]
  unreserved _ := .of_present ["binaryData", "data", "immutable"] rfl (by decide)
  ofMembers o members := do
    o.expectApiVersion .configMap
    let binaryData ← Fields.optional members "binaryData"
    let data ← Fields.optional members "data"
    let immutable ← Fields.optional members "immutable"
    o.expectKind .configMap
    return { metadata := o.metadata.exchanged, binaryData, data, immutable }

end EnvironmentOperator
