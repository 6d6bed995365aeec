import EnvironmentOperator.Manifest

namespace EnvironmentOperator

structure Secret where
  metadata : Metadata := {}
  data : Option (Named Bytes) := none
  immutable : Option Bool := none
  stringData : Option (Named String) := none
  type : Option String := none
deriving DecidableEq

instance : Manifest Secret where
  kind := .secret
  metadata x := x.metadata
  data x := Json.present [
    ("data", x.data.map encode),
    ("immutable", x.immutable.map encode),
    ("stringData", x.stringData.map encode),
    ("type", x.type.map encode)]
  unreserved _ := .of_present ["data", "immutable", "stringData", "type"] rfl (by decide)
  ofMembers o members := do
    o.expectApiVersion .secret
    let data ← Fields.optional members "data"
    let immutable ← Fields.optional members "immutable"
    o.expectKind .secret
    let stringData ← Fields.optional members "stringData"
    let type ← Fields.optional members "type"
    return { metadata := o.metadata.exchanged, data, immutable, stringData, type }

end EnvironmentOperator
