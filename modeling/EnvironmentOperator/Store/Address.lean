import EnvironmentOperator.Manifest.Kind

namespace EnvironmentOperator

structure Address where
  resource : Resource
  «namespace» : Option String
  name : String
deriving DecidableEq

namespace Address

def ofKind (k : Kind) (ns : Option String) (name : String) : Address := ⟨k.resource, ns, name⟩

def place (ns : Option String) (name : String) : String :=
  match ns with
  | some ns => ns ++ "/" ++ name
  | none => name

def display (a : Address) : String := a.resource.kind ++ " " ++ place a.namespace a.name

end Address

end EnvironmentOperator
