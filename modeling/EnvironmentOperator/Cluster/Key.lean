import EnvironmentOperator.Dict
import EnvironmentOperator.Store.Address

namespace EnvironmentOperator

structure Key where
  apiVersion : String
  kind : String
  «namespace» : Option String
  name : String
deriving DecidableEq

namespace Key

def namespaceBefore : Option String → Option String → Bool
  | none, some _ => true
  | some a, some b => Text.before a b
  | _, none => false

def before (a b : Key) : Bool :=
  if a.apiVersion ≠ b.apiVersion then Text.before a.apiVersion b.apiVersion
  else if a.kind ≠ b.kind then Text.before a.kind b.kind
  else if a.namespace ≠ b.namespace then namespaceBefore a.namespace b.namespace
  else Text.before a.name b.name

instance : KeyOrder Key := ⟨before⟩

end Key

/-- Of a resource only the type counts. -/
def Address.key (a : Address) : Key := ⟨a.resource.apiVersion, a.resource.kind, a.namespace, a.name⟩

end EnvironmentOperator
