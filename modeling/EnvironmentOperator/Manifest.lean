import EnvironmentOperator.Manifest.Object
/-!
Typed manifests. `toObject` forgets the type of a manifest and `ofObject` recovers it; metadata crosses in the
form in which it is exchanged.
-/
namespace EnvironmentOperator

class Manifest (α : Type) where
  kind : Kind
  metadata : α → Metadata
  data : α → Fields
  unreserved : ∀ x, Object.Unreserved (some ⟨kind.apiVersion, kind.name⟩) (.obj (data x))
  ofMembers : Object → Fields → Except DecodeError α

namespace Manifest

variable {α : Type} [Manifest α]

def toObject (x : α) : Object where
  types := some ⟨(kind α).apiVersion, (kind α).name⟩
  metadata := (metadata x).exchanged
  data := .obj (data x)
  unreserved := unreserved x

def ofObject (o : Object) : Except DecodeError α := do ofMembers o (← o.members)

def encode (x : α) : Json := EnvironmentOperator.encode (toObject x)

end Manifest

namespace Object

/-- A stated type must be the wanted one; one that is left out is taken to be. -/
def expect (stated : Option Json) (wanted : String) : Except DecodeError Unit :=
  match stated with
  | none => .ok ()
  | some (.str s) => if s = wanted then .ok () else .error (.wrongText s wanted)
  | some j => .error (.wrongType j "a string")

def expectApiVersion (o : Object) (k : Kind) : Except DecodeError Unit :=
  expect (o.stated "apiVersion" TypeMeta.apiVersion) k.apiVersion

def expectKind (o : Object) (k : Kind) : Except DecodeError Unit :=
  expect (o.stated "kind" TypeMeta.kind) k.name

def expectType (o : Object) (k : Kind) : Except DecodeError Unit := do
  o.expectApiVersion k
  o.expectKind k

end Object

end EnvironmentOperator
