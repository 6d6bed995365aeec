import EnvironmentOperator.Manifest
import EnvironmentOperator.Store.Address
import EnvironmentOperator.Store.Error

namespace EnvironmentOperator

inductive Verb where
  | get
  | create
  | replace
  | delete
  | patchStatus
deriving DecidableEq

namespace Verb

def all : List Verb := [.get, .create, .replace, .delete, .patchStatus]

def name : Verb → String
  | .get => "get"
  | .create => "create"
  | .replace => "replace"
  | .delete => "delete"
  | .patchStatus => "patch-status"

end Verb

inductive Call where
  | get (address : Address)
  | create (resource : Resource) (object : Object)
  | replace (resource : Resource) (object : Object)
  | delete (address : Address)
  | patchStatus (address : Address) (status : Json)
deriving DecidableEq

namespace Call

def Answer : Call → Type
  | .get _ => Object
  | .create _ _ => Object
  | .replace _ _ => Object
  | .delete _ => Unit
  | .patchStatus _ _ => Unit

def verb : Call → Verb
  | .get _ => .get
  | .create _ _ => .create
  | .replace _ _ => .replace
  | .delete _ => .delete
  | .patchStatus _ _ => .patchStatus

/-- An object that is sent is kept under the name and namespace that it bears. -/
def addressOf (resource : Resource) (o : Object) : Address :=
  ⟨resource, o.metadata.namespace, o.metadata.nameText⟩

def address : Call → Address
  | .get a => a
  | .create resource o => addressOf resource o
  | .replace resource o => addressOf resource o
  | .delete a => a
  | .patchStatus a _ => a

end Call

namespace Object

def typed (α : Type) [Manifest α] (o : Object) : Except StoreError α :=
  (Manifest.ofObject o).mapError (.unreadable (Manifest.kind α).name)

end Object

end EnvironmentOperator
