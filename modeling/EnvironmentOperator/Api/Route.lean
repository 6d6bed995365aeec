import EnvironmentOperator.Api

namespace EnvironmentOperator.Api

inductive Part where
  | all
  | item (name : String)
  | status (name : String)
deriving DecidableEq

structure Route where
  kind : Kind
  «namespace» : Option String
  part : Part
deriving DecidableEq

namespace Route

def steps (path : List Char) : List String := (String.ofList path).splitOn "/"

def partOf? : List String → Option Part
  | [] => some .all
  | [name] => some (.item name)
  | [name, "status"] => some (.status name)
  | _ => none

def collectionOf? (group version plural : String) : Option Kind :=
  Kind.all.find? (fun k => decide (k.group = group ∧ k.version = version ∧ k.plural = plural))

def within? (group version : String) (ns : Option String) : List String → Option Route
  | plural :: rest => do return ⟨← collectionOf? group version plural, ns, ← partOf? rest⟩
  | [] => none

/-- A namespace is a place for collections before it is an object of its own. -/
def inVersion? (group version : String) : List String → Option Route
  | "namespaces" :: ns :: rest =>
      within? group version (some ns) rest <|> within? group version none ("namespaces" :: ns :: rest)
  | rest => within? group version none rest

def ofPath? (path : List Char) : Option Route :=
  match steps path with
  | "" :: "api" :: version :: rest => inVersion? "" version rest
  | "" :: "apis" :: group :: version :: rest => inVersion? group version rest
  | _ => none

def ofTarget? (target : String) : Option Route :=
  (Http.Target.ofText target).toOption.bind (fun t => ofPath? t.path)

def address (r : Route) (name : String) : Address := ⟨r.kind.resource, r.namespace, name⟩

end Route

end EnvironmentOperator.Api
