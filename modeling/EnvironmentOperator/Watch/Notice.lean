import EnvironmentOperator.Cluster
import EnvironmentOperator.Environment
/-!
What a watch on the environments of a cluster tells: every environment that has come to be different, and every
one that has gone. A notice carries the object as it is stored; it may turn out not to be an environment at all.
-/
namespace EnvironmentOperator

inductive Notice where
  | stored (key : Key) (o : Object)
  | removed (key : Key) (last : Object)
deriving DecidableEq

namespace Key

def isEnvironment (k : Key) : Bool := decide (k = (Address.ofKind .environment k.namespace k.name).key)

def isWatched (watched : Option String) (k : Key) : Bool :=
  k.isEnvironment && match watched with
    | some ns => decide (k.namespace = some ns)
    | none => true

end Key

namespace Notice

def object : Notice → Object
  | .stored _ o => o
  | .removed _ o => o

def environment? (n : Notice) : Option Environment := (n.object.typed Environment).toOption

end Notice

namespace Cluster

def environments (c : Cluster) (watched : Option String) : Dict Key Object :=
  c.objects.filter (fun e => e.1.isWatched watched)

def notices (watched : Option String) (before after : Cluster) : List Notice :=
  let old := before.environments watched
  let new := after.environments watched
  let stored := new.filter (fun e => decide (Dict.at? old e.1 ≠ some e.2))
  let removed := old.filter (fun e => !Dict.has new e.1)
  stored.map (fun e => .stored e.1 e.2) ++ removed.map (fun e => .removed e.1 e.2)

end Cluster

end EnvironmentOperator
