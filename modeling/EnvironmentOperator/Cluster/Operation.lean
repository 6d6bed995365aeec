import EnvironmentOperator.Cluster
import EnvironmentOperator.Environment
import EnvironmentOperator.Json.Edit
import EnvironmentOperator.Manifest.Claim
import EnvironmentOperator.Manifest.ConfigMap
import EnvironmentOperator.Manifest.Deployment
import EnvironmentOperator.Manifest.Ingress
import EnvironmentOperator.Manifest.Issuing
import EnvironmentOperator.Manifest.Namespace
import EnvironmentOperator.Manifest.Secret
import EnvironmentOperator.Manifest.Service

namespace EnvironmentOperator

namespace Object

def normalized (α : Type) [Manifest α] (o : Object) : Except StoreError Object :=
  (o.typed α).map Manifest.toObject

def normalizedAs (k : Kind) (o : Object) : Except StoreError Object :=
  match k with
  | .namespace => o.normalized Namespace
  | .configMap => o.normalized ConfigMap
  | .secret => o.normalized Secret
  | .service => o.normalized Service
  | .claim => o.normalized Claim
  | .deployment => o.normalized Deployment
  | .ingress => o.normalized Ingress
  | .issuer => o.normalized Issuer
  | .certificate => o.normalized Certificate
  | .environment => o.normalized Environment

end Object

structure PlaceChange where
  path : List Json.Step
  value : Option Json
deriving DecidableEq

inductive Operation where
  | create (resource : Resource) (object : Object)
  | replace (resource : Resource) (object : Object)
  | get (address : Address)
  | getTyped (kind : Kind) («namespace» : Option String) (name : String)
  | peek (address : Address)
  | edit (address : Address) (changes : Option (List PlaceChange))
  | delete (address : Address)
  | patchStatus (address : Address) (status : Json)
  | plant (fault : Fault)
  | clearFaults
  | contains (address : Address)
  | objects
  | size
deriving DecidableEq

namespace Operation

inductive Error where
  | store (cause : StoreError)
  | noSuchObject
  | malformedChange
  | unreadable (cause : DecodeError)
deriving DecidableEq

inductive Reply where
  | done
  | object (o : Object)
  | nothing
  | answer (b : Bool)
  | objects (os : List Object)
  | size (objects mutations : Nat)
deriving DecidableEq

def applyChanges (j : Json) : List PlaceChange → Option Json
  | [] => some j
  | change :: rest => do
      let j ← Json.edit change.value change.path j
      applyChanges j rest

def edited (o : Object) (changes : Option (List PlaceChange)) : Except Error Object := do
  let j ← o.toJson.mapError .unreadable
  match changes.bind (applyChanges j) with
  | none => .error .malformedChange
  | some j => (decode j).mapError .unreadable

def ofObject (r : Except StoreError Object × Cluster) : Except Error Reply × Cluster :=
  (r.1.map .object |>.mapError .store, r.2)

def ofUnit (r : Except StoreError Unit × Cluster) : Except Error Reply × Cluster :=
  (r.1.map (fun _ => .done) |>.mapError .store, r.2)

def perform (now : Instant) (c : Cluster) : Operation → Except Error Reply × Cluster
  | .create resource o => ofObject (c.answer now (.create resource o))
  | .replace resource o => ofObject (c.answer now (.replace resource o))
  | .get a => ofObject (c.answer now (.get a))
  | .getTyped kind ns name =>
      let (r, c) := c.answer now (.get (.ofKind kind ns name))
      ofObject (r.bind (Object.normalizedAs kind), c)
  | .peek a => (.ok ((c.find? a.key).elim .nothing .object), c)
  | .edit a changes =>
      match c.find? a.key with
      | none => (.error .noSuchObject, c)
      | some o =>
          match edited o changes with
          | .error e => (.error e, c)
          | .ok o => ofObject (c.answer now (.replace a.resource o))
  | .delete a => ofUnit (c.answer now (.delete a))
  | .patchStatus a status => ofUnit (c.answer now (.patchStatus a status))
  | .plant fault => (.ok .done, c.plant fault)
  | .clearFaults => (.ok .done, c.clearFaults)
  | .contains a => (.ok (.answer (c.contains a)), c)
  | .objects => (.ok (.objects (Dict.values c.objects)), c)
  | .size => (.ok (.size c.size c.mutations), c)

end Operation

end EnvironmentOperator
