import EnvironmentOperator.Cluster.Key
import EnvironmentOperator.Json.MergePatch
import EnvironmentOperator.Json.Zero
import EnvironmentOperator.Program
/-!
A cluster held in memory, with the rules of a live one. Every change takes the next version number; a write that
changes nothing takes none. A replace names the version it was computed from and is refused when that has passed.
Deleting an object that still has finalizers only marks it, and it goes when the last of them does. The status is
written by its own call and by no other. Faults can be planted to make chosen calls fail.
-/
namespace EnvironmentOperator

inductive FaultEffect where
  | refuse
  | conflictOnce
deriving DecidableEq

structure Fault where
  verb : Verb
  kind : String
  name : String
  effect : FaultEffect
deriving DecidableEq

structure Cluster where
  objects : Dict Key Object := []
  faults : List Fault := []
  lastVersion : Nat := 0
  mutations : Nat := 0
deriving DecidableEq

namespace Cluster

def find? (c : Cluster) (k : Key) : Option Object := Dict.at? c.objects k

def Concerns (f : Fault) (verb : Verb) (kind name : String) : Prop :=
  f.verb = verb ∧ f.kind = kind ∧ f.name = name

instance (f : Fault) (verb : Verb) (kind name : String) : Decidable (Concerns f verb kind name) := by
  unfold Concerns; infer_instance

/-- The first fault planted for the call, if there is one. A fault that strikes once is used up. -/
def strike (c : Cluster) (verb : Verb) (kind name : String) : Option StoreError × Cluster :=
  match c.faults.find? (fun f => decide (Concerns f verb kind name)) with
  | none => (none, c)
  | some f =>
      match f.effect with
      | .refuse => (some (.rejected verb.name kind name "injected fault"), c)
      | .conflictOnce =>
          (some (.conflict kind name
              "the object has been modified; please apply your changes to the latest version"),
            { c with faults := c.faults.eraseP (fun f => decide (Concerns f verb kind name)) })

def commit (c : Cluster) (objects : Dict Key Object) : Cluster :=
  { c with objects := objects, lastVersion := c.lastVersion + 1, mutations := c.mutations + 1 }

def nextVersion (c : Cluster) : String := Text.decimal (c.lastVersion + 1)

def admitted (c : Cluster) (o : Object) : Object :=
  { o with metadata := { o.metadata with
      uid := some ("uid-" ++ c.nextVersion)
      resourceVersion := some c.nextVersion
      generation := some 1
      deletionTimestamp := none } }

/-- The data with the status that is stored, where both have a place for one. -/
def keptStatus (stored data : Json) : Json :=
  match stored.member? "status" with
  | some status => data.withMember "status" status
  | none => data

def carried (current o : Object) : Object :=
  { o with
    metadata := { o.metadata with
      uid := current.metadata.uid
      deletionTimestamp := current.metadata.deletionTimestamp
      resourceVersion := current.metadata.resourceVersion
      generation := current.metadata.generation }
    data := keptStatus current.data o.data
    unreserved := by
      unfold keptStatus
      cases current.data.member? "status" with
      | none => exact o.unreserved
      | some status => exact o.unreserved.withStatus status }

/-- The metadata that two objects have to differ in for a replace to be a change. -/
def ownMetadata (o : Object) : Metadata :=
  { o.metadata.exchanged with resourceVersion := none, generation := none, managedFields := none }

def SameContent (a b : Object) : Prop := ownMetadata a = ownMetadata b ∧ Json.Same a.data b.data

instance (a b : Object) : Decidable (SameContent a b) := by unfold SameContent; infer_instance

def specContent (o : Object) : Json := o.data.withoutMember "status"

def grown (generation : Option Int64) : Option Int64 := some (generation.getD 0 + 1)

def revised (c : Cluster) (current next : Object) : Object :=
  { next with metadata := { next.metadata with
      generation := if Json.Same (specContent next) (specContent current) then next.metadata.generation
        else grown current.metadata.generation
      resourceVersion := some c.nextVersion } }

def isReleased (o : Object) : Bool := o.metadata.deletionTimestamp.isSome && !o.metadata.hasFinalizers

def marked (now : Instant) (c : Cluster) (o : Object) : Object :=
  { o with metadata := { o.metadata.exchanged with
      deletionTimestamp := some now.wholeSeconds
      generation := grown o.metadata.generation
      resourceVersion := some c.nextVersion } }

def isStale (current o : Object) : Bool :=
  match o.metadata.resourceVersion with
  | some v => decide (current.metadata.resourceVersion ≠ some v)
  | none => false

def staleMessage (current o : Object) : String :=
  "resourceVersion " ++ o.metadata.resourceVersion.getD "" ++ " is stale (current " ++
    current.metadata.resourceVersion.getD "none" ++ ")"

def get (c : Cluster) (a : Address) : Except StoreError Object :=
  match c.find? a.key with
  | some o => .ok o
  | none => .error (.notFound a.resource.kind a.name)

def create (c : Cluster) (resource : Resource) (o : Object) : Except StoreError Object × Cluster :=
  let key := (Call.addressOf resource o).key
  match c.find? key with
  | some _ => (.error (.alreadyExists resource.kind o.metadata.nameText), c)
  | none => (.ok (c.admitted o), c.commit (Dict.put c.objects key (c.admitted o)))

def replace (c : Cluster) (resource : Resource) (o : Object) : Except StoreError Object × Cluster :=
  let key := (Call.addressOf resource o).key
  match c.find? key with
  | none => (.error (.notFound resource.kind o.metadata.nameText), c)
  | some current =>
      if isStale current o then
        (.error (.conflict resource.kind o.metadata.nameText (staleMessage current o)), c)
      else
        let next := carried current o
        if SameContent next current then (.ok current, c)
        else
          let next := c.revised current next
          if isReleased next then (.ok next, c.commit (Dict.without c.objects key))
          else (.ok next, c.commit (Dict.put c.objects key next))

def delete (now : Instant) (c : Cluster) (a : Address) : Except StoreError Unit × Cluster :=
  match c.find? a.key with
  | none => (.error (.notFound a.resource.kind a.name), c)
  | some current =>
      if !current.metadata.hasFinalizers then
        (.ok (), { c with objects := Dict.without c.objects a.key, mutations := c.mutations + 1 })
      else if current.metadata.deletionTimestamp.isSome then (.ok (), c)
      else (.ok (), c.commit (Dict.put c.objects a.key (c.marked now current)))

/-- Data that are no object give way to one. -/
def withStatus (data patch : Json) : Json :=
  (Json.obj data.fieldsOrEmpty).withMember "status" (Json.mergePatch ((data.member? "status").getD .null) patch)

def reportedOn (c : Cluster) (o : Object) (status : Json) : Object :=
  { o with
    data := withStatus o.data status
    metadata := { o.metadata with resourceVersion := some c.nextVersion }
    unreserved := o.unreserved.fieldsOrEmpty.withStatus _ }

def patchStatus (c : Cluster) (a : Address) (patch : Json) : Except StoreError Unit × Cluster :=
  match c.find? a.key with
  | none => (.error (.notFound a.resource.kind a.name), c)
  | some current =>
      if Json.Same (withStatus current.data patch) current.data then (.ok (), c)
      else (.ok (), c.commit (Dict.put c.objects a.key (c.reportedOn current patch)))

def perform (now : Instant) (c : Cluster) : (call : Call) → Except StoreError call.Answer × Cluster
  | .get a => (c.get a, c)
  | .create resource o => c.create resource o
  | .replace resource o => c.replace resource o
  | .delete a => c.delete now a
  | .patchStatus a status => c.patchStatus a status

def answer (now : Instant) (c : Cluster) (call : Call) : Except StoreError call.Answer × Cluster :=
  match c.strike call.verb call.address.resource.kind call.address.name with
  | (some e, c) => (.error e, c)
  | (none, c) => c.perform now call

def answerer (now : Instant) : Answerer Cluster where
  answer call c := c.answer now call
  note _ c := c

def plant (c : Cluster) (f : Fault) : Cluster := { c with faults := c.faults ++ [f] }

def clearFaults (c : Cluster) : Cluster := { c with faults := [] }

def size (c : Cluster) : Nat := c.objects.length

def contains (c : Cluster) (a : Address) : Bool := (c.find? a.key).isSome

theorem find?_commit_put (c : Cluster) (k k' : Key) (o : Object) :
    (c.commit (Dict.put c.objects k o)).find? k' = if k' = k then some o else c.find? k' :=
  Dict.at?_put c.objects k k' o

theorem find?_commit_without (c : Cluster) (k k' : Key) :
    (c.commit (Dict.without c.objects k)).find? k' = if k' = k then none else c.find? k' :=
  Dict.at?_without c.objects k k'

end Cluster

end EnvironmentOperator
