import EnvironmentOperator.Manifest.Scalar

namespace EnvironmentOperator

structure OwnerReference where
  apiVersion : String
  blockOwnerDeletion : Option Bool
  controller : Option Bool
  kind : String
  name : String
  uid : String
deriving DecidableEq

instance : JsonForm OwnerReference where
  encode o := Json.record [
    ("apiVersion", some (encode o.apiVersion)),
    ("blockOwnerDeletion", o.blockOwnerDeletion.map encode),
    ("controller", o.controller.map encode),
    ("kind", some (encode o.kind)),
    ("name", some (encode o.name)),
    ("uid", some (encode o.uid))]
  decode j := do
    let m ← membersOf "OwnerReference" j
    return {
      apiVersion := ← Fields.orElse m "apiVersion" ""
      blockOwnerDeletion := ← Fields.optional m "blockOwnerDeletion"
      controller := ← Fields.optional m "controller"
      kind := ← Fields.orElse m "kind" ""
      name := ← Fields.orElse m "name" ""
      uid := ← Fields.orElse m "uid" "" }

structure ManagedFields where
  apiVersion : Option String
  fieldsType : Option String
  fieldsV1 : Option Json
  manager : Option String
  operation : Option String
  subresource : Option String
  time : Option Instant
deriving DecidableEq

instance : JsonForm ManagedFields where
  encode f := Json.record [
    ("apiVersion", f.apiVersion.map encode),
    ("fieldsType", f.fieldsType.map encode),
    ("fieldsV1", f.fieldsV1),
    ("manager", f.manager.map encode),
    ("operation", f.operation.map encode),
    ("subresource", f.subresource.map encode),
    ("time", f.time.map encode)]
  decode j := do
    let m ← membersOf "ManagedFieldsEntry" j
    return {
      apiVersion := ← Fields.optional m "apiVersion"
      fieldsType := ← Fields.optional m "fieldsType"
      fieldsV1 := ← Fields.optional m "fieldsV1"
      manager := ← Fields.optional m "manager"
      operation := ← Fields.optional m "operation"
      subresource := ← Fields.optional m "subresource"
      time := ← Fields.optional m "time" }

namespace ManagedFields

/-- Null says of the fields that they are not given. -/
def exchanged (f : ManagedFields) : ManagedFields :=
  { f with fieldsV1 := f.fieldsV1.filter (· ≠ .null), time := f.time.map Instant.wholeSeconds }

@[simp] theorem exchanged_exchanged (f : ManagedFields) : f.exchanged.exchanged = f.exchanged := by
  cases hfields : f.fieldsV1 <;> cases htime : f.time <;> simp [exchanged, hfields, htime]

end ManagedFields

structure Metadata where
  annotations : Option (Named String) := none
  creationTimestamp : Option Instant := none
  deletionGracePeriodSeconds : Option Int64 := none
  deletionTimestamp : Option Instant := none
  finalizers : Option (List String) := none
  generateName : Option String := none
  generation : Option Int64 := none
  labels : Option (Named String) := none
  managedFields : Option (List ManagedFields) := none
  name : Option String := none
  «namespace» : Option String := none
  ownerReferences : Option (List OwnerReference) := none
  resourceVersion : Option String := none
  selfLink : Option String := none
  uid : Option String := none
deriving DecidableEq

namespace Metadata

instance : JsonForm Metadata where
  encode x := Json.record [
    ("annotations", x.annotations.map encode),
    ("creationTimestamp", x.creationTimestamp.map encode),
    ("deletionGracePeriodSeconds", x.deletionGracePeriodSeconds.map encode),
    ("deletionTimestamp", x.deletionTimestamp.map encode),
    ("finalizers", x.finalizers.map encode),
    ("generateName", x.generateName.map encode),
    ("generation", x.generation.map encode),
    ("labels", x.labels.map encode),
    ("managedFields", x.managedFields.map encode),
    ("name", x.name.map encode),
    ("namespace", x.namespace.map encode),
    ("ownerReferences", x.ownerReferences.map encode),
    ("resourceVersion", x.resourceVersion.map encode),
    ("selfLink", x.selfLink.map encode),
    ("uid", x.uid.map encode)]
  decode j := do
    let m ← membersOf "ObjectMeta" j
    return {
      annotations := ← Fields.optional m "annotations"
      creationTimestamp := ← Fields.optional m "creationTimestamp"
      deletionGracePeriodSeconds := ← Fields.optional m "deletionGracePeriodSeconds"
      deletionTimestamp := ← Fields.optional m "deletionTimestamp"
      finalizers := ← Fields.optional m "finalizers"
      generateName := ← Fields.optional m "generateName"
      generation := ← Fields.optional m "generation"
      labels := ← Fields.optional m "labels"
      managedFields := ← Fields.optional m "managedFields"
      name := ← Fields.optional m "name"
      «namespace» := ← Fields.optional m "namespace"
      ownerReferences := ← Fields.optional m "ownerReferences"
      resourceVersion := ← Fields.optional m "resourceVersion"
      selfLink := ← Fields.optional m "selfLink"
      uid := ← Fields.optional m "uid" }

def finalizerList (m : Metadata) : List String := m.finalizers.getD []

def hasFinalizers (m : Metadata) : Bool := !m.finalizerList.isEmpty

def nameText (m : Metadata) : String := m.name.getD ""

/-- The name, or what a name is to be generated from. -/
def anyName (m : Metadata) : String := (m.name <|> m.generateName).getD ""

/-- The form in which metadata is exchanged, where instants have whole seconds. -/
def exchanged (m : Metadata) : Metadata :=
  { m with
    creationTimestamp := m.creationTimestamp.map Instant.wholeSeconds
    deletionTimestamp := m.deletionTimestamp.map Instant.wholeSeconds
    managedFields := m.managedFields.map (·.map ManagedFields.exchanged) }

@[simp] theorem exchanged_exchanged (m : Metadata) : m.exchanged.exchanged = m.exchanged := by
  simp only [exchanged, Option.map_map, Metadata.mk.injEq, true_and, and_true]
  refine ⟨?_, ?_, ?_⟩
  · cases m.creationTimestamp <;> simp
  · cases m.deletionTimestamp <;> simp
  · cases m.managedFields <;> simp

end Metadata

end EnvironmentOperator
