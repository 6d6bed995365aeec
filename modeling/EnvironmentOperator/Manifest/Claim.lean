import EnvironmentOperator.Manifest
import EnvironmentOperator.Manifest.Schema

namespace EnvironmentOperator

structure ClaimResources where
  limits : Option (Named Quantity) := none
  requests : Option (Named Quantity) := none
deriving DecidableEq

instance : JsonForm ClaimResources where
  encode x := Json.record [
    ("limits", x.limits.map encode),
    ("requests", x.requests.map encode)]
  decode j := do
    let m ← membersOf "VolumeResourceRequirements" j
    return {
      limits := ← Fields.optional m "limits"
      requests := ← Fields.optional m "requests" }

structure ClaimSpec where
  accessModes : Option (List String) := none
  dataSource : Option (Shaped .typedReference) := none
  dataSourceRef : Option (Shaped .namespacedReference) := none
  resources : Option ClaimResources := none
  selector : Option (Shaped .labelSelector) := none
  storageClassName : Option String := none
  volumeAttributesClassName : Option String := none
  volumeMode : Option String := none
  volumeName : Option String := none
deriving DecidableEq

instance : JsonForm ClaimSpec where
  encode x := Json.record [
    ("accessModes", x.accessModes.map encode),
    ("dataSource", x.dataSource.map encode),
    ("dataSourceRef", x.dataSourceRef.map encode),
    ("resources", x.resources.map encode),
    ("selector", x.selector.map encode),
    ("storageClassName", x.storageClassName.map encode),
    ("volumeAttributesClassName", x.volumeAttributesClassName.map encode),
    ("volumeMode", x.volumeMode.map encode),
    ("volumeName", x.volumeName.map encode)]
  decode j := do
    let m ← membersOf "PersistentVolumeClaimSpec" j
    return {
      accessModes := ← Fields.optional m "accessModes"
      dataSource := ← Fields.optional m "dataSource"
      dataSourceRef := ← Fields.optional m "dataSourceRef"
      resources := ← Fields.optional m "resources"
      selector := ← Fields.optional m "selector"
      storageClassName := ← Fields.optional m "storageClassName"
      volumeAttributesClassName := ← Fields.optional m "volumeAttributesClassName"
      volumeMode := ← Fields.optional m "volumeMode"
      volumeName := ← Fields.optional m "volumeName" }

structure ClaimCondition where
  lastProbeTime : Option Instant := none
  lastTransitionTime : Option Instant := none
  message : Option String := none
  reason : Option String := none
  status : String := ""
  type : String := ""
deriving DecidableEq

instance : JsonForm ClaimCondition where
  encode x := Json.record [
    ("lastProbeTime", x.lastProbeTime.map encode),
    ("lastTransitionTime", x.lastTransitionTime.map encode),
    ("message", x.message.map encode),
    ("reason", x.reason.map encode),
    ("status", some (encode x.status)),
    ("type", some (encode x.type))]
  decode j := do
    let m ← membersOf "PersistentVolumeClaimCondition" j
    return {
      lastProbeTime := ← Fields.optional m "lastProbeTime"
      lastTransitionTime := ← Fields.optional m "lastTransitionTime"
      message := ← Fields.optional m "message"
      reason := ← Fields.optional m "reason"
      status := ← Fields.orElse m "status" ""
      type := ← Fields.orElse m "type" "" }

structure ClaimStatus where
  accessModes : Option (List String) := none
  allocatedResourceStatuses : Option (Named String) := none
  allocatedResources : Option (Named Quantity) := none
  capacity : Option (Named Quantity) := none
  conditions : Option (List ClaimCondition) := none
  currentVolumeAttributesClassName : Option String := none
  modifyVolumeStatus : Option (Shaped .modifyVolumeStatus) := none
  phase : Option String := none
deriving DecidableEq

instance : JsonForm ClaimStatus where
  encode x := Json.record [
    ("accessModes", x.accessModes.map encode),
    ("allocatedResourceStatuses", x.allocatedResourceStatuses.map encode),
    ("allocatedResources", x.allocatedResources.map encode),
    ("capacity", x.capacity.map encode),
    ("conditions", x.conditions.map encode),
    ("currentVolumeAttributesClassName", x.currentVolumeAttributesClassName.map encode),
    ("modifyVolumeStatus", x.modifyVolumeStatus.map encode),
    ("phase", x.phase.map encode)]
  decode j := do
    let m ← membersOf "PersistentVolumeClaimStatus" j
    return {
      accessModes := ← Fields.optional m "accessModes"
      allocatedResourceStatuses := ← Fields.optional m "allocatedResourceStatuses"
      allocatedResources := ← Fields.optional m "allocatedResources"
      capacity := ← Fields.optional m "capacity"
      conditions := ← Fields.optional m "conditions"
      currentVolumeAttributesClassName := ← Fields.optional m "currentVolumeAttributesClassName"
      modifyVolumeStatus := ← Fields.optional m "modifyVolumeStatus"
      phase := ← Fields.optional m "phase" }

structure Claim where
  metadata : Metadata := {}
  spec : Option ClaimSpec := none
  status : Option ClaimStatus := none
deriving DecidableEq

instance : Manifest Claim where
  kind := .claim
  metadata x := x.metadata
  data x := Json.present [
    ("spec", x.spec.map encode),
    ("status", x.status.map encode)]
  unreserved _ := .of_present ["spec", "status"] rfl (by decide)
  ofMembers o members := do
    o.expectType .claim
    return {
      metadata := o.metadata.exchanged
      spec := ← Fields.optional members "spec"
      status := ← Fields.optional members "status" }

end EnvironmentOperator
