import EnvironmentOperator.Manifest

namespace EnvironmentOperator

structure NamespaceSpec where
  finalizers : Option (List String) := none
deriving DecidableEq

instance : JsonForm NamespaceSpec where
  encode x := Json.record [("finalizers", x.finalizers.map encode)]
  decode j := do
    let m ← membersOf "NamespaceSpec" j
    return { finalizers := ← Fields.optional m "finalizers" }

structure NamespaceCondition where
  lastTransitionTime : Option Instant := none
  message : Option String := none
  reason : Option String := none
  status : String := ""
  type : String := ""
deriving DecidableEq

instance : JsonForm NamespaceCondition where
  encode x := Json.record [
    ("lastTransitionTime", x.lastTransitionTime.map encode),
    ("message", x.message.map encode),
    ("reason", x.reason.map encode),
    ("status", some (encode x.status)),
    ("type", some (encode x.type))]
  decode j := do
    let m ← membersOf "NamespaceCondition" j
    return {
      lastTransitionTime := ← Fields.optional m "lastTransitionTime"
      message := ← Fields.optional m "message"
      reason := ← Fields.optional m "reason"
      status := ← Fields.orElse m "status" ""
      type := ← Fields.orElse m "type" "" }

structure NamespaceStatus where
  conditions : Option (List NamespaceCondition) := none
  phase : Option String := none
deriving DecidableEq

instance : JsonForm NamespaceStatus where
  encode x := Json.record [
    ("conditions", x.conditions.map encode),
    ("phase", x.phase.map encode)]
  decode j := do
    let m ← membersOf "NamespaceStatus" j
    return {
      conditions := ← Fields.optional m "conditions"
      phase := ← Fields.optional m "phase" }

structure Namespace where
  metadata : Metadata := {}
  spec : Option NamespaceSpec := none
  status : Option NamespaceStatus := none
deriving DecidableEq

instance : Manifest Namespace where
  kind := .namespace
  metadata x := x.metadata
  data x := Json.present [
    ("spec", x.spec.map encode),
    ("status", x.status.map encode)]
  unreserved _ := .of_present ["spec", "status"] rfl (by decide)
  ofMembers o members := do
    o.expectType .namespace
    return {
      metadata := o.metadata.exchanged
      spec := ← Fields.optional members "spec"
      status := ← Fields.optional members "status" }

end EnvironmentOperator
