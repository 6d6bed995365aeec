import EnvironmentOperator.Manifest.Pod

namespace EnvironmentOperator

structure LabelRequirement where
  key : String := ""
  operator : String := ""
  values : Option (List String) := none
deriving DecidableEq

instance : JsonForm LabelRequirement where
  encode x := Json.record [
    ("key", some (encode x.key)),
    ("operator", some (encode x.operator)),
    ("values", x.values.map encode)]
  decode j := do
    let m ← membersOf "LabelSelectorRequirement" j
    return {
      key := ← Fields.orElse m "key" ""
      operator := ← Fields.orElse m "operator" ""
      values := ← Fields.optional m "values" }

structure LabelSelector where
  matchExpressions : Option (List LabelRequirement) := none
  matchLabels : Option (Named String) := none
deriving DecidableEq

instance : JsonForm LabelSelector where
  encode x := Json.record [
    ("matchExpressions", x.matchExpressions.map encode),
    ("matchLabels", x.matchLabels.map encode)]
  decode j := do
    let m ← membersOf "LabelSelector" j
    return {
      matchExpressions := ← Fields.optional m "matchExpressions"
      matchLabels := ← Fields.optional m "matchLabels" }

structure RollingUpdate where
  maxSurge : Option PortTarget := none
  maxUnavailable : Option PortTarget := none
deriving DecidableEq

instance : JsonForm RollingUpdate where
  encode x := Json.record [
    ("maxSurge", x.maxSurge.map encode),
    ("maxUnavailable", x.maxUnavailable.map encode)]
  decode j := do
    let m ← membersOf "RollingUpdateDeployment" j
    return {
      maxSurge := ← Fields.optional m "maxSurge"
      maxUnavailable := ← Fields.optional m "maxUnavailable" }

structure DeploymentStrategy where
  rollingUpdate : Option RollingUpdate := none
  strategy : Option String := none
deriving DecidableEq

instance : JsonForm DeploymentStrategy where
  encode x := Json.record [
    ("rollingUpdate", x.rollingUpdate.map encode),
    ("type", x.strategy.map encode)]
  decode j := do
    let m ← membersOf "DeploymentStrategy" j
    return {
      rollingUpdate := ← Fields.optional m "rollingUpdate"
      strategy := ← Fields.optional m "type" }

structure DeploymentSpec where
  minReadySeconds : Option Int32 := none
  paused : Option Bool := none
  progressDeadlineSeconds : Option Int32 := none
  replicas : Option Int32 := none
  revisionHistoryLimit : Option Int32 := none
  selector : LabelSelector := {}
  strategy : Option DeploymentStrategy := none
  template : PodTemplate := {}
deriving DecidableEq

instance : JsonForm DeploymentSpec where
  encode x := Json.record [
    ("minReadySeconds", x.minReadySeconds.map encode),
    ("paused", x.paused.map encode),
    ("progressDeadlineSeconds", x.progressDeadlineSeconds.map encode),
    ("replicas", x.replicas.map encode),
    ("revisionHistoryLimit", x.revisionHistoryLimit.map encode),
    ("selector", some (encode x.selector)),
    ("strategy", x.strategy.map encode),
    ("template", some (encode x.template))]
  decode j := do
    let m ← membersOf "DeploymentSpec" j
    return {
      minReadySeconds := ← Fields.optional m "minReadySeconds"
      paused := ← Fields.optional m "paused"
      progressDeadlineSeconds := ← Fields.optional m "progressDeadlineSeconds"
      replicas := ← Fields.optional m "replicas"
      revisionHistoryLimit := ← Fields.optional m "revisionHistoryLimit"
      selector := ← Fields.orElse m "selector" {}
      strategy := ← Fields.optional m "strategy"
      template := ← Fields.orElse m "template" {} }

structure DeploymentCondition where
  lastTransitionTime : Option Instant := none
  lastUpdateTime : Option Instant := none
  message : Option String := none
  reason : Option String := none
  status : String := ""
  type : String := ""
deriving DecidableEq

instance : JsonForm DeploymentCondition where
  encode x := Json.record [
    ("lastTransitionTime", x.lastTransitionTime.map encode),
    ("lastUpdateTime", x.lastUpdateTime.map encode),
    ("message", x.message.map encode),
    ("reason", x.reason.map encode),
    ("status", some (encode x.status)),
    ("type", some (encode x.type))]
  decode j := do
    let m ← membersOf "DeploymentCondition" j
    return {
      lastTransitionTime := ← Fields.optional m "lastTransitionTime"
      lastUpdateTime := ← Fields.optional m "lastUpdateTime"
      message := ← Fields.optional m "message"
      reason := ← Fields.optional m "reason"
      status := ← Fields.orElse m "status" ""
      type := ← Fields.orElse m "type" "" }

structure DeploymentStatus where
  availableReplicas : Option Int32 := none
  collisionCount : Option Int32 := none
  conditions : Option (List DeploymentCondition) := none
  observedGeneration : Option Int64 := none
  readyReplicas : Option Int32 := none
  replicas : Option Int32 := none
  unavailableReplicas : Option Int32 := none
  updatedReplicas : Option Int32 := none
deriving DecidableEq

instance : JsonForm DeploymentStatus where
  encode x := Json.record [
    ("availableReplicas", x.availableReplicas.map encode),
    ("collisionCount", x.collisionCount.map encode),
    ("conditions", x.conditions.map encode),
    ("observedGeneration", x.observedGeneration.map encode),
    ("readyReplicas", x.readyReplicas.map encode),
    ("replicas", x.replicas.map encode),
    ("unavailableReplicas", x.unavailableReplicas.map encode),
    ("updatedReplicas", x.updatedReplicas.map encode)]
  decode j := do
    let m ← membersOf "DeploymentStatus" j
    return {
      availableReplicas := ← Fields.optional m "availableReplicas"
      collisionCount := ← Fields.optional m "collisionCount"
      conditions := ← Fields.optional m "conditions"
      observedGeneration := ← Fields.optional m "observedGeneration"
      readyReplicas := ← Fields.optional m "readyReplicas"
      replicas := ← Fields.optional m "replicas"
      unavailableReplicas := ← Fields.optional m "unavailableReplicas"
      updatedReplicas := ← Fields.optional m "updatedReplicas" }

structure Deployment where
  metadata : Metadata := {}
  spec : Option DeploymentSpec := none
  status : Option DeploymentStatus := none
deriving DecidableEq

instance : Manifest Deployment where
  kind := .deployment
  metadata x := x.metadata
  data x := Json.present [
    ("spec", x.spec.map encode),
    ("status", x.status.map encode)]
  unreserved _ := .of_present ["spec", "status"] rfl (by decide)
  ofMembers o members := do
    o.expectType .deployment
    return {
      metadata := o.metadata.exchanged
      spec := ← Fields.optional members "spec"
      status := ← Fields.optional members "status" }

end EnvironmentOperator
