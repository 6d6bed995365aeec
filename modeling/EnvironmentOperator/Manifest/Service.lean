import EnvironmentOperator.Decoding.Record
import EnvironmentOperator.Manifest
import EnvironmentOperator.Manifest.Schema

namespace EnvironmentOperator

structure ServicePort where
  appProtocol : Option String := none
  name : Option String := none
  nodePort : Option Int32 := none
  port : Int32 := 0
  protocol : Option String := none
  targetPort : Option PortTarget := none
deriving DecidableEq

instance : JsonForm ServicePort where
  encode x := Json.record [
    ("appProtocol", x.appProtocol.map encode),
    ("name", x.name.map encode),
    ("nodePort", x.nodePort.map encode),
    ("port", some (encode x.port)),
    ("protocol", x.protocol.map encode),
    ("targetPort", x.targetPort.map encode)]
  decode j := do
    let m ← membersOf "ServicePort" j
    return {
      appProtocol := ← Fields.optional m "appProtocol"
      name := ← Fields.optional m "name"
      nodePort := ← Fields.optional m "nodePort"
      port := ← Fields.orElse m "port" 0
      protocol := ← Fields.optional m "protocol"
      targetPort := ← Fields.optional m "targetPort" }

structure ServiceSpec where
  allocateLoadBalancerNodePorts : Option Bool := none
  clusterAddress : Option String := none
  clusterAddresses : Option (List String) := none
  externalAddresses : Option (List String) := none
  externalName : Option String := none
  externalTrafficPolicy : Option String := none
  healthCheckNodePort : Option Int32 := none
  internalTrafficPolicy : Option String := none
  ipFamilies : Option (List String) := none
  ipFamilyPolicy : Option String := none
  loadBalancerClass : Option String := none
  loadBalancerIP : Option String := none
  loadBalancerSourceRanges : Option (List String) := none
  ports : Option (List ServicePort) := none
  publishNotReadyAddresses : Option Bool := none
  selector : Option (Named String) := none
  sessionAffinity : Option String := none
  sessionAffinityConfig : Option (Shaped .sessionAffinity) := none
  trafficDistribution : Option String := none
  serviceType : Option String := none
deriving DecidableEq

instance : JsonForm ServiceSpec where
  encode x := Json.record [
    ("allocateLoadBalancerNodePorts", x.allocateLoadBalancerNodePorts.map encode),
    ("clusterIP", x.clusterAddress.map encode),
    ("clusterIPs", x.clusterAddresses.map encode),
    ("externalIPs", x.externalAddresses.map encode),
    ("externalName", x.externalName.map encode),
    ("externalTrafficPolicy", x.externalTrafficPolicy.map encode),
    ("healthCheckNodePort", x.healthCheckNodePort.map encode),
    ("internalTrafficPolicy", x.internalTrafficPolicy.map encode),
    ("ipFamilies", x.ipFamilies.map encode),
    ("ipFamilyPolicy", x.ipFamilyPolicy.map encode),
    ("loadBalancerClass", x.loadBalancerClass.map encode),
    ("loadBalancerIP", x.loadBalancerIP.map encode),
    ("loadBalancerSourceRanges", x.loadBalancerSourceRanges.map encode),
    ("ports", x.ports.map encode),
    ("publishNotReadyAddresses", x.publishNotReadyAddresses.map encode),
    ("selector", x.selector.map encode),
    ("sessionAffinity", x.sessionAffinity.map encode),
    ("sessionAffinityConfig", x.sessionAffinityConfig.map encode),
    ("trafficDistribution", x.trafficDistribution.map encode),
    ("type", x.serviceType.map encode)]
  decode j := do
    let m ← membersOf "ServiceSpec" j
    return {
      allocateLoadBalancerNodePorts := ← Fields.optional m "allocateLoadBalancerNodePorts"
      clusterAddress := ← Fields.optional m "clusterIP"
      clusterAddresses := ← Fields.optional m "clusterIPs"
      externalAddresses := ← Fields.optional m "externalIPs"
      externalName := ← Fields.optional m "externalName"
      externalTrafficPolicy := ← Fields.optional m "externalTrafficPolicy"
      healthCheckNodePort := ← Fields.optional m "healthCheckNodePort"
      internalTrafficPolicy := ← Fields.optional m "internalTrafficPolicy"
      ipFamilies := ← Fields.optional m "ipFamilies"
      ipFamilyPolicy := ← Fields.optional m "ipFamilyPolicy"
      loadBalancerClass := ← Fields.optional m "loadBalancerClass"
      loadBalancerIP := ← Fields.optional m "loadBalancerIP"
      loadBalancerSourceRanges := ← Fields.optional m "loadBalancerSourceRanges"
      ports := ← Fields.optional m "ports"
      publishNotReadyAddresses := ← Fields.optional m "publishNotReadyAddresses"
      selector := ← Fields.optional m "selector"
      sessionAffinity := ← Fields.optional m "sessionAffinity"
      sessionAffinityConfig := ← Fields.optional m "sessionAffinityConfig"
      trafficDistribution := ← Fields.optional m "trafficDistribution"
      serviceType := ← Fields.optional m "type" }

structure ServiceAddress where
  hostname : Option String := none
  ip : Option String := none
  ipMode : Option String := none
  ports : Option (List (Shaped .portStatus)) := none
deriving DecidableEq

instance : JsonForm ServiceAddress where
  encode x := Json.record [
    ("hostname", x.hostname.map encode),
    ("ip", x.ip.map encode),
    ("ipMode", x.ipMode.map encode),
    ("ports", x.ports.map encode)]
  decode j := do
    let m ← membersOf "LoadBalancerIngress" j
    return {
      hostname := ← Fields.optional m "hostname"
      ip := ← Fields.optional m "ip"
      ipMode := ← Fields.optional m "ipMode"
      ports := ← Fields.optional m "ports" }

structure ServiceBalancer where
  addresses : Option (List ServiceAddress) := none
deriving DecidableEq

instance : JsonForm ServiceBalancer where
  encode x := Json.record [
    ("ingress", x.addresses.map encode)]
  decode j := do
    let m ← membersOf "LoadBalancerStatus" j
    return {
      addresses := ← Fields.optional m "ingress" }

structure ServiceCondition where
  lastTransitionTime : Instant
  message : String := ""
  observedGeneration : Option Int64 := none
  reason : String := ""
  status : String := ""
  type : String := ""
deriving DecidableEq

/-- The time of a condition is the one member of a manifest's part that cannot be left out. -/
instance : JsonForm ServiceCondition where
  encode x := Json.record [
    ("lastTransitionTime", some (encode x.lastTransitionTime)),
    ("message", some (encode x.message)),
    ("observedGeneration", x.observedGeneration.map encode),
    ("reason", some (encode x.reason)),
    ("status", some (encode x.status)),
    ("type", some (encode x.type))]
  decode j := do
    let m ← membersOf "Condition" j
    let time : Option Instant ← Fields.optional m "lastTransitionTime"
    let message ← Fields.orElse m "message" ""
    let observedGeneration ← Fields.optional m "observedGeneration"
    let reason ← Fields.orElse m "reason" ""
    let status ← Fields.orElse m "status" ""
    let type ← Fields.orElse m "type" ""
    return {
      lastTransitionTime := ← require "lastTransitionTime" time
      message, observedGeneration, reason, status, type }

structure ServiceStatus where
  conditions : Option (List ServiceCondition) := none
  loadBalancer : Option ServiceBalancer := none
deriving DecidableEq

instance : JsonForm ServiceStatus where
  encode x := Json.record [
    ("conditions", x.conditions.map encode),
    ("loadBalancer", x.loadBalancer.map encode)]
  decode j := do
    let m ← membersOf "ServiceStatus" j
    return {
      conditions := ← Fields.optional m "conditions"
      loadBalancer := ← Fields.optional m "loadBalancer" }

structure Service where
  metadata : Metadata := {}
  spec : Option ServiceSpec := none
  status : Option ServiceStatus := none
deriving DecidableEq

instance : Manifest Service where
  kind := .service
  metadata x := x.metadata
  data x := Json.present [
    ("spec", x.spec.map encode),
    ("status", x.status.map encode)]
  unreserved _ := .of_present ["spec", "status"] rfl (by decide)
  ofMembers o members := do
    o.expectType .service
    return {
      metadata := o.metadata.exchanged
      spec := ← Fields.optional members "spec"
      status := ← Fields.optional members "status" }

end EnvironmentOperator
