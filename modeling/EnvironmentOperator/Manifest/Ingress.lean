import EnvironmentOperator.Manifest
import EnvironmentOperator.Manifest.Schema

namespace EnvironmentOperator

structure BackendPort where
  name : Option String := none
  number : Option Int32 := none
deriving DecidableEq

instance : JsonForm BackendPort where
  encode x := Json.record [
    ("name", x.name.map encode),
    ("number", x.number.map encode)]
  decode j := do
    let m ← membersOf "ServiceBackendPort" j
    return {
      name := ← Fields.optional m "name"
      number := ← Fields.optional m "number" }

structure ServiceBackend where
  name : String := ""
  port : Option BackendPort := none
deriving DecidableEq

instance : JsonForm ServiceBackend where
  encode x := Json.record [
    ("name", some (encode x.name)),
    ("port", x.port.map encode)]
  decode j := do
    let m ← membersOf "IngressServiceBackend" j
    return {
      name := ← Fields.orElse m "name" ""
      port := ← Fields.optional m "port" }

structure IngressBackend where
  resource : Option (Shaped .typedReference) := none
  service : Option ServiceBackend := none
deriving DecidableEq

instance : JsonForm IngressBackend where
  encode x := Json.record [
    ("resource", x.resource.map encode),
    ("service", x.service.map encode)]
  decode j := do
    let m ← membersOf "IngressBackend" j
    return {
      resource := ← Fields.optional m "resource"
      service := ← Fields.optional m "service" }

structure IngressPath where
  backend : IngressBackend := {}
  path : Option String := none
  pathType : String := ""
deriving DecidableEq

instance : JsonForm IngressPath where
  encode x := Json.record [
    ("backend", some (encode x.backend)),
    ("path", x.path.map encode),
    ("pathType", some (encode x.pathType))]
  decode j := do
    let m ← membersOf "HTTPIngressPath" j
    return {
      backend := ← Fields.orElse m "backend" {}
      path := ← Fields.optional m "path"
      pathType := ← Fields.orElse m "pathType" "" }

structure IngressPaths where
  paths : List IngressPath := []
deriving DecidableEq

instance : JsonForm IngressPaths where
  encode x := Json.record [
    ("paths", some (encode x.paths))]
  decode j := do
    let m ← membersOf "HTTPIngressRuleValue" j
    return {
      paths := ← Fields.orElse m "paths" [] }

structure IngressRule where
  host : Option String := none
  http : Option IngressPaths := none
deriving DecidableEq

instance : JsonForm IngressRule where
  encode x := Json.record [
    ("host", x.host.map encode),
    ("http", x.http.map encode)]
  decode j := do
    let m ← membersOf "IngressRule" j
    return {
      host := ← Fields.optional m "host"
      http := ← Fields.optional m "http" }

structure IngressTls where
  hosts : Option (List String) := none
  secretName : Option String := none
deriving DecidableEq

instance : JsonForm IngressTls where
  encode x := Json.record [
    ("hosts", x.hosts.map encode),
    ("secretName", x.secretName.map encode)]
  decode j := do
    let m ← membersOf "IngressTLS" j
    return {
      hosts := ← Fields.optional m "hosts"
      secretName := ← Fields.optional m "secretName" }

structure IngressSpec where
  defaultBackend : Option IngressBackend := none
  ingressClassName : Option String := none
  rules : Option (List IngressRule) := none
  tls : Option (List IngressTls) := none
deriving DecidableEq

instance : JsonForm IngressSpec where
  encode x := Json.record [
    ("defaultBackend", x.defaultBackend.map encode),
    ("ingressClassName", x.ingressClassName.map encode),
    ("rules", x.rules.map encode),
    ("tls", x.tls.map encode)]
  decode j := do
    let m ← membersOf "IngressSpec" j
    return {
      defaultBackend := ← Fields.optional m "defaultBackend"
      ingressClassName := ← Fields.optional m "ingressClassName"
      rules := ← Fields.optional m "rules"
      tls := ← Fields.optional m "tls" }

structure IngressAddress where
  hostname : Option String := none
  ip : Option String := none
  ports : Option (List (Shaped .ingressPortStatus)) := none
deriving DecidableEq

instance : JsonForm IngressAddress where
  encode x := Json.record [
    ("hostname", x.hostname.map encode),
    ("ip", x.ip.map encode),
    ("ports", x.ports.map encode)]
  decode j := do
    let m ← membersOf "IngressLoadBalancerIngress" j
    return {
      hostname := ← Fields.optional m "hostname"
      ip := ← Fields.optional m "ip"
      ports := ← Fields.optional m "ports" }

structure IngressBalancer where
  addresses : Option (List IngressAddress) := none
deriving DecidableEq

instance : JsonForm IngressBalancer where
  encode x := Json.record [
    ("ingress", x.addresses.map encode)]
  decode j := do
    let m ← membersOf "IngressLoadBalancerStatus" j
    return {
      addresses := ← Fields.optional m "ingress" }

structure IngressStatus where
  loadBalancer : Option IngressBalancer := none
deriving DecidableEq

instance : JsonForm IngressStatus where
  encode x := Json.record [
    ("loadBalancer", x.loadBalancer.map encode)]
  decode j := do
    let m ← membersOf "IngressStatus" j
    return {
      loadBalancer := ← Fields.optional m "loadBalancer" }

structure Ingress where
  metadata : Metadata := {}
  spec : Option IngressSpec := none
  status : Option IngressStatus := none
deriving DecidableEq

instance : Manifest Ingress where
  kind := .ingress
  metadata x := x.metadata
  data x := Json.present [
    ("spec", x.spec.map encode),
    ("status", x.status.map encode)]
  unreserved _ := .of_present ["spec", "status"] rfl (by decide)
  ofMembers o members := do
    o.expectType .ingress
    return {
      metadata := o.metadata.exchanged
      spec := ← Fields.optional members "spec"
      status := ← Fields.optional members "status" }

end EnvironmentOperator
