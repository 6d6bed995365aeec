import EnvironmentOperator.Proofs.Reconcile.Stage

namespace EnvironmentOperator

section Parts

namespace Deployment

def pod (d : Deployment) : Option PodSpec := d.spec.bind (·.template.spec)

def containers (d : Deployment) : List Container := d.pod.elim [] (·.containers)

def volumes (d : Deployment) : List Volume := (d.pod.bind (·.volumes)).getD []

def selector (d : Deployment) : Option LabelSelector := d.spec.map (·.selector)

end Deployment

def Service.selector (x : Service) : Option (Named String) := x.spec.bind (·.selector)

def Ingress.rules (i : Ingress) : List IngressRule := (i.spec.bind (·.rules)).getD []

def Ingress.tls (i : Ingress) : List IngressTls := (i.spec.bind (·.tls)).getD []

def Ingress.paths (i : Ingress) : List IngressPath := i.rules.flatMap (fun r => r.http.elim [] (·.paths))

end Parts

structure Suite where
  namespaces : List Namespace
  issuers : List Issuer
  certificates : List Certificate
  configMaps : List ConfigMap
  claims : List Claim
  secrets : List Secret
  deployments : List Deployment
  services : List Service
  ingresses : List Ingress

namespace Suite

open Desired

def ofScope (s : Scope) (spec : EnvironmentSpec) : Suite where
  namespaces := [dedicatedNamespace s]
  issuers := [issuer s]
  certificates := [certificate s]
  configMaps := [toolsConfigMap s spec]
  claims := [ideWorkspace s, databaseClaim s]
  secrets := [idePassword s spec]
  deployments := [ideDeployment s spec, databaseDeployment s spec.database]
  services := [ideService s, databaseService s spec.database]
  ingresses := [ideIngress s]

def objects (u : Suite) : List Object :=
  u.namespaces.map Manifest.toObject ++ u.issuers.map Manifest.toObject ++ u.certificates.map Manifest.toObject ++
    u.configMaps.map Manifest.toObject ++ u.claims.map Manifest.toObject ++ u.secrets.map Manifest.toObject ++
    u.deployments.map Manifest.toObject ++ u.services.map Manifest.toObject ++ u.ingresses.map Manifest.toObject

variable {s : Scope} {spec : EnvironmentSpec}

theorem mem_services {x : Service} : x ∈ (ofScope s spec).services ↔
    x = ideService s ∨ x = databaseService s spec.database := by
  simp [ofScope]

theorem mem_claims {x : Claim} : x ∈ (ofScope s spec).claims ↔ x = ideWorkspace s ∨ x = databaseClaim s := by
  simp [ofScope]

end Suite

section Labels

open Desired

variable {app app' env env' : String}

end Labels

namespace Suite

open Desired

variable {s : Scope} {spec : EnvironmentSpec}

section Engine

variable {db : Database} {engine : DatabaseEngine}

end Engine

end Suite

end EnvironmentOperator
