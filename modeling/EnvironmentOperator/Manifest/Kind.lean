namespace EnvironmentOperator

structure Resource where
  group : String
  version : String
  apiVersion : String
  kind : String
  plural : String
deriving DecidableEq

inductive Kind where
  | «namespace»
  | configMap
  | secret
  | service
  | claim
  | deployment
  | ingress
  | issuer
  | certificate
  | environment
deriving DecidableEq

namespace Kind

def all : List Kind :=
  [.namespace, .configMap, .secret, .service, .claim, .deployment, .ingress, .issuer, .certificate,
    .environment]

def name : Kind → String
  | .namespace => "Namespace"
  | .configMap => "ConfigMap"
  | .secret => "Secret"
  | .service => "Service"
  | .claim => "PersistentVolumeClaim"
  | .deployment => "Deployment"
  | .ingress => "Ingress"
  | .issuer => "Issuer"
  | .certificate => "Certificate"
  | .environment => "DeveloperEnvironment"

def group : Kind → String
  | .deployment => "apps"
  | .ingress => "networking.k8s.io"
  | .issuer | .certificate => "cert-manager.io"
  | .environment => "api.adityajoshi.online"
  | _ => ""

def version (_ : Kind) : String := "v1"

def apiVersion (k : Kind) : String :=
  if k.group = "" then k.version else k.group ++ "/" ++ k.version

def plural : Kind → String
  | .namespace => "namespaces"
  | .configMap => "configmaps"
  | .secret => "secrets"
  | .service => "services"
  | .claim => "persistentvolumeclaims"
  | .deployment => "deployments"
  | .ingress => "ingresses"
  | .issuer => "issuers"
  | .certificate => "certificates"
  | .environment => "developerenvironments"

def resource (k : Kind) : Resource := ⟨k.group, k.version, k.apiVersion, k.name, k.plural⟩

def ofName? (s : String) : Option Kind := all.find? (fun k => k.name = s)

theorem name_injective {a b : Kind} (h : a.name = b.name) : a = b := by
  revert h
  cases a <;> cases b <;> decide

end Kind

end EnvironmentOperator
