import EnvironmentOperator.Desired.Label
import EnvironmentOperator.Desired.Storage
import EnvironmentOperator.Desired.Tools
import EnvironmentOperator.Manifest.Deployment
import EnvironmentOperator.Manifest.Ingress
import EnvironmentOperator.Manifest.Secret
import EnvironmentOperator.Manifest.Service

namespace EnvironmentOperator.Desired

def ideApp : String := "vscode-server"

def idePort : Int32 := 8443

def workspaceVolume : String := "workspace"

def toolsVolume : String := "tools-script"

def toolsMount : String := "/config/tools"

def passwordKey : String := "password"

def ingressClass : String := "nginx"

def ideLabels (s : Scope) : Named String := appLabels ideApp s.name

def ideMetadata (s : Scope) (name : String) : Metadata :=
  { name := some name, «namespace» := some s.namespace, labels := some (ideLabels s) }

def ideWorkspace (s : Scope) : Claim := volumeClaim (Names.ideWorkspace s.name) s.namespace (ideLabels s)

def idePassword (s : Scope) (spec : EnvironmentSpec) : Secret where
  metadata := ideMetadata s (Names.idePassword s.name)
  data := some (.ofList [(passwordKey, Bytes.ofText spec.ide.password)])

def postStartCommand? (extensions : List String) : Option String :=
  if extensions = [] then none
  else some ("." ++ toolsMount ++ "/" ++ scriptKey ++
    " && ./app/code-server/bin/code-server --extensions-dir /config/extensions --install-extension " ++
    " --install-extension ".intercalate extensions)

def passwordVariable (s : Scope) (name : String) : EnvironmentVariable where
  name := name
  valueFrom := some { secretKey := some { name := Names.idePassword s.name, key := passwordKey } }

def quantities (cpu memory : String) : Named Quantity := .ofList [("cpu", ⟨cpu⟩), ("memory", ⟨memory⟩)]

def postStart (command : String) : ContainerLifecycle where
  postStart := some { action := some { command := some ["/bin/bash", "-c", command] } }

def ideContainer (s : Scope) (spec : EnvironmentSpec) : Container where
  name := ideApp
  image := some "linuxserver/code-server:4.95.3"
  imagePullPolicy := some "IfNotPresent"
  ports := some [{ name := some "http", containerPort := idePort }]
  env := some [
    { name := "PUID", value := some "1000" },
    { name := "PGID", value := some "1000" },
    passwordVariable s "PASSWORD",
    passwordVariable s "SUDO_PASSWORD"]
  lifecycle := (postStartCommand? spec.ide.extensions).map postStart
  volumeMounts := some [
    { name := workspaceVolume, mountPath := "/config/workspace" },
    { name := toolsVolume, mountPath := toolsMount }]
  resources := some { requests := some (quantities "500m" "512Mi"), limits := some (quantities "1" "1Gi") }

def ideVolumes (s : Scope) : List Volume := [
  { name := workspaceVolume, claim := some { claimName := Names.ideWorkspace s.name } },
  { name := toolsVolume, configMap := some { name := Names.toolsConfigMap s.name, defaultMode := some 0o777 } }]

def ideDeployment (s : Scope) (spec : EnvironmentSpec) : Deployment where
  metadata := { ideMetadata s (Names.ideServer s.name) with
    labels := some ((ideLabels s).put "developer-env-uid" s.uid) }
  spec := some {
    replicas := some 1
    selector := { matchLabels := some (ideLabels s) }
    template := {
      metadata := some { labels := some (ideLabels s) }
      spec := some { containers := [ideContainer s spec], volumes := some (ideVolumes s) } } }

def ideService (s : Scope) : Service where
  metadata := ideMetadata s (Names.ideServer s.name)
  spec := some {
    selector := some (ideLabels s)
    ports := some [{ name := some "http", port := idePort, targetPort := some (.number idePort) }]
    serviceType := some "ClusterIP" }

def idePath (s : Scope) : IngressPath where
  path := some "/"
  pathType := "Prefix"
  backend := { service := some { name := Names.ideServer s.name, port := some { number := some idePort } } }

def ideIngress (s : Scope) : Ingress where
  metadata := { ideMetadata s (Names.ideIngress s.name) with
    annotations := some (.ofList [
      ("cert-manager.io/issuer", Names.issuer),
      ("kubernetes.io/ingress.class", ingressClass),
      ("nginx.ingress.kubernetes.io/force-ssl-redirect", "true")]) }
  spec := some {
    ingressClassName := some ingressClass
    rules := some [{ host := some s.host, http := some { paths := [idePath s] } }]
    tls := some [{ hosts := some [s.host], secretName := some s.host }] }

end EnvironmentOperator.Desired
