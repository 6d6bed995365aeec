import EnvironmentOperator.Manifest.Claim

namespace EnvironmentOperator

structure SecretKey where
  key : String := ""
  name : String := ""
  isOptional : Option Bool := none
deriving DecidableEq

instance : JsonForm SecretKey where
  encode x := Json.record [
    ("key", some (encode x.key)),
    ("name", some (encode x.name)),
    ("optional", x.isOptional.map encode)]
  decode j := do
    let m ← membersOf "SecretKeySelector" j
    return {
      key := ← Fields.orElse m "key" ""
      name := ← Fields.orElse m "name" ""
      isOptional := ← Fields.optional m "optional" }

structure EnvironmentSource where
  configMapKey : Option (Shaped .configMapKey) := none
  field : Option (Shaped .objectField) := none
  resource : Option (Shaped .resourceField) := none
  secretKey : Option SecretKey := none
deriving DecidableEq

instance : JsonForm EnvironmentSource where
  encode x := Json.record [
    ("configMapKeyRef", x.configMapKey.map encode),
    ("fieldRef", x.field.map encode),
    ("resourceFieldRef", x.resource.map encode),
    ("secretKeyRef", x.secretKey.map encode)]
  decode j := do
    let m ← membersOf "EnvVarSource" j
    return {
      configMapKey := ← Fields.optional m "configMapKeyRef"
      field := ← Fields.optional m "fieldRef"
      resource := ← Fields.optional m "resourceFieldRef"
      secretKey := ← Fields.optional m "secretKeyRef" }

structure EnvironmentVariable where
  name : String := ""
  value : Option String := none
  valueFrom : Option EnvironmentSource := none
deriving DecidableEq

instance : JsonForm EnvironmentVariable where
  encode x := Json.record [
    ("name", some (encode x.name)),
    ("value", x.value.map encode),
    ("valueFrom", x.valueFrom.map encode)]
  decode j := do
    let m ← membersOf "EnvVar" j
    return {
      name := ← Fields.orElse m "name" ""
      value := ← Fields.optional m "value"
      valueFrom := ← Fields.optional m "valueFrom" }

structure ContainerPort where
  containerPort : Int32 := 0
  hostIP : Option String := none
  hostPort : Option Int32 := none
  name : Option String := none
  protocol : Option String := none
deriving DecidableEq

instance : JsonForm ContainerPort where
  encode x := Json.record [
    ("containerPort", some (encode x.containerPort)),
    ("hostIP", x.hostIP.map encode),
    ("hostPort", x.hostPort.map encode),
    ("name", x.name.map encode),
    ("protocol", x.protocol.map encode)]
  decode j := do
    let m ← membersOf "ContainerPort" j
    return {
      containerPort := ← Fields.orElse m "containerPort" 0
      hostIP := ← Fields.optional m "hostIP"
      hostPort := ← Fields.optional m "hostPort"
      name := ← Fields.optional m "name"
      protocol := ← Fields.optional m "protocol" }

structure VolumeMount where
  mountPath : String := ""
  mountPropagation : Option String := none
  name : String := ""
  readOnly : Option Bool := none
  recursiveReadOnly : Option String := none
  subPath : Option String := none
  subPathExpr : Option String := none
deriving DecidableEq

instance : JsonForm VolumeMount where
  encode x := Json.record [
    ("mountPath", some (encode x.mountPath)),
    ("mountPropagation", x.mountPropagation.map encode),
    ("name", some (encode x.name)),
    ("readOnly", x.readOnly.map encode),
    ("recursiveReadOnly", x.recursiveReadOnly.map encode),
    ("subPath", x.subPath.map encode),
    ("subPathExpr", x.subPathExpr.map encode)]
  decode j := do
    let m ← membersOf "VolumeMount" j
    return {
      mountPath := ← Fields.orElse m "mountPath" ""
      mountPropagation := ← Fields.optional m "mountPropagation"
      name := ← Fields.orElse m "name" ""
      readOnly := ← Fields.optional m "readOnly"
      recursiveReadOnly := ← Fields.optional m "recursiveReadOnly"
      subPath := ← Fields.optional m "subPath"
      subPathExpr := ← Fields.optional m "subPathExpr" }

structure ExecAction where
  command : Option (List String) := none
deriving DecidableEq

instance : JsonForm ExecAction where
  encode x := Json.record [
    ("command", x.command.map encode)]
  decode j := do
    let m ← membersOf "ExecAction" j
    return {
      command := ← Fields.optional m "command" }

structure LifecycleHandler where
  action : Option ExecAction := none
  httpGet : Option (Shaped .httpGet) := none
  sleep : Option (Shaped .sleep) := none
  tcpSocket : Option (Shaped .tcpSocket) := none
deriving DecidableEq

instance : JsonForm LifecycleHandler where
  encode x := Json.record [
    ("exec", x.action.map encode),
    ("httpGet", x.httpGet.map encode),
    ("sleep", x.sleep.map encode),
    ("tcpSocket", x.tcpSocket.map encode)]
  decode j := do
    let m ← membersOf "LifecycleHandler" j
    return {
      action := ← Fields.optional m "exec"
      httpGet := ← Fields.optional m "httpGet"
      sleep := ← Fields.optional m "sleep"
      tcpSocket := ← Fields.optional m "tcpSocket" }

structure ContainerLifecycle where
  postStart : Option LifecycleHandler := none
  preStop : Option LifecycleHandler := none
deriving DecidableEq

instance : JsonForm ContainerLifecycle where
  encode x := Json.record [
    ("postStart", x.postStart.map encode),
    ("preStop", x.preStop.map encode)]
  decode j := do
    let m ← membersOf "Lifecycle" j
    return {
      postStart := ← Fields.optional m "postStart"
      preStop := ← Fields.optional m "preStop" }

structure ContainerResources where
  claims : Option (List (Shaped .resourceClaim)) := none
  limits : Option (Named Quantity) := none
  requests : Option (Named Quantity) := none
deriving DecidableEq

instance : JsonForm ContainerResources where
  encode x := Json.record [
    ("claims", x.claims.map encode),
    ("limits", x.limits.map encode),
    ("requests", x.requests.map encode)]
  decode j := do
    let m ← membersOf "ResourceRequirements" j
    return {
      claims := ← Fields.optional m "claims"
      limits := ← Fields.optional m "limits"
      requests := ← Fields.optional m "requests" }

structure Container where
  args : Option (List String) := none
  command : Option (List String) := none
  env : Option (List EnvironmentVariable) := none
  envFrom : Option (List (Shaped .environmentFrom)) := none
  image : Option String := none
  imagePullPolicy : Option String := none
  lifecycle : Option ContainerLifecycle := none
  livenessProbe : Option (Shaped .probe) := none
  name : String := ""
  ports : Option (List ContainerPort) := none
  readinessProbe : Option (Shaped .probe) := none
  resizePolicy : Option (List (Shaped .resizePolicy)) := none
  resources : Option ContainerResources := none
  restartPolicy : Option String := none
  securityContext : Option (Shaped .securityContext) := none
  startupProbe : Option (Shaped .probe) := none
  stdin : Option Bool := none
  stdinOnce : Option Bool := none
  terminationMessagePath : Option String := none
  terminationMessagePolicy : Option String := none
  tty : Option Bool := none
  volumeDevices : Option (List (Shaped .volumeDevice)) := none
  volumeMounts : Option (List VolumeMount) := none
  workingDir : Option String := none
deriving DecidableEq

instance : JsonForm Container where
  encode x := Json.record [
    ("args", x.args.map encode),
    ("command", x.command.map encode),
    ("env", x.env.map encode),
    ("envFrom", x.envFrom.map encode),
    ("image", x.image.map encode),
    ("imagePullPolicy", x.imagePullPolicy.map encode),
    ("lifecycle", x.lifecycle.map encode),
    ("livenessProbe", x.livenessProbe.map encode),
    ("name", some (encode x.name)),
    ("ports", x.ports.map encode),
    ("readinessProbe", x.readinessProbe.map encode),
    ("resizePolicy", x.resizePolicy.map encode),
    ("resources", x.resources.map encode),
    ("restartPolicy", x.restartPolicy.map encode),
    ("securityContext", x.securityContext.map encode),
    ("startupProbe", x.startupProbe.map encode),
    ("stdin", x.stdin.map encode),
    ("stdinOnce", x.stdinOnce.map encode),
    ("terminationMessagePath", x.terminationMessagePath.map encode),
    ("terminationMessagePolicy", x.terminationMessagePolicy.map encode),
    ("tty", x.tty.map encode),
    ("volumeDevices", x.volumeDevices.map encode),
    ("volumeMounts", x.volumeMounts.map encode),
    ("workingDir", x.workingDir.map encode)]
  decode j := do
    let m ← membersOf "Container" j
    return {
      args := ← Fields.optional m "args"
      command := ← Fields.optional m "command"
      env := ← Fields.optional m "env"
      envFrom := ← Fields.optional m "envFrom"
      image := ← Fields.optional m "image"
      imagePullPolicy := ← Fields.optional m "imagePullPolicy"
      lifecycle := ← Fields.optional m "lifecycle"
      livenessProbe := ← Fields.optional m "livenessProbe"
      name := ← Fields.orElse m "name" ""
      ports := ← Fields.optional m "ports"
      readinessProbe := ← Fields.optional m "readinessProbe"
      resizePolicy := ← Fields.optional m "resizePolicy"
      resources := ← Fields.optional m "resources"
      restartPolicy := ← Fields.optional m "restartPolicy"
      securityContext := ← Fields.optional m "securityContext"
      startupProbe := ← Fields.optional m "startupProbe"
      stdin := ← Fields.optional m "stdin"
      stdinOnce := ← Fields.optional m "stdinOnce"
      terminationMessagePath := ← Fields.optional m "terminationMessagePath"
      terminationMessagePolicy := ← Fields.optional m "terminationMessagePolicy"
      tty := ← Fields.optional m "tty"
      volumeDevices := ← Fields.optional m "volumeDevices"
      volumeMounts := ← Fields.optional m "volumeMounts"
      workingDir := ← Fields.optional m "workingDir" }

structure EphemeralContainer where
  args : Option (List String) := none
  command : Option (List String) := none
  env : Option (List EnvironmentVariable) := none
  envFrom : Option (List (Shaped .environmentFrom)) := none
  image : Option String := none
  imagePullPolicy : Option String := none
  lifecycle : Option ContainerLifecycle := none
  livenessProbe : Option (Shaped .probe) := none
  name : String := ""
  ports : Option (List ContainerPort) := none
  readinessProbe : Option (Shaped .probe) := none
  resizePolicy : Option (List (Shaped .resizePolicy)) := none
  resources : Option ContainerResources := none
  restartPolicy : Option String := none
  securityContext : Option (Shaped .securityContext) := none
  startupProbe : Option (Shaped .probe) := none
  stdin : Option Bool := none
  stdinOnce : Option Bool := none
  targetContainerName : Option String := none
  terminationMessagePath : Option String := none
  terminationMessagePolicy : Option String := none
  tty : Option Bool := none
  volumeDevices : Option (List (Shaped .volumeDevice)) := none
  volumeMounts : Option (List VolumeMount) := none
  workingDir : Option String := none
deriving DecidableEq

instance : JsonForm EphemeralContainer where
  encode x := Json.record [
    ("args", x.args.map encode),
    ("command", x.command.map encode),
    ("env", x.env.map encode),
    ("envFrom", x.envFrom.map encode),
    ("image", x.image.map encode),
    ("imagePullPolicy", x.imagePullPolicy.map encode),
    ("lifecycle", x.lifecycle.map encode),
    ("livenessProbe", x.livenessProbe.map encode),
    ("name", some (encode x.name)),
    ("ports", x.ports.map encode),
    ("readinessProbe", x.readinessProbe.map encode),
    ("resizePolicy", x.resizePolicy.map encode),
    ("resources", x.resources.map encode),
    ("restartPolicy", x.restartPolicy.map encode),
    ("securityContext", x.securityContext.map encode),
    ("startupProbe", x.startupProbe.map encode),
    ("stdin", x.stdin.map encode),
    ("stdinOnce", x.stdinOnce.map encode),
    ("targetContainerName", x.targetContainerName.map encode),
    ("terminationMessagePath", x.terminationMessagePath.map encode),
    ("terminationMessagePolicy", x.terminationMessagePolicy.map encode),
    ("tty", x.tty.map encode),
    ("volumeDevices", x.volumeDevices.map encode),
    ("volumeMounts", x.volumeMounts.map encode),
    ("workingDir", x.workingDir.map encode)]
  decode j := do
    let m ← membersOf "EphemeralContainer" j
    return {
      args := ← Fields.optional m "args"
      command := ← Fields.optional m "command"
      env := ← Fields.optional m "env"
      envFrom := ← Fields.optional m "envFrom"
      image := ← Fields.optional m "image"
      imagePullPolicy := ← Fields.optional m "imagePullPolicy"
      lifecycle := ← Fields.optional m "lifecycle"
      livenessProbe := ← Fields.optional m "livenessProbe"
      name := ← Fields.orElse m "name" ""
      ports := ← Fields.optional m "ports"
      readinessProbe := ← Fields.optional m "readinessProbe"
      resizePolicy := ← Fields.optional m "resizePolicy"
      resources := ← Fields.optional m "resources"
      restartPolicy := ← Fields.optional m "restartPolicy"
      securityContext := ← Fields.optional m "securityContext"
      startupProbe := ← Fields.optional m "startupProbe"
      stdin := ← Fields.optional m "stdin"
      stdinOnce := ← Fields.optional m "stdinOnce"
      targetContainerName := ← Fields.optional m "targetContainerName"
      terminationMessagePath := ← Fields.optional m "terminationMessagePath"
      terminationMessagePolicy := ← Fields.optional m "terminationMessagePolicy"
      tty := ← Fields.optional m "tty"
      volumeDevices := ← Fields.optional m "volumeDevices"
      volumeMounts := ← Fields.optional m "volumeMounts"
      workingDir := ← Fields.optional m "workingDir" }

structure ClaimVolume where
  claimName : String := ""
  readOnly : Option Bool := none
deriving DecidableEq

instance : JsonForm ClaimVolume where
  encode x := Json.record [
    ("claimName", some (encode x.claimName)),
    ("readOnly", x.readOnly.map encode)]
  decode j := do
    let m ← membersOf "PersistentVolumeClaimVolumeSource" j
    return {
      claimName := ← Fields.orElse m "claimName" ""
      readOnly := ← Fields.optional m "readOnly" }

structure ConfigMapVolume where
  defaultMode : Option Int32 := none
  items : Option (List (Shaped .keyToPath)) := none
  name : String := ""
  isOptional : Option Bool := none
deriving DecidableEq

instance : JsonForm ConfigMapVolume where
  encode x := Json.record [
    ("defaultMode", x.defaultMode.map encode),
    ("items", x.items.map encode),
    ("name", some (encode x.name)),
    ("optional", x.isOptional.map encode)]
  decode j := do
    let m ← membersOf "ConfigMapVolumeSource" j
    return {
      defaultMode := ← Fields.optional m "defaultMode"
      items := ← Fields.optional m "items"
      name := ← Fields.orElse m "name" ""
      isOptional := ← Fields.optional m "optional" }

structure ClaimTemplate where
  metadata : Option Metadata := none
  spec : ClaimSpec := {}
deriving DecidableEq

instance : JsonForm ClaimTemplate where
  encode x := Json.record [
    ("metadata", x.metadata.map encode),
    ("spec", some (encode x.spec))]
  decode j := do
    let m ← membersOf "PersistentVolumeClaimTemplate" j
    return {
      metadata := ← Fields.optional m "metadata"
      spec := ← Fields.orElse m "spec" {} }

structure EphemeralVolume where
  template : Option ClaimTemplate := none
deriving DecidableEq

instance : JsonForm EphemeralVolume where
  encode x := Json.record [
    ("volumeClaimTemplate", x.template.map encode)]
  decode j := do
    let m ← membersOf "EphemeralVolumeSource" j
    return {
      template := ← Fields.optional m "volumeClaimTemplate" }

structure Volume where
  awsElasticBlockStore : Option (Shaped .awsElasticBlockStore) := none
  azureDisk : Option (Shaped .azureDisk) := none
  azureFile : Option (Shaped .azureFile) := none
  cephfs : Option (Shaped .cephFs) := none
  cinder : Option (Shaped .cinder) := none
  configMap : Option ConfigMapVolume := none
  csi : Option (Shaped .csi) := none
  downwardAPI : Option (Shaped .downwardApi) := none
  emptyDir : Option (Shaped .emptyDir) := none
  ephemeral : Option EphemeralVolume := none
  fc : Option (Shaped .fc) := none
  flexVolume : Option (Shaped .flexVolume) := none
  flocker : Option (Shaped .flocker) := none
  gcePersistentDisk : Option (Shaped .gcePersistentDisk) := none
  gitRepo : Option (Shaped .gitRepo) := none
  glusterfs : Option (Shaped .glusterfs) := none
  hostPath : Option (Shaped .hostPath) := none
  iscsi : Option (Shaped .iscsi) := none
  name : String := ""
  nfs : Option (Shaped .nfs) := none
  claim : Option ClaimVolume := none
  photonPersistentDisk : Option (Shaped .photonPersistentDisk) := none
  portworxVolume : Option (Shaped .portworxVolume) := none
  projected : Option (Shaped .projected) := none
  quobyte : Option (Shaped .quobyte) := none
  rbd : Option (Shaped .rbd) := none
  scaleIO : Option (Shaped .scaleIo) := none
  secret : Option (Shaped .secretVolume) := none
  storageos : Option (Shaped .storageOs) := none
  vsphereVolume : Option (Shaped .vsphereVolume) := none
deriving DecidableEq

instance : JsonForm Volume where
  encode x := Json.record [
    ("awsElasticBlockStore", x.awsElasticBlockStore.map encode),
    ("azureDisk", x.azureDisk.map encode),
    ("azureFile", x.azureFile.map encode),
    ("cephfs", x.cephfs.map encode),
    ("cinder", x.cinder.map encode),
    ("configMap", x.configMap.map encode),
    ("csi", x.csi.map encode),
    ("downwardAPI", x.downwardAPI.map encode),
    ("emptyDir", x.emptyDir.map encode),
    ("ephemeral", x.ephemeral.map encode),
    ("fc", x.fc.map encode),
    ("flexVolume", x.flexVolume.map encode),
    ("flocker", x.flocker.map encode),
    ("gcePersistentDisk", x.gcePersistentDisk.map encode),
    ("gitRepo", x.gitRepo.map encode),
    ("glusterfs", x.glusterfs.map encode),
    ("hostPath", x.hostPath.map encode),
    ("iscsi", x.iscsi.map encode),
    ("name", some (encode x.name)),
    ("nfs", x.nfs.map encode),
    ("persistentVolumeClaim", x.claim.map encode),
    ("photonPersistentDisk", x.photonPersistentDisk.map encode),
    ("portworxVolume", x.portworxVolume.map encode),
    ("projected", x.projected.map encode),
    ("quobyte", x.quobyte.map encode),
    ("rbd", x.rbd.map encode),
    ("scaleIO", x.scaleIO.map encode),
    ("secret", x.secret.map encode),
    ("storageos", x.storageos.map encode),
    ("vsphereVolume", x.vsphereVolume.map encode)]
  decode j := do
    let m ← membersOf "Volume" j
    return {
      awsElasticBlockStore := ← Fields.optional m "awsElasticBlockStore"
      azureDisk := ← Fields.optional m "azureDisk"
      azureFile := ← Fields.optional m "azureFile"
      cephfs := ← Fields.optional m "cephfs"
      cinder := ← Fields.optional m "cinder"
      configMap := ← Fields.optional m "configMap"
      csi := ← Fields.optional m "csi"
      downwardAPI := ← Fields.optional m "downwardAPI"
      emptyDir := ← Fields.optional m "emptyDir"
      ephemeral := ← Fields.optional m "ephemeral"
      fc := ← Fields.optional m "fc"
      flexVolume := ← Fields.optional m "flexVolume"
      flocker := ← Fields.optional m "flocker"
      gcePersistentDisk := ← Fields.optional m "gcePersistentDisk"
      gitRepo := ← Fields.optional m "gitRepo"
      glusterfs := ← Fields.optional m "glusterfs"
      hostPath := ← Fields.optional m "hostPath"
      iscsi := ← Fields.optional m "iscsi"
      name := ← Fields.orElse m "name" ""
      nfs := ← Fields.optional m "nfs"
      claim := ← Fields.optional m "persistentVolumeClaim"
      photonPersistentDisk := ← Fields.optional m "photonPersistentDisk"
      portworxVolume := ← Fields.optional m "portworxVolume"
      projected := ← Fields.optional m "projected"
      quobyte := ← Fields.optional m "quobyte"
      rbd := ← Fields.optional m "rbd"
      scaleIO := ← Fields.optional m "scaleIO"
      secret := ← Fields.optional m "secret"
      storageos := ← Fields.optional m "storageos"
      vsphereVolume := ← Fields.optional m "vsphereVolume" }

structure PodSpec where
  activeDeadlineSeconds : Option Int64 := none
  affinity : Option (Shaped .affinity) := none
  automountServiceAccountToken : Option Bool := none
  containers : List Container := []
  dnsConfig : Option (Shaped .dnsConfig) := none
  dnsPolicy : Option String := none
  enableServiceLinks : Option Bool := none
  ephemeralContainers : Option (List EphemeralContainer) := none
  hostAliases : Option (List (Shaped .hostAlias)) := none
  hostIPC : Option Bool := none
  hostNetwork : Option Bool := none
  hostPID : Option Bool := none
  hostUsers : Option Bool := none
  hostname : Option String := none
  imagePullSecrets : Option (List (Shaped .localReference)) := none
  initContainers : Option (List Container) := none
  nodeName : Option String := none
  nodeSelector : Option (Named String) := none
  os : Option (Shaped .podOs) := none
  overhead : Option (Named Quantity) := none
  preemptionPolicy : Option String := none
  priority : Option Int32 := none
  priorityClassName : Option String := none
  readinessGates : Option (List (Shaped .readinessGate)) := none
  resourceClaims : Option (List (Shaped .podResourceClaim)) := none
  restartPolicy : Option String := none
  runtimeClassName : Option String := none
  schedulerName : Option String := none
  schedulingGates : Option (List (Shaped .schedulingGate)) := none
  securityContext : Option (Shaped .podSecurityContext) := none
  serviceAccount : Option String := none
  serviceAccountName : Option String := none
  setHostnameAsFQDN : Option Bool := none
  shareProcessNamespace : Option Bool := none
  subdomain : Option String := none
  terminationGracePeriodSeconds : Option Int64 := none
  tolerations : Option (List (Shaped .toleration)) := none
  topologySpreadConstraints : Option (List (Shaped .topologySpread)) := none
  volumes : Option (List Volume) := none
deriving DecidableEq

instance : JsonForm PodSpec where
  encode x := Json.record [
    ("activeDeadlineSeconds", x.activeDeadlineSeconds.map encode),
    ("affinity", x.affinity.map encode),
    ("automountServiceAccountToken", x.automountServiceAccountToken.map encode),
    ("containers", some (encode x.containers)),
    ("dnsConfig", x.dnsConfig.map encode),
    ("dnsPolicy", x.dnsPolicy.map encode),
    ("enableServiceLinks", x.enableServiceLinks.map encode),
    ("ephemeralContainers", x.ephemeralContainers.map encode),
    ("hostAliases", x.hostAliases.map encode),
    ("hostIPC", x.hostIPC.map encode),
    ("hostNetwork", x.hostNetwork.map encode),
    ("hostPID", x.hostPID.map encode),
    ("hostUsers", x.hostUsers.map encode),
    ("hostname", x.hostname.map encode),
    ("imagePullSecrets", x.imagePullSecrets.map encode),
    ("initContainers", x.initContainers.map encode),
    ("nodeName", x.nodeName.map encode),
    ("nodeSelector", x.nodeSelector.map encode),
    ("os", x.os.map encode),
    ("overhead", x.overhead.map encode),
    ("preemptionPolicy", x.preemptionPolicy.map encode),
    ("priority", x.priority.map encode),
    ("priorityClassName", x.priorityClassName.map encode),
    ("readinessGates", x.readinessGates.map encode),
    ("resourceClaims", x.resourceClaims.map encode),
    ("restartPolicy", x.restartPolicy.map encode),
    ("runtimeClassName", x.runtimeClassName.map encode),
    ("schedulerName", x.schedulerName.map encode),
    ("schedulingGates", x.schedulingGates.map encode),
    ("securityContext", x.securityContext.map encode),
    ("serviceAccount", x.serviceAccount.map encode),
    ("serviceAccountName", x.serviceAccountName.map encode),
    ("setHostnameAsFQDN", x.setHostnameAsFQDN.map encode),
    ("shareProcessNamespace", x.shareProcessNamespace.map encode),
    ("subdomain", x.subdomain.map encode),
    ("terminationGracePeriodSeconds", x.terminationGracePeriodSeconds.map encode),
    ("tolerations", x.tolerations.map encode),
    ("topologySpreadConstraints", x.topologySpreadConstraints.map encode),
    ("volumes", x.volumes.map encode)]
  decode j := do
    let m ← membersOf "PodSpec" j
    return {
      activeDeadlineSeconds := ← Fields.optional m "activeDeadlineSeconds"
      affinity := ← Fields.optional m "affinity"
      automountServiceAccountToken := ← Fields.optional m "automountServiceAccountToken"
      containers := ← Fields.orElse m "containers" []
      dnsConfig := ← Fields.optional m "dnsConfig"
      dnsPolicy := ← Fields.optional m "dnsPolicy"
      enableServiceLinks := ← Fields.optional m "enableServiceLinks"
      ephemeralContainers := ← Fields.optional m "ephemeralContainers"
      hostAliases := ← Fields.optional m "hostAliases"
      hostIPC := ← Fields.optional m "hostIPC"
      hostNetwork := ← Fields.optional m "hostNetwork"
      hostPID := ← Fields.optional m "hostPID"
      hostUsers := ← Fields.optional m "hostUsers"
      hostname := ← Fields.optional m "hostname"
      imagePullSecrets := ← Fields.optional m "imagePullSecrets"
      initContainers := ← Fields.optional m "initContainers"
      nodeName := ← Fields.optional m "nodeName"
      nodeSelector := ← Fields.optional m "nodeSelector"
      os := ← Fields.optional m "os"
      overhead := ← Fields.optional m "overhead"
      preemptionPolicy := ← Fields.optional m "preemptionPolicy"
      priority := ← Fields.optional m "priority"
      priorityClassName := ← Fields.optional m "priorityClassName"
      readinessGates := ← Fields.optional m "readinessGates"
      resourceClaims := ← Fields.optional m "resourceClaims"
      restartPolicy := ← Fields.optional m "restartPolicy"
      runtimeClassName := ← Fields.optional m "runtimeClassName"
      schedulerName := ← Fields.optional m "schedulerName"
      schedulingGates := ← Fields.optional m "schedulingGates"
      securityContext := ← Fields.optional m "securityContext"
      serviceAccount := ← Fields.optional m "serviceAccount"
      serviceAccountName := ← Fields.optional m "serviceAccountName"
      setHostnameAsFQDN := ← Fields.optional m "setHostnameAsFQDN"
      shareProcessNamespace := ← Fields.optional m "shareProcessNamespace"
      subdomain := ← Fields.optional m "subdomain"
      terminationGracePeriodSeconds := ← Fields.optional m "terminationGracePeriodSeconds"
      tolerations := ← Fields.optional m "tolerations"
      topologySpreadConstraints := ← Fields.optional m "topologySpreadConstraints"
      volumes := ← Fields.optional m "volumes" }

structure PodTemplate where
  metadata : Option Metadata := none
  spec : Option PodSpec := none
deriving DecidableEq

instance : JsonForm PodTemplate where
  encode x := Json.record [
    ("metadata", x.metadata.map encode),
    ("spec", x.spec.map encode)]
  decode j := do
    let m ← membersOf "PodTemplateSpec" j
    return {
      metadata := ← Fields.optional m "metadata"
      spec := ← Fields.optional m "spec" }

end EnvironmentOperator
