import EnvironmentOperator.Decoding.Shape
/-!
The parts of manifests that the operator does not look into. They are read, compared and written back with the rest.
-/
namespace EnvironmentOperator.Schema

def labelRequirement : Schema where
  shape := .record "LabelSelectorRequirement" [
    ("key", .required, .text),
    ("operator", .required, .text),
    ("values", .optional, .list .text)]

def labelSelector : Schema where
  shape := .record "LabelSelector" [
    ("matchExpressions", .optional, .list labelRequirement.shape),
    ("matchLabels", .optional, .named .text)]

def localReference : Schema where
  shape := .record "LocalObjectReference" [
    ("name", .required, .text)]

def typedReference : Schema where
  shape := .record "TypedLocalObjectReference" [
    ("apiGroup", .optional, .text),
    ("kind", .required, .text),
    ("name", .required, .text)]

def namespacedReference : Schema where
  shape := .record "TypedObjectReference" [
    ("apiGroup", .optional, .text),
    ("kind", .required, .text),
    ("name", .required, .text),
    ("namespace", .optional, .text)]

def configMapKey : Schema where
  shape := .record "ConfigMapKeySelector" [
    ("key", .required, .text),
    ("name", .required, .text),
    ("optional", .optional, .flag)]

def objectField : Schema where
  shape := .record "ObjectFieldSelector" [
    ("apiVersion", .optional, .text),
    ("fieldPath", .required, .text)]

def resourceField : Schema where
  shape := .record "ResourceFieldSelector" [
    ("containerName", .optional, .text),
    ("divisor", .optional, .quantity),
    ("resource", .required, .text)]

def configMapEnvironment : Schema where
  shape := .record "ConfigMapEnvSource" [
    ("name", .required, .text),
    ("optional", .optional, .flag)]

def secretEnvironment : Schema where
  shape := .record "SecretEnvSource" [
    ("name", .required, .text),
    ("optional", .optional, .flag)]

def environmentFrom : Schema where
  shape := .record "EnvFromSource" [
    ("configMapRef", .optional, configMapEnvironment.shape),
    ("prefix", .optional, .text),
    ("secretRef", .optional, secretEnvironment.shape)]

def execAction : Schema where
  shape := .record "ExecAction" [
    ("command", .optional, .list .text)]

def httpHeader : Schema where
  shape := .record "HTTPHeader" [
    ("name", .required, .text),
    ("value", .required, .text)]

def httpGet : Schema where
  shape := .record "HTTPGetAction" [
    ("host", .optional, .text),
    ("httpHeaders", .optional, .list httpHeader.shape),
    ("path", .optional, .text),
    ("port", .required, .port),
    ("scheme", .optional, .text)]

def sleep : Schema where
  shape := .record "SleepAction" [
    ("seconds", .required, .int64)]

def tcpSocket : Schema where
  shape := .record "TCPSocketAction" [
    ("host", .optional, .text),
    ("port", .required, .port)]

def grpc : Schema where
  shape := .record "GRPCAction" [
    ("port", .required, .int32),
    ("service", .optional, .text)]

def probe : Schema where
  shape := .record "Probe" [
    ("exec", .optional, execAction.shape),
    ("failureThreshold", .optional, .int32),
    ("grpc", .optional, grpc.shape),
    ("httpGet", .optional, httpGet.shape),
    ("initialDelaySeconds", .optional, .int32),
    ("periodSeconds", .optional, .int32),
    ("successThreshold", .optional, .int32),
    ("tcpSocket", .optional, tcpSocket.shape),
    ("terminationGracePeriodSeconds", .optional, .int64),
    ("timeoutSeconds", .optional, .int32)]

def resizePolicy : Schema where
  shape := .record "ContainerResizePolicy" [
    ("resourceName", .required, .text),
    ("restartPolicy", .required, .text)]

def resourceClaim : Schema where
  shape := .record "ResourceClaim" [
    ("name", .required, .text)]

def appArmorProfile : Schema where
  shape := .record "AppArmorProfile" [
    ("localhostProfile", .optional, .text),
    ("type", .required, .text)]

def capabilities : Schema where
  shape := .record "Capabilities" [
    ("add", .optional, .list .text),
    ("drop", .optional, .list .text)]

def seLinuxOptions : Schema where
  shape := .record "SELinuxOptions" [
    ("level", .optional, .text),
    ("role", .optional, .text),
    ("type", .optional, .text),
    ("user", .optional, .text)]

def seccompProfile : Schema where
  shape := .record "SeccompProfile" [
    ("localhostProfile", .optional, .text),
    ("type", .required, .text)]

def windowsOptions : Schema where
  shape := .record "WindowsSecurityContextOptions" [
    ("gmsaCredentialSpec", .optional, .text),
    ("gmsaCredentialSpecName", .optional, .text),
    ("hostProcess", .optional, .flag),
    ("runAsUserName", .optional, .text)]

def securityContext : Schema where
  shape := .record "SecurityContext" [
    ("allowPrivilegeEscalation", .optional, .flag),
    ("appArmorProfile", .optional, appArmorProfile.shape),
    ("capabilities", .optional, capabilities.shape),
    ("privileged", .optional, .flag),
    ("procMount", .optional, .text),
    ("readOnlyRootFilesystem", .optional, .flag),
    ("runAsGroup", .optional, .int64),
    ("runAsNonRoot", .optional, .flag),
    ("runAsUser", .optional, .int64),
    ("seLinuxOptions", .optional, seLinuxOptions.shape),
    ("seccompProfile", .optional, seccompProfile.shape),
    ("windowsOptions", .optional, windowsOptions.shape)]

def volumeDevice : Schema where
  shape := .record "VolumeDevice" [
    ("devicePath", .required, .text),
    ("name", .required, .text)]

def nodeRequirement : Schema where
  shape := .record "NodeSelectorRequirement" [
    ("key", .required, .text),
    ("operator", .required, .text),
    ("values", .optional, .list .text)]

def nodeTerm : Schema where
  shape := .record "NodeSelectorTerm" [
    ("matchExpressions", .optional, .list nodeRequirement.shape),
    ("matchFields", .optional, .list nodeRequirement.shape)]

def nodeSelector : Schema where
  shape := .record "NodeSelector" [
    ("nodeSelectorTerms", .required, .list nodeTerm.shape)]

def preferredTerm : Schema where
  shape := .record "PreferredSchedulingTerm" [
    ("preference", .required, nodeTerm.shape),
    ("weight", .required, .int32)]

def nodeAffinity : Schema where
  shape := .record "NodeAffinity" [
    ("preferredDuringSchedulingIgnoredDuringExecution", .optional, .list preferredTerm.shape),
    ("requiredDuringSchedulingIgnoredDuringExecution", .optional, nodeSelector.shape)]

def podAffinityTerm : Schema where
  shape := .record "PodAffinityTerm" [
    ("labelSelector", .optional, labelSelector.shape),
    ("matchLabelKeys", .optional, .list .text),
    ("mismatchLabelKeys", .optional, .list .text),
    ("namespaceSelector", .optional, labelSelector.shape),
    ("namespaces", .optional, .list .text),
    ("topologyKey", .required, .text)]

def weightedTerm : Schema where
  shape := .record "WeightedPodAffinityTerm" [
    ("podAffinityTerm", .required, podAffinityTerm.shape),
    ("weight", .required, .int32)]

def podAffinity : Schema where
  shape := .record "PodAffinity" [
    ("preferredDuringSchedulingIgnoredDuringExecution", .optional, .list weightedTerm.shape),
    ("requiredDuringSchedulingIgnoredDuringExecution", .optional, .list podAffinityTerm.shape)]

def podAntiAffinity : Schema where
  shape := .record "PodAntiAffinity" [
    ("preferredDuringSchedulingIgnoredDuringExecution", .optional, .list weightedTerm.shape),
    ("requiredDuringSchedulingIgnoredDuringExecution", .optional, .list podAffinityTerm.shape)]

def affinity : Schema where
  shape := .record "Affinity" [
    ("nodeAffinity", .optional, nodeAffinity.shape),
    ("podAffinity", .optional, podAffinity.shape),
    ("podAntiAffinity", .optional, podAntiAffinity.shape)]

def dnsOption : Schema where
  shape := .record "PodDNSConfigOption" [
    ("name", .optional, .text),
    ("value", .optional, .text)]

def dnsConfig : Schema where
  shape := .record "PodDNSConfig" [
    ("nameservers", .optional, .list .text),
    ("options", .optional, .list dnsOption.shape),
    ("searches", .optional, .list .text)]

def hostAlias : Schema where
  shape := .record "HostAlias" [
    ("hostnames", .optional, .list .text),
    ("ip", .required, .text)]

def podOs : Schema where
  shape := .record "PodOS" [
    ("name", .required, .text)]

def readinessGate : Schema where
  shape := .record "PodReadinessGate" [
    ("conditionType", .required, .text)]

def claimSource : Schema where
  shape := .record "ClaimSource" [
    ("resourceClaimName", .optional, .text),
    ("resourceClaimTemplateName", .optional, .text)]

def podResourceClaim : Schema where
  shape := .record "PodResourceClaim" [
    ("name", .required, .text),
    ("source", .optional, claimSource.shape)]

def schedulingGate : Schema where
  shape := .record "PodSchedulingGate" [
    ("name", .required, .text)]

def sysctl : Schema where
  shape := .record "Sysctl" [
    ("name", .required, .text),
    ("value", .required, .text)]

def podSecurityContext : Schema where
  shape := .record "PodSecurityContext" [
    ("appArmorProfile", .optional, appArmorProfile.shape),
    ("fsGroup", .optional, .int64),
    ("fsGroupChangePolicy", .optional, .text),
    ("runAsGroup", .optional, .int64),
    ("runAsNonRoot", .optional, .flag),
    ("runAsUser", .optional, .int64),
    ("seLinuxOptions", .optional, seLinuxOptions.shape),
    ("seccompProfile", .optional, seccompProfile.shape),
    ("supplementalGroups", .optional, .list .int64),
    ("sysctls", .optional, .list sysctl.shape),
    ("windowsOptions", .optional, windowsOptions.shape)]

def toleration : Schema where
  shape := .record "Toleration" [
    ("effect", .optional, .text),
    ("key", .optional, .text),
    ("operator", .optional, .text),
    ("tolerationSeconds", .optional, .int64),
    ("value", .optional, .text)]

def topologySpread : Schema where
  shape := .record "TopologySpreadConstraint" [
    ("labelSelector", .optional, labelSelector.shape),
    ("matchLabelKeys", .optional, .list .text),
    ("maxSkew", .required, .int32),
    ("minDomains", .optional, .int32),
    ("nodeAffinityPolicy", .optional, .text),
    ("nodeTaintsPolicy", .optional, .text),
    ("topologyKey", .required, .text),
    ("whenUnsatisfiable", .required, .text)]

def keyToPath : Schema where
  shape := .record "KeyToPath" [
    ("key", .required, .text),
    ("mode", .optional, .int32),
    ("path", .required, .text)]

def awsElasticBlockStore : Schema where
  shape := .record "AWSElasticBlockStoreVolumeSource" [
    ("fsType", .optional, .text),
    ("partition", .optional, .int32),
    ("readOnly", .optional, .flag),
    ("volumeID", .required, .text)]

def azureDisk : Schema where
  shape := .record "AzureDiskVolumeSource" [
    ("cachingMode", .optional, .text),
    ("diskName", .required, .text),
    ("diskURI", .required, .text),
    ("fsType", .optional, .text),
    ("kind", .optional, .text),
    ("readOnly", .optional, .flag)]

def azureFile : Schema where
  shape := .record "AzureFileVolumeSource" [
    ("readOnly", .optional, .flag),
    ("secretName", .required, .text),
    ("shareName", .required, .text)]

def cephFs : Schema where
  shape := .record "CephFSVolumeSource" [
    ("monitors", .required, .list .text),
    ("path", .optional, .text),
    ("readOnly", .optional, .flag),
    ("secretFile", .optional, .text),
    ("secretRef", .optional, localReference.shape),
    ("user", .optional, .text)]

def cinder : Schema where
  shape := .record "CinderVolumeSource" [
    ("fsType", .optional, .text),
    ("readOnly", .optional, .flag),
    ("secretRef", .optional, localReference.shape),
    ("volumeID", .required, .text)]

def csi : Schema where
  shape := .record "CSIVolumeSource" [
    ("driver", .required, .text),
    ("fsType", .optional, .text),
    ("nodePublishSecretRef", .optional, localReference.shape),
    ("readOnly", .optional, .flag),
    ("volumeAttributes", .optional, .named .text)]

def downwardFile : Schema where
  shape := .record "DownwardAPIVolumeFile" [
    ("fieldRef", .optional, objectField.shape),
    ("mode", .optional, .int32),
    ("path", .required, .text),
    ("resourceFieldRef", .optional, resourceField.shape)]

def downwardApi : Schema where
  shape := .record "DownwardAPIVolumeSource" [
    ("defaultMode", .optional, .int32),
    ("items", .optional, .list downwardFile.shape)]

def emptyDir : Schema where
  shape := .record "EmptyDirVolumeSource" [
    ("medium", .optional, .text),
    ("sizeLimit", .optional, .quantity)]

def fc : Schema where
  shape := .record "FCVolumeSource" [
    ("fsType", .optional, .text),
    ("lun", .optional, .int32),
    ("readOnly", .optional, .flag),
    ("targetWWNs", .optional, .list .text),
    ("wwids", .optional, .list .text)]

def flexVolume : Schema where
  shape := .record "FlexVolumeSource" [
    ("driver", .required, .text),
    ("fsType", .optional, .text),
    ("options", .optional, .named .text),
    ("readOnly", .optional, .flag),
    ("secretRef", .optional, localReference.shape)]

def flocker : Schema where
  shape := .record "FlockerVolumeSource" [
    ("datasetName", .optional, .text),
    ("datasetUUID", .optional, .text)]

def gcePersistentDisk : Schema where
  shape := .record "GCEPersistentDiskVolumeSource" [
    ("fsType", .optional, .text),
    ("partition", .optional, .int32),
    ("pdName", .required, .text),
    ("readOnly", .optional, .flag)]

def gitRepo : Schema where
  shape := .record "GitRepoVolumeSource" [
    ("directory", .optional, .text),
    ("repository", .required, .text),
    ("revision", .optional, .text)]

def glusterfs : Schema where
  shape := .record "GlusterfsVolumeSource" [
    ("endpoints", .required, .text),
    ("path", .required, .text),
    ("readOnly", .optional, .flag)]

def hostPath : Schema where
  shape := .record "HostPathVolumeSource" [
    ("path", .required, .text),
    ("type", .optional, .text)]

def iscsi : Schema where
  shape := .record "ISCSIVolumeSource" [
    ("chapAuthDiscovery", .optional, .flag),
    ("chapAuthSession", .optional, .flag),
    ("fsType", .optional, .text),
    ("initiatorName", .optional, .text),
    ("iqn", .required, .text),
    ("iscsiInterface", .optional, .text),
    ("lun", .required, .int32),
    ("portals", .optional, .list .text),
    ("readOnly", .optional, .flag),
    ("secretRef", .optional, localReference.shape),
    ("targetPortal", .required, .text)]

def nfs : Schema where
  shape := .record "NFSVolumeSource" [
    ("path", .required, .text),
    ("readOnly", .optional, .flag),
    ("server", .required, .text)]

def photonPersistentDisk : Schema where
  shape := .record "PhotonPersistentDiskVolumeSource" [
    ("fsType", .optional, .text),
    ("pdID", .required, .text)]

def portworxVolume : Schema where
  shape := .record "PortworxVolumeSource" [
    ("fsType", .optional, .text),
    ("readOnly", .optional, .flag),
    ("volumeID", .required, .text)]

def clusterTrustBundle : Schema where
  shape := .record "ClusterTrustBundleProjection" [
    ("labelSelector", .optional, labelSelector.shape),
    ("name", .optional, .text),
    ("optional", .optional, .flag),
    ("path", .required, .text),
    ("signerName", .optional, .text)]

def configMapProjection : Schema where
  shape := .record "ConfigMapProjection" [
    ("items", .optional, .list keyToPath.shape),
    ("name", .required, .text),
    ("optional", .optional, .flag)]

def downwardProjection : Schema where
  shape := .record "DownwardAPIProjection" [
    ("items", .optional, .list downwardFile.shape)]

def secretProjection : Schema where
  shape := .record "SecretProjection" [
    ("items", .optional, .list keyToPath.shape),
    ("name", .required, .text),
    ("optional", .optional, .flag)]

def accountTokenProjection : Schema where
  shape := .record "ServiceAccountTokenProjection" [
    ("audience", .optional, .text),
    ("expirationSeconds", .optional, .int64),
    ("path", .required, .text)]

def volumeProjection : Schema where
  shape := .record "VolumeProjection" [
    ("clusterTrustBundle", .optional, clusterTrustBundle.shape),
    ("configMap", .optional, configMapProjection.shape),
    ("downwardAPI", .optional, downwardProjection.shape),
    ("secret", .optional, secretProjection.shape),
    ("serviceAccountToken", .optional, accountTokenProjection.shape)]

def projected : Schema where
  shape := .record "ProjectedVolumeSource" [
    ("defaultMode", .optional, .int32),
    ("sources", .optional, .list volumeProjection.shape)]

def quobyte : Schema where
  shape := .record "QuobyteVolumeSource" [
    ("group", .optional, .text),
    ("readOnly", .optional, .flag),
    ("registry", .required, .text),
    ("tenant", .optional, .text),
    ("user", .optional, .text),
    ("volume", .required, .text)]

def rbd : Schema where
  shape := .record "RBDVolumeSource" [
    ("fsType", .optional, .text),
    ("image", .required, .text),
    ("keyring", .optional, .text),
    ("monitors", .required, .list .text),
    ("pool", .optional, .text),
    ("readOnly", .optional, .flag),
    ("secretRef", .optional, localReference.shape),
    ("user", .optional, .text)]

def scaleIo : Schema where
  shape := .record "ScaleIOVolumeSource" [
    ("fsType", .optional, .text),
    ("gateway", .required, .text),
    ("protectionDomain", .optional, .text),
    ("readOnly", .optional, .flag),
    ("secretRef", .required, localReference.shape),
    ("sslEnabled", .optional, .flag),
    ("storageMode", .optional, .text),
    ("storagePool", .optional, .text),
    ("system", .required, .text),
    ("volumeName", .optional, .text)]

def secretVolume : Schema where
  shape := .record "SecretVolumeSource" [
    ("defaultMode", .optional, .int32),
    ("items", .optional, .list keyToPath.shape),
    ("optional", .optional, .flag),
    ("secretName", .optional, .text)]

def storageOs : Schema where
  shape := .record "StorageOSVolumeSource" [
    ("fsType", .optional, .text),
    ("readOnly", .optional, .flag),
    ("secretRef", .optional, localReference.shape),
    ("volumeName", .optional, .text),
    ("volumeNamespace", .optional, .text)]

def vsphereVolume : Schema where
  shape := .record "VsphereVirtualDiskVolumeSource" [
    ("fsType", .optional, .text),
    ("storagePolicyID", .optional, .text),
    ("storagePolicyName", .optional, .text),
    ("volumePath", .required, .text)]

def modifyVolumeStatus : Schema where
  shape := .record "ModifyVolumeStatus" [
    ("status", .required, .text),
    ("targetVolumeAttributesClassName", .optional, .text)]

def clientIp : Schema where
  shape := .record "ClientIPConfig" [
    ("timeoutSeconds", .optional, .int32)]

def sessionAffinity : Schema where
  shape := .record "SessionAffinityConfig" [
    ("clientIP", .optional, clientIp.shape)]

def portStatus : Schema where
  shape := .record "PortStatus" [
    ("error", .optional, .text),
    ("port", .required, .int32),
    ("protocol", .required, .text)]

def ingressPortStatus : Schema where
  shape := .record "IngressPortStatus" [
    ("error", .optional, .text),
    ("port", .required, .int32),
    ("protocol", .required, .text)]

end EnvironmentOperator.Schema
