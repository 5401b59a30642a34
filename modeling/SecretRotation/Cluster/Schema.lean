import SecretRotation.Json.Shape

/-!
# The members of cluster objects

What the API knows of workloads beside the members that the operator looks at: these are read and
written, and never looked at. The tables follow the API of Kubernetes 1.30. Members that a table
does not name are dropped when an object is read.

## Main definitions

* `Schema.otherOfObjectMeta`, `Schema.otherOfContainer`, `Schema.otherOfVolume`,
  `Schema.otherOfPodSpec`: the other members of the parts that the operator looks into.
* `Schema.otherOfDeploymentSpec`, `Schema.deploymentStatus` and the same for the other kinds.
-/

namespace SecretRotation.Schema

open Json (Shape Members)

/-! ### Plain shapes -/

/-- A list of texts. -/
abbrev texts : Shape := .list .text

/-- A map from texts to texts; amounts are texts, too. -/
abbrev textMap : Shape := .strings

/-! ### Metadata -/

/-- The members that one manager of an object has set. -/
def managedFields : Shape := .record <|
  .optional "apiVersion" .text <|
  .optional "fieldsType" .text <|
  .optional "fieldsV1" .anything <|
  .optional "manager" .text <|
  .optional "operation" .text <|
  .optional "subresource" .text <|
  .optional "time" .timestamp .nil

/-- An object that another one belongs to. -/
def ownerReference : Shape := .record <|
  .required "apiVersion" .text <|
  .optional "blockOwnerDeletion" .truth <|
  .optional "controller" .truth <|
  .required "kind" .text <|
  .required "name" .text <|
  .required "uid" .text .nil

/-- The other members of metadata. -/
def otherOfObjectMeta : Members :=
  .optional "creationTimestamp" .timestamp <|
  .optional "deletionGracePeriodSeconds" .int64 <|
  .optional "deletionTimestamp" .timestamp <|
  .optional "finalizers" texts <|
  .optional "generation" .int64 <|
  .optional "labels" textMap <|
  .optional "managedFields" (.list managedFields) <|
  .optional "ownerReferences" (.list ownerReference) <|
  .optional "selfLink" .text <|
  .optional "uid" .text .nil

/-- Metadata as a whole. -/
def objectMeta : Shape := .record <|
  .optional "annotations" textMap <|
  .optional "generateName" .text <|
  .optional "name" .text <|
  .optional "namespace" .text <|
  .optional "resourceVersion" .text otherOfObjectMeta

/-- A condition on the labels of objects. -/
def labelSelector : Shape := .record <|
  .optional "matchExpressions" (.list <| .record <|
    .required "key" .text <|
    .required "operator" .text <|
    .optional "values" texts .nil) <|
  .optional "matchLabels" textMap .nil

/-! ### References -/

/-- The other members of a reference by name that may be optional. -/
def otherOfNamedRef : Members :=
  .optional "optional" .truth .nil

/-- The other members of a reference to a key. -/
def otherOfKeyRef : Members :=
  .required "key" .text <|
  .optional "optional" .truth .nil

/-- A reference by name. -/
def localRef : Shape := .record <|
  .required "name" .text .nil

/-- A reference to a field of the pod. -/
def fieldRef : Shape := .record <|
  .optional "apiVersion" .text <|
  .required "fieldPath" .text .nil

/-- A reference to an amount that a container may use. -/
def resourceFieldRef : Shape := .record <|
  .optional "containerName" .text <|
  .optional "divisor" .text <|
  .required "resource" .text .nil

/-! ### Actions -/

/-- A command to run. -/
def execAction : Shape := .record <|
  .optional "command" texts .nil

/-- A request to send. -/
def httpGetAction : Shape := .record <|
  .optional "host" .text <|
  .optional "httpHeaders" (.list <| .record <|
    .required "name" .text <|
    .required "value" .text .nil) <|
  .optional "path" .text <|
  .required "port" .intOrText <|
  .optional "scheme" .text .nil

/-- A port to connect to. -/
def tcpSocketAction : Shape := .record <|
  .optional "host" .text <|
  .required "port" .intOrText .nil

/-- A check of a container. -/
def probe : Shape := .record <|
  .optional "exec" execAction <|
  .optional "failureThreshold" .int32 <|
  .optional "grpc" (.record <|
    .required "port" .int32 <|
    .optional "service" .text .nil) <|
  .optional "httpGet" httpGetAction <|
  .optional "initialDelaySeconds" .int32 <|
  .optional "periodSeconds" .int32 <|
  .optional "successThreshold" .int32 <|
  .optional "tcpSocket" tcpSocketAction <|
  .optional "terminationGracePeriodSeconds" .int64 <|
  .optional "timeoutSeconds" .int32 .nil

/-- What is done when a container starts or stops. -/
def lifecycleHandler : Shape := .record <|
  .optional "exec" execAction <|
  .optional "httpGet" httpGetAction <|
  .optional "sleep" (.record <| .required "seconds" .int64 .nil) <|
  .optional "tcpSocket" tcpSocketAction .nil

/-! ### Security -/

/-- A profile that is loaded on the machine. -/
def profile : Shape := .record <|
  .optional "localhostProfile" .text <|
  .required "type" .text .nil

/-- The labels of a security module. -/
def seLinuxOptions : Shape := .record <|
  .optional "level" .text <|
  .optional "role" .text <|
  .optional "type" .text <|
  .optional "user" .text .nil

/-- What is set for containers on Windows. -/
def windowsOptions : Shape := .record <|
  .optional "gmsaCredentialSpec" .text <|
  .optional "gmsaCredentialSpecName" .text <|
  .optional "hostProcess" .truth <|
  .optional "runAsUserName" .text .nil

/-- What a container may do. -/
def securityContext : Shape := .record <|
  .optional "allowPrivilegeEscalation" .truth <|
  .optional "appArmorProfile" profile <|
  .optional "capabilities" (.record <|
    .optional "add" texts <|
    .optional "drop" texts .nil) <|
  .optional "privileged" .truth <|
  .optional "procMount" .text <|
  .optional "readOnlyRootFilesystem" .truth <|
  .optional "runAsGroup" .int64 <|
  .optional "runAsNonRoot" .truth <|
  .optional "runAsUser" .int64 <|
  .optional "seLinuxOptions" seLinuxOptions <|
  .optional "seccompProfile" profile <|
  .optional "windowsOptions" windowsOptions .nil

/-- What the containers of a pod may do. -/
def podSecurityContext : Shape := .record <|
  .optional "appArmorProfile" profile <|
  .optional "fsGroup" .int64 <|
  .optional "fsGroupChangePolicy" .text <|
  .optional "runAsGroup" .int64 <|
  .optional "runAsNonRoot" .truth <|
  .optional "runAsUser" .int64 <|
  .optional "seLinuxOptions" seLinuxOptions <|
  .optional "seccompProfile" profile <|
  .optional "supplementalGroups" (.list .int64) <|
  .optional "sysctls" (.list <| .record <|
    .required "name" .text <|
    .required "value" .text .nil) <|
  .optional "windowsOptions" windowsOptions .nil

/-! ### Containers -/

/-- The other members of a source of an environment variable. -/
def otherOfEnvSource : Members :=
  .optional "configMapKeyRef" (.record <| .required "name" .text otherOfKeyRef) <|
  .optional "fieldRef" fieldRef <|
  .optional "resourceFieldRef" resourceFieldRef .nil

/-- The other members of an environment variable. -/
def otherOfEnvVar : Members :=
  .required "name" .text <|
  .optional "value" .text .nil

/-- The other members of a source of several environment variables. -/
def otherOfEnvFrom : Members :=
  .optional "configMapRef" (.record <| .required "name" .text otherOfNamedRef) <|
  .optional "prefix" .text .nil

/-- The other members of a container. -/
def otherOfContainer : Members :=
  .optional "args" texts <|
  .optional "command" texts <|
  .optional "image" .text <|
  .optional "imagePullPolicy" .text <|
  .optional "lifecycle" (.record <|
    .optional "postStart" lifecycleHandler <|
    .optional "preStop" lifecycleHandler .nil) <|
  .optional "livenessProbe" probe <|
  .required "name" .text <|
  .optional "ports" (.list <| .record <|
    .required "containerPort" .int32 <|
    .optional "hostIP" .text <|
    .optional "hostPort" .int32 <|
    .optional "name" .text <|
    .optional "protocol" .text .nil) <|
  .optional "readinessProbe" probe <|
  .optional "resizePolicy" (.list <| .record <|
    .required "resourceName" .text <|
    .required "restartPolicy" .text .nil) <|
  .optional "resources" (.record <|
    .optional "claims" (.list <| .record <| .required "name" .text .nil) <|
    .optional "limits" textMap <|
    .optional "requests" textMap .nil) <|
  .optional "restartPolicy" .text <|
  .optional "securityContext" securityContext <|
  .optional "startupProbe" probe <|
  .optional "stdin" .truth <|
  .optional "stdinOnce" .truth <|
  .optional "terminationMessagePath" .text <|
  .optional "terminationMessagePolicy" .text <|
  .optional "tty" .truth <|
  .optional "volumeDevices" (.list <| .record <|
    .required "devicePath" .text <|
    .required "name" .text .nil) <|
  .optional "volumeMounts" (.list <| .record <|
    .required "mountPath" .text <|
    .optional "mountPropagation" .text <|
    .required "name" .text <|
    .optional "readOnly" .truth <|
    .optional "recursiveReadOnly" .text <|
    .optional "subPath" .text <|
    .optional "subPathExpr" .text .nil) <|
  .optional "workingDir" .text .nil

/-- A container that is added to a running pod. -/
def ephemeralContainer : Shape := .record <|
  .optional "env" (.list <| .record <|
    .optional "valueFrom" (.record <|
      .optional "secretKeyRef" (.record <| .required "name" .text otherOfKeyRef)
        otherOfEnvSource) otherOfEnvVar) <|
  .optional "envFrom" (.list <| .record <|
    .optional "secretRef" (.record <| .required "name" .text otherOfNamedRef) otherOfEnvFrom) <|
  .optional "targetContainerName" .text otherOfContainer

/-! ### Storage -/

/-- What a storage claim asks for. -/
def claimSpec : Shape := .record <|
  .optional "accessModes" texts <|
  .optional "dataSource" (.record <|
    .optional "apiGroup" .text <|
    .required "kind" .text <|
    .required "name" .text .nil) <|
  .optional "dataSourceRef" (.record <|
    .optional "apiGroup" .text <|
    .required "kind" .text <|
    .required "name" .text <|
    .optional "namespace" .text .nil) <|
  .optional "resources" (.record <|
    .optional "limits" textMap <|
    .optional "requests" textMap .nil) <|
  .optional "selector" labelSelector <|
  .optional "storageClassName" .text <|
  .optional "volumeAttributesClassName" .text <|
  .optional "volumeMode" .text <|
  .optional "volumeName" .text .nil

/-- What is known of a storage claim. -/
def claimStatus : Shape := .record <|
  .optional "accessModes" texts <|
  .optional "allocatedResourceStatuses" textMap <|
  .optional "allocatedResources" textMap <|
  .optional "capacity" textMap <|
  .optional "conditions" (.list <| .record <|
    .optional "lastProbeTime" .timestamp <|
    .optional "lastTransitionTime" .timestamp <|
    .optional "message" .text <|
    .optional "reason" .text <|
    .required "status" .text <|
    .required "type" .text .nil) <|
  .optional "currentVolumeAttributesClassName" .text <|
  .optional "modifyVolumeStatus" (.record <|
    .required "status" .text <|
    .optional "targetVolumeAttributesClassName" .text .nil) <|
  .optional "phase" .text .nil

/-- A storage claim, which is an object that stands on its own. -/
def claim : Shape := .object "v1" "PersistentVolumeClaim" <|
  .required "metadata" objectMeta <|
  .optional "spec" claimSpec <|
  .optional "status" claimStatus .nil

/-! ### Volumes -/

/-- Keys as files. -/
def keyFiles : Shape := .list <| .record <|
  .required "key" .text <|
  .optional "mode" .int32 <|
  .required "path" .text .nil

/-- Fields of the pod as files. -/
def fieldFiles : Shape := .list <| .record <|
  .optional "fieldRef" fieldRef <|
  .optional "mode" .int32 <|
  .required "path" .text <|
  .optional "resourceFieldRef" resourceFieldRef .nil

/-- The other members of a secret volume. -/
def otherOfSecretVolume : Members :=
  .optional "defaultMode" .int32 <|
  .optional "items" keyFiles <|
  .optional "optional" .truth .nil

/-- The other members of projected keys. -/
def otherOfKeyProjection : Members :=
  .optional "items" keyFiles <|
  .optional "optional" .truth .nil

/-- The other members of a source of a projected volume. -/
def otherOfProjectionSource : Members :=
  .optional "clusterTrustBundle" (.record <|
    .optional "labelSelector" labelSelector <|
    .optional "name" .text <|
    .optional "optional" .truth <|
    .required "path" .text <|
    .optional "signerName" .text .nil) <|
  .optional "configMap" (.record <| .required "name" .text otherOfKeyProjection) <|
  .optional "downwardAPI" (.record <| .optional "items" fieldFiles .nil) <|
  .optional "serviceAccountToken" (.record <|
    .optional "audience" .text <|
    .optional "expirationSeconds" .int64 <|
    .required "path" .text .nil) .nil

/-- The other members of a projected volume. -/
def otherOfProjectedVolume : Members :=
  .optional "defaultMode" .int32 .nil

/-- The other members of a volume. -/
def otherOfVolume : Members :=
  .optional "awsElasticBlockStore" (.record <|
    .optional "fsType" .text <|
    .optional "partition" .int32 <|
    .optional "readOnly" .truth <|
    .required "volumeID" .text .nil) <|
  .optional "azureDisk" (.record <|
    .optional "cachingMode" .text <|
    .required "diskName" .text <|
    .required "diskURI" .text <|
    .optional "fsType" .text <|
    .optional "kind" .text <|
    .optional "readOnly" .truth .nil) <|
  .optional "azureFile" (.record <|
    .optional "readOnly" .truth <|
    .required "secretName" .text <|
    .required "shareName" .text .nil) <|
  .optional "cephfs" (.record <|
    .required "monitors" texts <|
    .optional "path" .text <|
    .optional "readOnly" .truth <|
    .optional "secretFile" .text <|
    .optional "secretRef" localRef <|
    .optional "user" .text .nil) <|
  .optional "cinder" (.record <|
    .optional "fsType" .text <|
    .optional "readOnly" .truth <|
    .optional "secretRef" localRef <|
    .required "volumeID" .text .nil) <|
  .optional "configMap" (.record <|
    .optional "defaultMode" .int32 <|
    .optional "items" keyFiles <|
    .required "name" .text <|
    .optional "optional" .truth .nil) <|
  .optional "csi" (.record <|
    .required "driver" .text <|
    .optional "fsType" .text <|
    .optional "nodePublishSecretRef" localRef <|
    .optional "readOnly" .truth <|
    .optional "volumeAttributes" textMap .nil) <|
  .optional "downwardAPI" (.record <|
    .optional "defaultMode" .int32 <|
    .optional "items" fieldFiles .nil) <|
  .optional "emptyDir" (.record <|
    .optional "medium" .text <|
    .optional "sizeLimit" .text .nil) <|
  .optional "ephemeral" (.record <|
    .optional "volumeClaimTemplate" (.record <|
      .optional "metadata" objectMeta <|
      .required "spec" claimSpec .nil) .nil) <|
  .optional "fc" (.record <|
    .optional "fsType" .text <|
    .optional "lun" .int32 <|
    .optional "readOnly" .truth <|
    .optional "targetWWNs" texts <|
    .optional "wwids" texts .nil) <|
  .optional "flexVolume" (.record <|
    .required "driver" .text <|
    .optional "fsType" .text <|
    .optional "options" textMap <|
    .optional "readOnly" .truth <|
    .optional "secretRef" localRef .nil) <|
  .optional "flocker" (.record <|
    .optional "datasetName" .text <|
    .optional "datasetUUID" .text .nil) <|
  .optional "gcePersistentDisk" (.record <|
    .optional "fsType" .text <|
    .optional "partition" .int32 <|
    .required "pdName" .text <|
    .optional "readOnly" .truth .nil) <|
  .optional "gitRepo" (.record <|
    .optional "directory" .text <|
    .required "repository" .text <|
    .optional "revision" .text .nil) <|
  .optional "glusterfs" (.record <|
    .required "endpoints" .text <|
    .required "path" .text <|
    .optional "readOnly" .truth .nil) <|
  .optional "hostPath" (.record <|
    .required "path" .text <|
    .optional "type" .text .nil) <|
  .optional "iscsi" (.record <|
    .optional "chapAuthDiscovery" .truth <|
    .optional "chapAuthSession" .truth <|
    .optional "fsType" .text <|
    .optional "initiatorName" .text <|
    .required "iqn" .text <|
    .optional "iscsiInterface" .text <|
    .required "lun" .int32 <|
    .optional "portals" texts <|
    .optional "readOnly" .truth <|
    .optional "secretRef" localRef <|
    .required "targetPortal" .text .nil) <|
  .required "name" .text <|
  .optional "nfs" (.record <|
    .required "path" .text <|
    .optional "readOnly" .truth <|
    .required "server" .text .nil) <|
  .optional "persistentVolumeClaim" (.record <|
    .required "claimName" .text <|
    .optional "readOnly" .truth .nil) <|
  .optional "photonPersistentDisk" (.record <|
    .optional "fsType" .text <|
    .required "pdID" .text .nil) <|
  .optional "portworxVolume" (.record <|
    .optional "fsType" .text <|
    .optional "readOnly" .truth <|
    .required "volumeID" .text .nil) <|
  .optional "quobyte" (.record <|
    .optional "group" .text <|
    .optional "readOnly" .truth <|
    .required "registry" .text <|
    .optional "tenant" .text <|
    .optional "user" .text <|
    .required "volume" .text .nil) <|
  .optional "rbd" (.record <|
    .optional "fsType" .text <|
    .required "image" .text <|
    .optional "keyring" .text <|
    .required "monitors" texts <|
    .optional "pool" .text <|
    .optional "readOnly" .truth <|
    .optional "secretRef" localRef <|
    .optional "user" .text .nil) <|
  .optional "scaleIO" (.record <|
    .optional "fsType" .text <|
    .required "gateway" .text <|
    .optional "protectionDomain" .text <|
    .optional "readOnly" .truth <|
    .required "secretRef" localRef <|
    .optional "sslEnabled" .truth <|
    .optional "storageMode" .text <|
    .optional "storagePool" .text <|
    .required "system" .text <|
    .optional "volumeName" .text .nil) <|
  .optional "storageos" (.record <|
    .optional "fsType" .text <|
    .optional "readOnly" .truth <|
    .optional "secretRef" localRef <|
    .optional "volumeName" .text <|
    .optional "volumeNamespace" .text .nil) <|
  .optional "vsphereVolume" (.record <|
    .optional "fsType" .text <|
    .optional "storagePolicyID" .text <|
    .optional "storagePolicyName" .text <|
    .required "volumePath" .text .nil) .nil

/-! ### Where pods run -/

/-- Conditions on the labels of a machine. -/
def nodeRequirements : Shape := .list <| .record <|
  .required "key" .text <|
  .required "operator" .text <|
  .optional "values" texts .nil

/-- Conditions on a machine. -/
def nodeSelectorTerm : Shape := .record <|
  .optional "matchExpressions" nodeRequirements <|
  .optional "matchFields" nodeRequirements .nil

/-- Conditions on the pods on a machine. -/
def podAffinityTerm : Shape := .record <|
  .optional "labelSelector" labelSelector <|
  .optional "matchLabelKeys" texts <|
  .optional "mismatchLabelKeys" texts <|
  .optional "namespaceSelector" labelSelector <|
  .optional "namespaces" texts <|
  .required "topologyKey" .text .nil

/-- Which pods a pod is to be near to, or far from. -/
def podAffinity : Shape := .record <|
  .optional "preferredDuringSchedulingIgnoredDuringExecution" (.list <| .record <|
    .required "podAffinityTerm" podAffinityTerm <|
    .required "weight" .int32 .nil) <|
  .optional "requiredDuringSchedulingIgnoredDuringExecution" (.list podAffinityTerm) .nil

/-- Which machines a pod is to run on. -/
def affinity : Shape := .record <|
  .optional "nodeAffinity" (.record <|
    .optional "preferredDuringSchedulingIgnoredDuringExecution" (.list <| .record <|
      .required "preference" nodeSelectorTerm <|
      .required "weight" .int32 .nil) <|
    .optional "requiredDuringSchedulingIgnoredDuringExecution" (.record <|
      .required "nodeSelectorTerms" (.list nodeSelectorTerm) .nil) .nil) <|
  .optional "podAffinity" podAffinity <|
  .optional "podAntiAffinity" podAffinity .nil

/-! ### Pods -/

/-- The other members of a pod spec. -/
def otherOfPodSpec : Members :=
  .optional "activeDeadlineSeconds" .int64 <|
  .optional "affinity" affinity <|
  .optional "automountServiceAccountToken" .truth <|
  .optional "dnsConfig" (.record <|
    .optional "nameservers" texts <|
    .optional "options" (.list <| .record <|
      .optional "name" .text <|
      .optional "value" .text .nil) <|
    .optional "searches" texts .nil) <|
  .optional "dnsPolicy" .text <|
  .optional "enableServiceLinks" .truth <|
  .optional "ephemeralContainers" (.list ephemeralContainer) <|
  .optional "hostAliases" (.list <| .record <|
    .optional "hostnames" texts <|
    .required "ip" .text .nil) <|
  .optional "hostIPC" .truth <|
  .optional "hostNetwork" .truth <|
  .optional "hostPID" .truth <|
  .optional "hostUsers" .truth <|
  .optional "hostname" .text <|
  .optional "imagePullSecrets" (.list localRef) <|
  .optional "nodeName" .text <|
  .optional "nodeSelector" textMap <|
  .optional "os" (.record <| .required "name" .text .nil) <|
  .optional "overhead" textMap <|
  .optional "preemptionPolicy" .text <|
  .optional "priority" .int32 <|
  .optional "priorityClassName" .text <|
  .optional "readinessGates" (.list <| .record <| .required "conditionType" .text .nil) <|
  .optional "resourceClaims" (.list <| .record <|
    .required "name" .text <|
    .optional "source" (.record <|
      .optional "resourceClaimName" .text <|
      .optional "resourceClaimTemplateName" .text .nil) .nil) <|
  .optional "restartPolicy" .text <|
  .optional "runtimeClassName" .text <|
  .optional "schedulerName" .text <|
  .optional "schedulingGates" (.list <| .record <| .required "name" .text .nil) <|
  .optional "securityContext" podSecurityContext <|
  .optional "serviceAccount" .text <|
  .optional "serviceAccountName" .text <|
  .optional "setHostnameAsFQDN" .truth <|
  .optional "shareProcessNamespace" .truth <|
  .optional "subdomain" .text <|
  .optional "terminationGracePeriodSeconds" .int64 <|
  .optional "tolerations" (.list <| .record <|
    .optional "effect" .text <|
    .optional "key" .text <|
    .optional "operator" .text <|
    .optional "tolerationSeconds" .int64 <|
    .optional "value" .text .nil) <|
  .optional "topologySpreadConstraints" (.list <| .record <|
    .optional "labelSelector" labelSelector <|
    .optional "matchLabelKeys" texts <|
    .required "maxSkew" .int32 <|
    .optional "minDomains" .int32 <|
    .optional "nodeAffinityPolicy" .text <|
    .optional "nodeTaintsPolicy" .text <|
    .required "topologyKey" .text <|
    .required "whenUnsatisfiable" .text .nil) .nil

/-! ### Workloads -/

/-- How the pods of a workload are replaced: at once, or some at a time. -/
def updateStrategy (rollingUpdate : Members) : Shape := .record <|
  .optional "rollingUpdate" (.record rollingUpdate) <|
  .optional "type" .text .nil

/-- How many pods may be too many or too few while they are replaced. -/
def surge : Members :=
  .optional "maxSurge" .intOrText <|
  .optional "maxUnavailable" .intOrText .nil

/-- The other members of the spec of a deployment. -/
def otherOfDeploymentSpec : Members :=
  .optional "minReadySeconds" .int32 <|
  .optional "paused" .truth <|
  .optional "progressDeadlineSeconds" .int32 <|
  .optional "replicas" .int32 <|
  .optional "revisionHistoryLimit" .int32 <|
  .required "selector" labelSelector <|
  .optional "strategy" (updateStrategy surge) .nil

/-- The other members of the spec of a stateful set. -/
def otherOfStatefulSetSpec : Members :=
  .optional "minReadySeconds" .int32 <|
  .optional "ordinals" (.record <| .optional "start" .int32 .nil) <|
  .optional "persistentVolumeClaimRetentionPolicy" (.record <|
    .optional "whenDeleted" .text <|
    .optional "whenScaled" .text .nil) <|
  .optional "podManagementPolicy" .text <|
  .optional "replicas" .int32 <|
  .optional "revisionHistoryLimit" .int32 <|
  .required "selector" labelSelector <|
  .required "serviceName" .text <|
  .optional "updateStrategy" (updateStrategy <|
    .optional "maxUnavailable" .intOrText <|
    .optional "partition" .int32 .nil) <|
  .optional "volumeClaimTemplates" (.list claim) .nil

/-- The other members of the spec of a daemon set. -/
def otherOfDaemonSetSpec : Members :=
  .optional "minReadySeconds" .int32 <|
  .optional "revisionHistoryLimit" .int32 <|
  .required "selector" labelSelector <|
  .optional "updateStrategy" (updateStrategy surge) .nil

/-- What is known of one aspect of a workload. -/
def condition : Members :=
  .optional "lastTransitionTime" .timestamp <|
  .optional "message" .text <|
  .optional "reason" .text <|
  .required "status" .text <|
  .required "type" .text .nil

/-- What is known of a deployment. -/
def deploymentStatus : Shape := .record <|
  .optional "availableReplicas" .int32 <|
  .optional "collisionCount" .int32 <|
  .optional "conditions" (.list <| .record <|
    .optional "lastUpdateTime" .timestamp condition) <|
  .optional "observedGeneration" .int64 <|
  .optional "readyReplicas" .int32 <|
  .optional "replicas" .int32 <|
  .optional "unavailableReplicas" .int32 <|
  .optional "updatedReplicas" .int32 .nil

/-- What is known of a stateful set. -/
def statefulSetStatus : Shape := .record <|
  .optional "availableReplicas" .int32 <|
  .optional "collisionCount" .int32 <|
  .optional "conditions" (.list <| .record condition) <|
  .optional "currentReplicas" .int32 <|
  .optional "currentRevision" .text <|
  .optional "observedGeneration" .int64 <|
  .optional "readyReplicas" .int32 <|
  .required "replicas" .int32 <|
  .optional "updateRevision" .text <|
  .optional "updatedReplicas" .int32 .nil

/-- What is known of a daemon set. -/
def daemonSetStatus : Shape := .record <|
  .optional "collisionCount" .int32 <|
  .optional "conditions" (.list <| .record condition) <|
  .required "currentNumberScheduled" .int32 <|
  .required "desiredNumberScheduled" .int32 <|
  .optional "numberAvailable" .int32 <|
  .required "numberMisscheduled" .int32 <|
  .required "numberReady" .int32 <|
  .optional "numberUnavailable" .int32 <|
  .optional "observedGeneration" .int64 <|
  .optional "updatedNumberScheduled" .int32 .nil

end SecretRotation.Schema
