import ClusterBundle.Json.Shape

/-!
The shapes of the objects of a cluster that are read member by member: pods, deployments and
configuration maps, with everything nested in them.
-/

namespace ClusterBundle.Cluster.Objects

open Json (Shape)

/-- Members that are texts. -/
def texts (names : List String) : List (String × Shape) := names.map fun name => (name, .text)

/-- Members that are truth values. -/
def flags (names : List String) : List (String × Shape) := names.map fun name => (name, .flag)

/-- Members that are 32-bit integers. -/
def ints (names : List String) : List (String × Shape) := names.map fun name => (name, .int32)

/-- Members that are 64-bit integers. -/
def wideInts (names : List String) : List (String × Shape) := names.map fun name => (name, .int64)

/-- Members that are points in time. -/
def times (names : List String) : List (String × Shape) := names.map fun name => (name, .time)

/-- Members that are lists of texts. -/
def textLists (names : List String) : List (String × Shape) :=
  names.map fun name => (name, .list .text)

/-- Members that are maps from texts to texts; quantities are written as texts as well. -/
def textMaps (names : List String) : List (String × Shape) :=
  names.map fun name => (name, .map .text)

/-! ### Metadata -/

def managedFieldsEntry : Shape :=
  .record "ManagedFieldsEntry"
    (texts ["apiVersion", "fieldsType", "manager", "operation", "subresource"] ++
      [("fieldsV1", .any), ("time", .time)])

def ownerReference : Shape :=
  .record "OwnerReference"
    (texts ["apiVersion", "kind", "name", "uid"] ++ flags ["blockOwnerDeletion", "controller"])

def objectMeta : Shape :=
  .record "ObjectMeta"
    (textMaps ["annotations", "labels"] ++
      times ["creationTimestamp", "deletionTimestamp"] ++
      wideInts ["deletionGracePeriodSeconds", "generation"] ++
      textLists ["finalizers"] ++
      texts ["generateName", "name", "namespace", "resourceVersion", "selfLink", "uid"] ++
      [("managedFields", .list managedFieldsEntry), ("ownerReferences", .list ownerReference)])

def localObjectReference : Shape := .record "LocalObjectReference" (texts ["name"])

def labelSelector : Shape :=
  .record "LabelSelector"
    [("matchExpressions",
        .list (.record "LabelSelectorRequirement"
          (texts ["key", "operator"] ++ textLists ["values"]))),
      ("matchLabels", .map .text)]

/-! ### Containers -/

def objectFieldSelector : Shape :=
  .record "ObjectFieldSelector" (texts ["apiVersion", "fieldPath"])

def resourceFieldSelector : Shape :=
  .record "ResourceFieldSelector" (texts ["containerName", "divisor", "resource"])

def envVarSource : Shape :=
  .record "EnvVarSource"
    [("configMapKeyRef",
        .record "ConfigMapKeySelector" (texts ["key", "name"] ++ flags ["optional"])),
      ("fieldRef", objectFieldSelector),
      ("resourceFieldRef", resourceFieldSelector),
      ("secretKeyRef", .record "SecretKeySelector" (texts ["key", "name"] ++ flags ["optional"]))]

def envVar : Shape :=
  .record "EnvVar" (texts ["name", "value"] ++ [("valueFrom", envVarSource)])

def envFromSource : Shape :=
  .record "EnvFromSource"
    [("configMapRef", .record "ConfigMapEnvSource" (texts ["name"] ++ flags ["optional"])),
      ("prefix", .text),
      ("secretRef", .record "SecretEnvSource" (texts ["name"] ++ flags ["optional"]))]

def execAction : Shape := .record "ExecAction" (textLists ["command"])

def httpGetAction : Shape :=
  .record "HTTPGetAction"
    (texts ["host", "path", "scheme"] ++
      [("httpHeaders", .list (.record "HTTPHeader" (texts ["name", "value"]))),
        ("port", .intOrText)])

def tcpSocketAction : Shape :=
  .record "TCPSocketAction" [("host", .text), ("port", .intOrText)]

def lifecycleHandler : Shape :=
  .record "LifecycleHandler"
    [("exec", execAction), ("httpGet", httpGetAction), ("tcpSocket", tcpSocketAction)]

def lifecycle : Shape :=
  .record "Lifecycle" [("postStart", lifecycleHandler), ("preStop", lifecycleHandler)]

def probe : Shape :=
  .record "Probe"
    (ints ["failureThreshold", "initialDelaySeconds", "periodSeconds", "successThreshold",
        "timeoutSeconds"] ++
      wideInts ["terminationGracePeriodSeconds"] ++
      [("exec", execAction),
        ("grpc", .record "GRPCAction" (ints ["port"] ++ texts ["service"])),
        ("httpGet", httpGetAction),
        ("tcpSocket", tcpSocketAction)])

def containerPort : Shape :=
  .record "ContainerPort"
    (ints ["containerPort", "hostPort"] ++ texts ["hostIP", "name", "protocol"])

def resourceRequirements : Shape :=
  .record "ResourceRequirements"
    (("claims", .list (.record "ResourceClaim" (texts ["name"]))) ::
      textMaps ["limits", "requests"])

def seLinuxOptions : Shape := .record "SELinuxOptions" (texts ["level", "role", "type", "user"])

def seccompProfile : Shape := .record "SeccompProfile" (texts ["localhostProfile", "type"])

def windowsOptions : Shape :=
  .record "WindowsSecurityContextOptions"
    (texts ["gmsaCredentialSpec", "gmsaCredentialSpecName", "runAsUserName"] ++
      flags ["hostProcess"])

def securityContext : Shape :=
  .record "SecurityContext"
    (flags ["allowPrivilegeEscalation", "privileged", "readOnlyRootFilesystem", "runAsNonRoot"] ++
      wideInts ["runAsGroup", "runAsUser"] ++
      texts ["procMount"] ++
      [("capabilities", .record "Capabilities" (textLists ["add", "drop"])),
        ("seLinuxOptions", seLinuxOptions),
        ("seccompProfile", seccompProfile),
        ("windowsOptions", windowsOptions)])

def volumeDevice : Shape := .record "VolumeDevice" (texts ["devicePath", "name"])

def volumeMount : Shape :=
  .record "VolumeMount"
    (texts ["mountPath", "mountPropagation", "name", "subPath", "subPathExpr"] ++
      flags ["readOnly"])

/-- The members that ordinary and short-lived containers share. -/
def containerMembers : List (String × Shape) :=
  textLists ["args", "command"] ++
    texts ["image", "imagePullPolicy", "name", "restartPolicy", "terminationMessagePath",
      "terminationMessagePolicy", "workingDir"] ++
    flags ["stdin", "stdinOnce", "tty"] ++
    [("env", .list envVar),
      ("envFrom", .list envFromSource),
      ("lifecycle", lifecycle),
      ("livenessProbe", probe),
      ("ports", .list containerPort),
      ("readinessProbe", probe),
      ("resizePolicy",
        .list (.record "ContainerResizePolicy" (texts ["resourceName", "restartPolicy"]))),
      ("resources", resourceRequirements),
      ("securityContext", securityContext),
      ("startupProbe", probe),
      ("volumeDevices", .list volumeDevice),
      ("volumeMounts", .list volumeMount)]

def container : Shape := .record "Container" containerMembers

def ephemeralContainer : Shape :=
  .record "EphemeralContainer" (("targetContainerName", .text) :: containerMembers)

/-! ### Volumes -/

def keyToPath : Shape := .record "KeyToPath" (texts ["key", "path"] ++ ints ["mode"])

def downwardFile : Shape :=
  .record "DownwardAPIVolumeFile"
    [("fieldRef", objectFieldSelector),
      ("mode", .int32),
      ("path", .text),
      ("resourceFieldRef", resourceFieldSelector)]

def claimSpec : Shape :=
  .record "PersistentVolumeClaimSpec"
    (textLists ["accessModes"] ++ texts ["storageClassName", "volumeMode", "volumeName"] ++
      [("dataSource", .record "TypedLocalObjectReference" (texts ["apiGroup", "kind", "name"])),
        ("dataSourceRef",
          .record "TypedObjectReference" (texts ["apiGroup", "kind", "name", "namespace"])),
        ("resources", resourceRequirements),
        ("selector", labelSelector)])

def claimTemplate : Shape :=
  .record "PersistentVolumeClaimTemplate" [("metadata", objectMeta), ("spec", claimSpec)]

def volumeProjection : Shape :=
  .record "VolumeProjection"
    [("configMap",
        .record "ConfigMapProjection"
          (("items", .list keyToPath) :: texts ["name"] ++ flags ["optional"])),
      ("downwardAPI", .record "DownwardAPIProjection" [("items", .list downwardFile)]),
      ("secret",
        .record "SecretProjection"
          (("items", .list keyToPath) :: texts ["name"] ++ flags ["optional"])),
      ("serviceAccountToken",
        .record "ServiceAccountTokenProjection"
          (texts ["audience", "path"] ++ wideInts ["expirationSeconds"]))]

/-- Volumes on disks and shares of a provider. -/
def providerVolumes : List (String × Shape) :=
  [("awsElasticBlockStore",
      .record "AWSElasticBlockStoreVolumeSource"
        (texts ["fsType", "volumeID"] ++ ints ["partition"] ++ flags ["readOnly"])),
    ("azureDisk",
      .record "AzureDiskVolumeSource"
        (texts ["cachingMode", "diskName", "diskURI", "fsType", "kind"] ++ flags ["readOnly"])),
    ("azureFile",
      .record "AzureFileVolumeSource" (texts ["secretName", "shareName"] ++ flags ["readOnly"])),
    ("cephfs",
      .record "CephFSVolumeSource"
        (textLists ["monitors"] ++ texts ["path", "secretFile", "user"] ++ flags ["readOnly"] ++
          [("secretRef", localObjectReference)])),
    ("cinder",
      .record "CinderVolumeSource"
        (texts ["fsType", "volumeID"] ++ flags ["readOnly"] ++
          [("secretRef", localObjectReference)])),
    ("fc",
      .record "FCVolumeSource"
        (texts ["fsType"] ++ ints ["lun"] ++ flags ["readOnly"] ++
          textLists ["targetWWNs", "wwids"])),
    ("flexVolume",
      .record "FlexVolumeSource"
        (texts ["driver", "fsType"] ++ textMaps ["options"] ++ flags ["readOnly"] ++
          [("secretRef", localObjectReference)])),
    ("flocker", .record "FlockerVolumeSource" (texts ["datasetName", "datasetUUID"])),
    ("gcePersistentDisk",
      .record "GCEPersistentDiskVolumeSource"
        (texts ["fsType", "pdName"] ++ ints ["partition"] ++ flags ["readOnly"])),
    ("glusterfs",
      .record "GlusterfsVolumeSource" (texts ["endpoints", "path"] ++ flags ["readOnly"])),
    ("iscsi",
      .record "ISCSIVolumeSource"
        (flags ["chapAuthDiscovery", "chapAuthSession", "readOnly"] ++
          texts ["fsType", "initiatorName", "iqn", "iscsiInterface", "targetPortal"] ++
          ints ["lun"] ++ textLists ["portals"] ++ [("secretRef", localObjectReference)])),
    ("nfs", .record "NFSVolumeSource" (texts ["path", "server"] ++ flags ["readOnly"])),
    ("photonPersistentDisk",
      .record "PhotonPersistentDiskVolumeSource" (texts ["fsType", "pdID"])),
    ("portworxVolume",
      .record "PortworxVolumeSource" (texts ["fsType", "volumeID"] ++ flags ["readOnly"])),
    ("quobyte",
      .record "QuobyteVolumeSource"
        (texts ["group", "registry", "tenant", "user", "volume"] ++ flags ["readOnly"])),
    ("rbd",
      .record "RBDVolumeSource"
        (texts ["fsType", "image", "keyring", "pool", "user"] ++ textLists ["monitors"] ++
          flags ["readOnly"] ++ [("secretRef", localObjectReference)])),
    ("scaleIO",
      .record "ScaleIOVolumeSource"
        (texts ["fsType", "gateway", "protectionDomain", "storageMode", "storagePool", "system",
            "volumeName"] ++
          flags ["readOnly", "sslEnabled"] ++ [("secretRef", localObjectReference)])),
    ("storageos",
      .record "StorageOSVolumeSource"
        (texts ["fsType", "volumeName", "volumeNamespace"] ++ flags ["readOnly"] ++
          [("secretRef", localObjectReference)])),
    ("vsphereVolume",
      .record "VsphereVirtualDiskVolumeSource"
        (texts ["fsType", "storagePolicyID", "storagePolicyName", "volumePath"]))]

/-- Volumes that the cluster itself fills. -/
def clusterVolumes : List (String × Shape) :=
  [("configMap",
      .record "ConfigMapVolumeSource"
        (ints ["defaultMode"] ++ [("items", .list keyToPath)] ++ texts ["name"] ++
          flags ["optional"])),
    ("csi",
      .record "CSIVolumeSource"
        (texts ["driver", "fsType"] ++ flags ["readOnly"] ++ textMaps ["volumeAttributes"] ++
          [("nodePublishSecretRef", localObjectReference)])),
    ("downwardAPI",
      .record "DownwardAPIVolumeSource"
        (ints ["defaultMode"] ++ [("items", .list downwardFile)])),
    ("emptyDir", .record "EmptyDirVolumeSource" (texts ["medium", "sizeLimit"])),
    ("ephemeral", .record "EphemeralVolumeSource" [("volumeClaimTemplate", claimTemplate)]),
    ("gitRepo", .record "GitRepoVolumeSource" (texts ["directory", "repository", "revision"])),
    ("hostPath", .record "HostPathVolumeSource" (texts ["path", "type"])),
    ("persistentVolumeClaim",
      .record "PersistentVolumeClaimVolumeSource" (texts ["claimName"] ++ flags ["readOnly"])),
    ("projected",
      .record "ProjectedVolumeSource"
        (ints ["defaultMode"] ++ [("sources", .list volumeProjection)])),
    ("secret",
      .record "SecretVolumeSource"
        (ints ["defaultMode"] ++ [("items", .list keyToPath)] ++ texts ["secretName"] ++
          flags ["optional"]))]

def volume : Shape :=
  .record "Volume" (texts ["name"] ++ providerVolumes ++ clusterVolumes)

/-! ### Pods -/

def nodeSelectorTerm : Shape :=
  let requirement : Shape :=
    .record "NodeSelectorRequirement" (texts ["key", "operator"] ++ textLists ["values"])
  .record "NodeSelectorTerm"
    [("matchExpressions", .list requirement), ("matchFields", .list requirement)]

def podAffinityTerm : Shape :=
  .record "PodAffinityTerm"
    [("labelSelector", labelSelector),
      ("namespaceSelector", labelSelector),
      ("namespaces", .list .text),
      ("topologyKey", .text)]

def podAffinityMembers : List (String × Shape) :=
  [("preferredDuringSchedulingIgnoredDuringExecution",
      .list (.record "WeightedPodAffinityTerm"
        [("podAffinityTerm", podAffinityTerm), ("weight", .int32)])),
    ("requiredDuringSchedulingIgnoredDuringExecution", .list podAffinityTerm)]

def affinity : Shape :=
  .record "Affinity"
    [("nodeAffinity",
        .record "NodeAffinity"
          [("preferredDuringSchedulingIgnoredDuringExecution",
              .list (.record "PreferredSchedulingTerm"
                [("preference", nodeSelectorTerm), ("weight", .int32)])),
            ("requiredDuringSchedulingIgnoredDuringExecution",
              .record "NodeSelector" [("nodeSelectorTerms", .list nodeSelectorTerm)])]),
      ("podAffinity", .record "PodAffinity" podAffinityMembers),
      ("podAntiAffinity", .record "PodAntiAffinity" podAffinityMembers)]

def podSecurityContext : Shape :=
  .record "PodSecurityContext"
    (wideInts ["fsGroup", "runAsGroup", "runAsUser"] ++ texts ["fsGroupChangePolicy"] ++
      flags ["runAsNonRoot"] ++
      [("seLinuxOptions", seLinuxOptions),
        ("seccompProfile", seccompProfile),
        ("supplementalGroups", .list .int64),
        ("sysctls", .list (.record "Sysctl" (texts ["name", "value"]))),
        ("windowsOptions", windowsOptions)])

def toleration : Shape :=
  .record "Toleration"
    (texts ["effect", "key", "operator", "value"] ++ wideInts ["tolerationSeconds"])

def topologySpreadConstraint : Shape :=
  .record "TopologySpreadConstraint"
    (ints ["maxSkew", "minDomains"] ++ textLists ["matchLabelKeys"] ++
      texts ["nodeAffinityPolicy", "nodeTaintsPolicy", "topologyKey", "whenUnsatisfiable"] ++
      [("labelSelector", labelSelector)])

def podSpec : Shape :=
  .record "PodSpec"
    (wideInts ["activeDeadlineSeconds", "terminationGracePeriodSeconds"] ++
      ints ["priority"] ++
      flags ["automountServiceAccountToken", "enableServiceLinks", "hostIPC", "hostNetwork",
        "hostPID", "hostUsers", "setHostnameAsFQDN", "shareProcessNamespace"] ++
      texts ["dnsPolicy", "hostname", "nodeName", "preemptionPolicy", "priorityClassName",
        "restartPolicy", "runtimeClassName", "schedulerName", "serviceAccount",
        "serviceAccountName", "subdomain"] ++
      textMaps ["nodeSelector", "overhead"] ++
      [("affinity", affinity),
        ("containers", .list container),
        ("dnsConfig",
          .record "PodDNSConfig"
            (textLists ["nameservers", "searches"] ++
              [("options", .list (.record "PodDNSConfigOption" (texts ["name", "value"])))])),
        ("ephemeralContainers", .list ephemeralContainer),
        ("hostAliases",
          .list (.record "HostAlias" (textLists ["hostnames"] ++ texts ["ip"]))),
        ("imagePullSecrets", .list localObjectReference),
        ("initContainers", .list container),
        ("os", .record "PodOS" (texts ["name"])),
        ("readinessGates", .list (.record "PodReadinessGate" (texts ["conditionType"]))),
        ("resourceClaims",
          .list (.record "PodResourceClaim"
            [("name", .text),
              ("source",
                .record "ClaimSource"
                  (texts ["resourceClaimName", "resourceClaimTemplateName"]))])),
        ("schedulingGates", .list (.record "PodSchedulingGate" (texts ["name"]))),
        ("securityContext", podSecurityContext),
        ("tolerations", .list toleration),
        ("topologySpreadConstraints", .list topologySpreadConstraint),
        ("volumes", .list volume)])

def containerState : Shape :=
  .record "ContainerState"
    [("running", .record "ContainerStateRunning" (times ["startedAt"])),
      ("terminated",
        .record "ContainerStateTerminated"
          (texts ["containerID", "message", "reason"] ++ ints ["exitCode", "signal"] ++
            times ["finishedAt", "startedAt"])),
      ("waiting", .record "ContainerStateWaiting" (texts ["message", "reason"]))]

def containerStatus : Shape :=
  .record "ContainerStatus"
    (textMaps ["allocatedResources"] ++ texts ["containerID", "image", "imageID", "name"] ++
      flags ["ready", "started"] ++ ints ["restartCount"] ++
      [("lastState", containerState), ("resources", resourceRequirements),
        ("state", containerState)])

def podStatus : Shape :=
  .record "PodStatus"
    (texts ["hostIP", "message", "nominatedNodeName", "phase", "podIP", "qosClass", "reason",
        "resize"] ++
      times ["startTime"] ++
      [("conditions",
          .list (.record "PodCondition"
            (times ["lastProbeTime", "lastTransitionTime"] ++
              texts ["message", "reason", "status", "type"]))),
        ("containerStatuses", .list containerStatus),
        ("ephemeralContainerStatuses", .list containerStatus),
        ("hostIPs", .list (.record "HostIP" (texts ["ip"]))),
        ("initContainerStatuses", .list containerStatus),
        ("podIPs", .list (.record "PodIP" (texts ["ip"]))),
        ("resourceClaimStatuses",
          .list (.record "PodResourceClaimStatus" (texts ["name", "resourceClaimName"])))])

/-- An object of its own: its version and kind are fixed where they are given. -/
def topLevel (version kind : String) (members : List (String × Shape)) : Shape :=
  .record kind
    ([("apiVersion", .only version), ("kind", .only kind), ("metadata", objectMeta)] ++ members)

def pod : Shape := topLevel "v1" "Pod" [("spec", podSpec), ("status", podStatus)]

/-! ### Deployments and configuration maps -/

def deploymentSpec : Shape :=
  .record "DeploymentSpec"
    (ints ["minReadySeconds", "progressDeadlineSeconds", "replicas", "revisionHistoryLimit"] ++
      flags ["paused"] ++
      [("selector", labelSelector),
        ("strategy",
          .record "DeploymentStrategy"
            [("rollingUpdate",
                .record "RollingUpdateDeployment"
                  [("maxSurge", .intOrText), ("maxUnavailable", .intOrText)]),
              ("type", .text)]),
        ("template",
          .record "PodTemplateSpec" [("metadata", objectMeta), ("spec", podSpec)])])

def deploymentStatus : Shape :=
  .record "DeploymentStatus"
    (ints ["availableReplicas", "collisionCount", "readyReplicas", "replicas",
        "unavailableReplicas", "updatedReplicas"] ++
      wideInts ["observedGeneration"] ++
      [("conditions",
          .list (.record "DeploymentCondition"
            (times ["lastTransitionTime", "lastUpdateTime"] ++
              texts ["message", "reason", "status", "type"])))])

def deployment : Shape :=
  topLevel "apps/v1" "Deployment" [("spec", deploymentSpec), ("status", deploymentStatus)]

def configMap : Shape :=
  topLevel "v1" "ConfigMap"
    [("binaryData", .map .bytes), ("data", .map .text), ("immutable", .flag)]

end ClusterBundle.Cluster.Objects
