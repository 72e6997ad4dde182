import Hotplug.Api.Schema

/-!
# Kinds of API objects

A kind has a group, a version, a name, a plural that stands in paths, and a shape. The kinds that
the server itself defines are checked in full; of the kinds that add-ons define only the metadata
is, since the rest may change with the add-on.

## Main definitions

* `Kind` — a kind; `Kind.path` is where its objects are.
* `Kind.storageClass` and the others — the kinds the driver uses.
* `objectMeta`, `listMeta`, `statusReport` — the shapes that all kinds share.
-/

namespace Hotplug.Api

namespace Schema

/-- The metadata of an object. -/
def objectMeta : Schema :=
  fields (each text ["generateName", "name", "namespace", "resourceVersion", "selfLink", "uid"] ++
    each (table text) ["annotations", "labels"] ++
    each time ["creationTimestamp", "deletionTimestamp"] ++
    each int64 ["deletionGracePeriodSeconds", "generation"] ++
    [("finalizers", list text),
      ("managedFields", list (fields (
        each text ["apiVersion", "fieldsType", "manager", "operation", "subresource"] ++
        [("fieldsV1", any), ("time", time)]))),
      ("ownerReferences", list (fields (
        each text ["apiVersion", "kind", "name", "uid"] ++
        each flag ["blockOwnerDeletion", "controller"])))])

/-- The metadata of a list. -/
def listMeta : Schema :=
  fields (each text ["continue", "resourceVersion", "selfLink"] ++ [("remainingItemCount", int64)])

/-- The report of a failure or a success. -/
def statusReport : Schema :=
  .record [("status", orNull (oneOf ["Success", "Failure"])), ("code", int 0 65535),
    ("message", text), ("metadata", orNull listMeta), ("reason", text),
    ("details", orNull (.record (each text ["name", "group", "kind", "uid"] ++
      [("causes", list (.record (each text ["reason", "message", "field"]))),
        ("retryAfterSeconds", int 0 4294967295)])))]

/-- An object of a kind the server defines. -/
def defined (apiVersion kind : String) (members : List (String × Schema)) : Schema :=
  .object ([("apiVersion", oneOf [apiVersion]), ("kind", oneOf [kind])] ++
    (("metadata", objectMeta) :: members).map fun (key, shape) => (key, orNull shape))

/-- An object of a kind that an add-on defines. -/
def custom : Schema :=
  .extensible [] [("metadata", objectMeta)]

/-- A storage class. -/
def storageClass : Schema :=
  defined "storage.k8s.io/v1" "StorageClass"
    (each text ["provisioner", "reclaimPolicy", "volumeBindingMode"] ++
      [("allowVolumeExpansion", flag),
        ("allowedTopologies", list (fields [("matchLabelExpressions",
          list (fields [("key", text), ("values", list text)]))])),
        ("mountOptions", list text), ("parameters", table text)])

/-- A requirement on labels or on the fields of a node. -/
def requirement : Schema :=
  fields [("key", text), ("operator", text), ("values", list text)]

/-- A claim on a persistent volume. -/
def claim : Schema :=
  defined "v1" "PersistentVolumeClaim"
    [("spec", fields (
        each text ["storageClassName", "volumeAttributesClassName", "volumeMode", "volumeName"] ++
        [("accessModes", list text),
          ("dataSource", fields (each text ["apiGroup", "kind", "name"])),
          ("dataSourceRef", fields (each text ["apiGroup", "kind", "name", "namespace"])),
          ("resources", fields (each (table text) ["limits", "requests"])),
          ("selector", fields [("matchExpressions", list requirement),
            ("matchLabels", table text)])])),
      ("status", fields (
        each text ["currentVolumeAttributesClassName", "phase"] ++
        each (table text) ["allocatedResourceStatuses", "allocatedResources", "capacity"] ++
        [("accessModes", list text),
          ("conditions", list (fields (each time ["lastProbeTime", "lastTransitionTime"] ++
            each text ["message", "reason", "status", "type"]))),
          ("modifyVolumeStatus",
            fields (each text ["status", "targetVolumeAttributesClassName"]))]))]

/-- The name of a secret in a namespace. -/
def secret : Schema :=
  fields (each text ["name", "namespace"])

/-- The name of an object of any kind. -/
def reference : Schema :=
  fields (each text
    ["apiVersion", "fieldPath", "kind", "name", "namespace", "resourceVersion", "uid"])

/-- A place that volumes are kept in: named texts, and flags of which all may be read-only. -/
def store (texts : List String) (others : List (String × Schema)) : Schema :=
  fields (each text texts ++ [("readOnly", flag)] ++ others)

/-- The places that a persistent volume may be kept in. -/
def volumeStores : List (String × Schema) :=
  [("awsElasticBlockStore", store ["fsType", "volumeID"] [("partition", int32)]),
    ("azureDisk", store ["cachingMode", "diskName", "diskURI", "fsType", "kind"] []),
    ("azureFile", store ["secretName", "secretNamespace", "shareName"] []),
    ("cephfs", store ["path", "secretFile", "user"]
      [("monitors", list text), ("secretRef", secret)]),
    ("cinder", store ["fsType", "volumeID"] [("secretRef", secret)]),
    ("csi", store ["driver", "fsType", "volumeHandle"]
      (each secret ["controllerExpandSecretRef", "controllerPublishSecretRef",
        "nodeExpandSecretRef", "nodePublishSecretRef", "nodeStageSecretRef"] ++
        [("volumeAttributes", table text)])),
    ("fc", store ["fsType"] [("lun", int32), ("targetWWNs", list text), ("wwids", list text)]),
    ("flexVolume", store ["driver", "fsType"] [("options", table text), ("secretRef", secret)]),
    ("flocker", fields (each text ["datasetName", "datasetUUID"])),
    ("gcePersistentDisk", store ["fsType", "pdName"] [("partition", int32)]),
    ("glusterfs", store ["endpoints", "endpointsNamespace", "path"] []),
    ("hostPath", fields (each text ["path", "type"])),
    ("iscsi", store ["fsType", "initiatorName", "iqn", "iscsiInterface", "targetPortal"]
      (each flag ["chapAuthDiscovery", "chapAuthSession"] ++
        [("lun", int32), ("portals", list text), ("secretRef", secret)])),
    ("local", fields (each text ["fsType", "path"])),
    ("nfs", store ["path", "server"] []),
    ("photonPersistentDisk", fields (each text ["fsType", "pdID"])),
    ("portworxVolume", store ["fsType", "volumeID"] []),
    ("quobyte", store ["group", "registry", "tenant", "user", "volume"] []),
    ("rbd", store ["fsType", "image", "keyring", "pool", "user"]
      [("monitors", list text), ("secretRef", secret)]),
    ("scaleIO", store ["fsType", "gateway", "protectionDomain", "storageMode", "storagePool",
      "system", "volumeName"] [("secretRef", secret), ("sslEnabled", flag)]),
    ("storageos", store ["fsType", "volumeName", "volumeNamespace"] [("secretRef", reference)]),
    ("vsphereVolume", fields (each text
      ["fsType", "storagePolicyID", "storagePolicyName", "volumePath"]))]

/-- A persistent volume. -/
def persistentVolume : Schema :=
  defined "v1" "PersistentVolume"
    [("spec", fields (
        each text ["persistentVolumeReclaimPolicy", "storageClassName",
          "volumeAttributesClassName", "volumeMode"] ++
        each (list text) ["accessModes", "mountOptions"] ++
        [("capacity", table text), ("claimRef", reference),
          ("nodeAffinity", fields [("required", fields [("nodeSelectorTerms",
            list (fields (each (list requirement) ["matchExpressions", "matchFields"])))])])] ++
        volumeStores)),
      ("status", fields (each text ["message", "phase", "reason"] ++
        [("lastPhaseTransitionTime", time)]))]

end Schema

/-- A kind of object. -/
structure Kind where
  /-- Its group; the oldest kinds have none. -/
  group : String
  version : String
  name : String
  /-- The name that stands in paths. -/
  plural : String
  /-- The shape of its objects. -/
  shape : Schema

namespace Kind

/-- The group and version, as objects carry them. -/
def apiVersion (k : Kind) : String :=
  if k.group.isEmpty then k.version else k.group ++ "/" ++ k.version

/-- Where the objects of a kind are, in a namespace or in the whole cluster. -/
def path (k : Kind) (ns : Option String) : String :=
  (if k.group.isEmpty then "/api/" else "/apis/") ++ k.apiVersion ++ "/" ++
    (match ns with
      | some ns => "namespaces/" ++ ns ++ "/"
      | none => "") ++ k.plural

/-- The shape of a list of objects. -/
def listShape (k : Kind) : Schema :=
  .extensible ["items"]
    [("metadata", Schema.listMeta), ("items", .orNull (.list k.shape))]

/-- Storage classes. -/
def storageClass : Kind :=
  ⟨"storage.k8s.io", "v1", "StorageClass", "storageclasses", Schema.storageClass⟩

/-- Claims. -/
def claim : Kind :=
  ⟨"", "v1", "PersistentVolumeClaim", "persistentvolumeclaims", Schema.claim⟩

/-- Persistent volumes. -/
def persistentVolume : Kind :=
  ⟨"", "v1", "PersistentVolume", "persistentvolumes", Schema.persistentVolume⟩

/-- Snapshot classes. -/
def snapshotClass : Kind :=
  ⟨"snapshot.storage.k8s.io", "v1", "VolumeSnapshotClass", "volumesnapshotclasses", Schema.custom⟩

/-- Snapshots. -/
def snapshot : Kind :=
  ⟨"snapshot.storage.k8s.io", "v1", "VolumeSnapshot", "volumesnapshots", Schema.custom⟩

/-- Volumes. -/
def volume : Kind :=
  ⟨"cdi.kubevirt.io", "v1beta1", "DataVolume", "datavolumes", Schema.custom⟩

/-- Virtual machines. -/
def machine : Kind :=
  ⟨"kubevirt.io", "v1", "VirtualMachine", "virtualmachines", Schema.custom⟩

/-- Running virtual machines. -/
def runningMachine : Kind :=
  ⟨"kubevirt.io", "v1", "VirtualMachineInstance", "virtualmachineinstances", Schema.custom⟩

end Kind

end Hotplug.Api
