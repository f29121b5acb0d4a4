import TrialRun.Accelerator
import TrialRun.Cluster.ResourceType
import TrialRun.Json.Basic
import TrialRun.Workload.Names

/-!
# The Ray cluster of a trial

One head and one group of workers, which mount the training script.  The cluster is assigned to a
local queue by a label, unless it goes into a wrapper that carries the label instead.  With an
accelerator the worker asks for one piece of its resource and tolerates the nodes that have it.

Names that come from a reply are kept as the reply gave them.
-/

set_option autoImplicit false

namespace TrialRun.Workload

/-- What a container asks for and what it is limited to. -/
structure Resources where
  cpuRequest : String
  memoryRequest : String
  cpuLimit : String
  memoryLimit : String

namespace Resources

/-- The resources as the container names them; `extra` is asked for and limited alike. -/
def toJson (r : Resources) (extra : List (String × Json) := []) : Json :=
  .ofFields
    [("requests", .ofFields
        ((cpuLabel, .text r.cpuRequest) :: (memoryLabel, .text r.memoryRequest) :: extra)),
      ("limits", .ofFields
        ((cpuLabel, .text r.cpuLimit) :: (memoryLabel, .text r.memoryLimit) :: extra))]

def head : Resources := ⟨"250m", "2G", "1", "4G"⟩

def worker : Resources := ⟨"250m", "1G", "2", "4G"⟩

end Resources

/-- The lifecycle of a container of Ray: Ray is stopped before the container is. -/
def rayStopLifecycle : Json :=
  .ofFields
    [("preStop",
      .ofFields [("exec", .ofFields [("command", .list (rayStopCommand.map .text))])])]

/-- What a Ray cluster is made from. -/
structure RayCluster where
  ns : Json
  localQueue : Json
  configMap : Json
  accelerator : Accelerator
  image : String
  version : String := "2.35.0"
  /-- Whether the cluster goes into a wrapper. -/
  wrapped : Bool := false
  /-- The secrets that the head's image is pulled with. -/
  pullSecrets : List String := []

namespace RayCluster

/-- The accelerator among the resources of a container. -/
def acceleratorShare (c : RayCluster) : List (String × Json) :=
  if c.accelerator.isGpu then [(c.accelerator.resourceLabel, .text "1")] else []

def headContainer (c : RayCluster) : Json :=
  let listens := fun (number : Nat) (name : String) =>
    Json.ofFields [("containerPort", .int number), ("name", .text name)]
  .ofFields
    [("name", .text "ray-head"), ("image", .text c.image),
      ("ports", .list
        [listens gcsPort "gcs", listens dashboardPort "dashboard", listens clientPort "client"]),
      ("lifecycle", rayStopLifecycle), ("resources", Resources.head.toJson)]

def workerContainer (c : RayCluster) : Json :=
  .ofFields
    [("name", .text "ray-worker"), ("image", .text c.image), ("lifecycle", rayStopLifecycle),
      ("resources", Resources.worker.toJson c.acceleratorShare),
      ("volumeMounts",
        .list [.ofFields [("name", mnistName), ("mountPath", mnistJobsPath)]])]

def headPod (c : RayCluster) : Json :=
  .ofFields
    (("containers", .list [c.headContainer]) ::
      if c.pullSecrets.isEmpty then []
      else
        [("imagePullSecrets", .list (c.pullSecrets.map fun s => .ofFields [("name", .text s)]))])

def workerPod (c : RayCluster) : Json :=
  .ofFields
    ([("containers", .list [c.workerContainer]),
      ("volumes", .list
        [.ofFields [("name", mnistName), ("configMap", .ofFields [("name", c.configMap)])]])] ++
      if c.accelerator.isGpu then
        [("tolerations", .list
          [.ofFields [("key", c.accelerator.resourceLabel), ("operator", "Exists")]])]
      else [])

/-- The number of workers at the start, which is also their least number. -/
def workers : Nat := 1

def toJson (c : RayCluster) : Json :=
  let labels : List (String × Json) :=
    if c.wrapped then [] else [("labels", .ofFields [(queueNameLabel, c.localQueue)])]
  .ofFields
    [("apiVersion", ResourceType.rayCluster.apiVersion),
      ("kind", ResourceType.rayCluster.kind),
      ("metadata", .ofFields ([("name", .text rayClusterName), ("namespace", c.ns)] ++ labels)),
      ("spec", .ofFields
        [("rayVersion", c.version),
          ("headGroupSpec", .ofFields
            [("rayStartParams", .ofFields [("dashboard-host", "0.0.0.0")]),
              ("template", .ofFields [("spec", c.headPod)])]),
          ("workerGroupSpecs", .list
            [.ofFields
              [("replicas", .int workers), ("minReplicas", .int workers),
                ("maxReplicas", .int 2), ("groupName", workerGroupName),
                ("rayStartParams", .object []),
                ("template", .ofFields [("spec", c.workerPod)])]])])]

end RayCluster

end TrialRun.Workload
