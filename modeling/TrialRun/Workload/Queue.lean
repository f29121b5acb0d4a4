import TrialRun.Accelerator
import TrialRun.Cluster.ResourceType
import TrialRun.Json.Basic
import TrialRun.Workload.Names

/-!
# Queues

Three objects admit the workloads of a trial: a resource flavor, a cluster queue with quotas on that
flavor, and a local queue in the trial's namespace that feeds the cluster queue.
-/

set_option autoImplicit false

namespace TrialRun.Workload

/-- A resource flavor; without a specification it has an empty one. -/
def resourceFlavor (spec : Json) : Json :=
  .ofFields
    [("apiVersion", ResourceType.resourceFlavor.apiVersion),
      ("kind", ResourceType.resourceFlavor.kind),
      ("metadata", .ofFields [("generateName", resourceFlavorPrefix)]),
      ("spec", spec.orElse (.object []))]

/-- The resources that the cluster queue shares out, with how much there is of each. -/
def quotas (a : Accelerator) : List (String × String) :=
  [(cpuLabel, "8"), (memoryLabel, "12Gi")] ++ if a.isGpu then [(a.resourceLabel, "1")] else []

/-- The specification of a cluster queue that admits workloads of any namespace. -/
def clusterQueueSpec (flavor : Json) (a : Accelerator) : Json :=
  .ofFields
    [("namespaceSelector", .object []),
      ("resourceGroups", .list
        [.ofFields
          [("coveredResources", .list ((quotas a).map fun q => .text q.1)),
            ("flavors", .list
              [.ofFields
                [("name", flavor),
                  ("resources", .list ((quotas a).map fun q =>
                    .ofFields [("name", .text q.1), ("nominalQuota", .text q.2)]))]])]])]

def clusterQueue (spec : Json) : Json :=
  .ofFields
    [("apiVersion", ResourceType.clusterQueue.apiVersion),
      ("kind", ResourceType.clusterQueue.kind),
      ("metadata", .ofFields [("generateName", clusterQueuePrefix)]),
      ("spec", spec)]

/-- A local queue, which may be the one for all workloads of its namespace. -/
def localQueue (ns clusterQueue : Json) (asDefault : Bool := false) : Json :=
  let annotations : List (String × Json) :=
    if asDefault then [("annotations", .ofFields [(defaultQueueMark, .text "true")])] else []
  .ofFields
    [("apiVersion", ResourceType.localQueue.apiVersion), ("kind", ResourceType.localQueue.kind),
      ("metadata",
        .ofFields ([("generateName", .text localQueuePrefix), ("namespace", ns)] ++ annotations)),
      ("spec", .ofFields [("clusterQueue", clusterQueue)])]

end TrialRun.Workload
