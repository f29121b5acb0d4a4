import TrialRun.Cluster.Requests
import TrialRun.Workload.Queue
import TrialRun.Workload.Status

/-!
# Creating queues

What admits the workloads of a trial is created with a log record each.
-/

set_option autoImplicit false

namespace TrialRun.Trial

variable {τ σ : Type} [Timescale τ]

def createResourceFlavor (spec : Json) : Act τ σ Json := do
  let flavor ← Cluster.createObject .resourceFlavor .null (Workload.resourceFlavor spec)
  let name ← Workload.name flavor
  Act.log .info s!"Created Kueue ResourceFlavor {name.display} successfully"
  pure flavor

def createClusterQueue (spec : Json) : Act τ σ Json := do
  let queue ← Cluster.createObject .clusterQueue .null (Workload.clusterQueue spec)
  let name ← Workload.name queue
  Act.log .info s!"Created Kueue ClusterQueue {name.display} successfully"
  pure queue

/-- Creates a cluster queue with quotas on a flavor. -/
def createQuotaQueue (flavor : Json) (a : Accelerator) : Act τ σ Json := do
  let name ← Workload.name flavor
  createClusterQueue (Workload.clusterQueueSpec name a)

/-- Creates a local queue that feeds a cluster queue. -/
def createLocalQueue (ns clusterQueue : Json) (asDefault : Bool := false) : Act τ σ Json := do
  let queue ← Cluster.createObject .localQueue ns
    (Workload.localQueue ns clusterQueue asDefault)
  let name ← Workload.name queue
  Act.log .info s!"Created Kueue LocalQueue {ns.display}/{name.display} successfully"
  pure queue

end TrialRun.Trial
