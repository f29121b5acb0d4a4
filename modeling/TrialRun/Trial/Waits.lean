import TrialRun.Cluster.Requests
import TrialRun.Polling
import TrialRun.Workload.Status

/-!
# Waiting for the cluster

Each wait polls one object or list of the cluster, at the trial's own interval, until the reply
meets a condition.  A deletion is waited for by looking at the list, or by the fault of reading an
object that is not found.
-/

set_option autoImplicit false

namespace TrialRun.Trial

variable {τ σ : Type} [Timescale τ]

def shortTimeout : Nat := 60

/-- How long a wait of middling length lasts, in seconds. -/
def mediumTimeout : Nat := 2 * 60

def longTimeout : Nat := 5 * 60

def waitFor {α : Type} (description : String) (timeout : τ) (display : α → String)
    (fetch : Act τ σ α) (satisfied : α → Except Fault Bool)
    (settled : Option (Fault → Except Fault Bool) := none) : Act τ σ (Option α) := do
  let p : Polling τ σ α :=
    { fetch := fetch
      satisfied := satisfied
      timeout := timeout
      interval := (← Act.trial).pollingInterval
      description := description
      settled := settled
      display := display }
  p.wait

def waitForJson (description : String) (timeout : τ) (fetch : Act τ σ Json)
    (satisfied : Json → Except Fault Bool) : Act τ σ Json := do
  pure ((← waitFor description timeout Json.display fetch satisfied).getD .null)

def waitForRayClusterState (ns name state : Json) (timeout : τ) : Act τ σ Json := do
  let goal := s!"RayCluster {ns.display}/{name.display} to be {state.display}"
  Act.log .info s!"Waiting for {goal}"
  waitForJson goal timeout (Cluster.getObject .rayCluster ns name) fun rayCluster => do
    pure ((← Workload.rayClusterState rayCluster).agrees state)

def waitForRayJobTerminal (ns name : Json) (timeout : τ) : Act τ σ Json := do
  let goal := s!"RayJob {ns.display}/{name.display} to complete"
  Act.log .info s!"Waiting for {goal}"
  waitForJson goal timeout (Cluster.getObject .rayJob ns name) fun rayJob => do
    Workload.isJobTerminal (← Workload.rayJobStatus rayJob)

/-- The first wrapper in a phase. -/
def firstInPhase (phase : Json) : List Json → Except Fault (Option Json)
  | [] => .ok none
  | wrapper :: rest => do
    if (← Workload.appWrapperPhase wrapper).agrees phase then pure (some wrapper)
    else firstInPhase phase rest

/-- Waits until one of the wrappers of a namespace is in a phase, and gives the first such. -/
def waitForAppWrapperPhase (ns phase : Json) (timeout : τ) : Act τ σ Json := do
  let goal := s!"an AppWrapper in namespace {ns.display} to be {phase.display}"
  let find := fun (wrappers : Json) => do firstInPhase phase (← wrappers.elements)
  let wrappers ← waitForJson goal timeout (Cluster.listObjects .appWrapper ns) fun wrappers => do
    pure (← find wrappers).isSome
  match ← (find wrappers : Except Fault (Option Json)) with
  | some wrapper => pure wrapper
  | none => Act.fail (.plain .general "")

/-- Waits until there is no Ray cluster in a namespace. -/
def waitForRayClustersDeleted (ns : Json) (timeout : τ) : Act τ σ Unit := do
  let goal := s!"RayClusters in namespace {ns.display} to be deleted"
  Act.log .info s!"Waiting for {goal}"
  let _ ← waitForJson goal timeout (Cluster.listObjects .rayCluster ns) fun items => do
    pure ((← items.size) == 0)

/-- Waits until there is no wrapper in a namespace. -/
def waitForAppWrappersDeleted (ns : Json) (timeout : τ) : Act τ σ Unit := do
  let goal := s!"AppWrappers in namespace {ns.display} to be deleted"
  Act.log .info s!"Waiting for {goal}"
  let _ ← waitForJson goal timeout (Cluster.listObjects .appWrapper ns) fun items => do
    pure ((← items.size) == 0)

/-- Waits until reading a Ray cluster fails because it is not found. -/
def waitForRayClusterGone (ns name : Json) (timeout : τ) : Act τ σ Unit := do
  let goal := s!"RayCluster {ns.display}/{name.display} to be deleted"
  Act.log .info s!"Waiting for {goal}"
  let _ ← waitFor goal timeout Json.display (Cluster.getObject .rayCluster ns name)
    (fun _ => .ok false) (some fun f => .ok f.isNotFound)

/-- Waits until an ingress has exactly one point of a load balancer. -/
def waitForIngressAdmitted (ns name : Json) (timeout : τ) :
    Act τ σ (Option Cluster.Ingress) := do
  let goal := s!"Ingress {ns.display}/{name.display} to be admitted"
  Act.log .info s!"Waiting for {goal}"
  waitFor goal timeout Cluster.Ingress.shown (Cluster.getIngress ns name) fun ingress =>
    .ok (ingress.loadBalancerPoints.length == 1)

def waitForRouteAdmitted (ns name : Json) (timeout : τ) : Act τ σ Json := do
  let goal := s!"Route {ns.display}/{name.display} to be admitted"
  Act.log .info s!"Waiting for {goal}"
  waitForJson goal timeout (Cluster.getObject .route ns name) fun route => do
    pure (0 < (← (← Workload.routeIngresses route).size))

end TrialRun.Trial

namespace TrialRun.Wait

variable {τ σ : Type} [Timescale τ]

/-- Waits; what was waited for is given as it would be sent. -/
def run : Wait τ → Act τ σ Json
  | .rayClusterState ns name state timeout => Trial.waitForRayClusterState ns name state timeout
  | .rayJobTerminal ns name timeout => Trial.waitForRayJobTerminal ns name timeout
  | .appWrapperPhase ns phase timeout => Trial.waitForAppWrapperPhase ns phase timeout
  | .rayClustersDeleted ns timeout => do
    Trial.waitForRayClustersDeleted ns timeout
    pure .null
  | .appWrappersDeleted ns timeout => do
    Trial.waitForAppWrappersDeleted ns timeout
    pure .null
  | .rayClusterGone ns name timeout => do
    Trial.waitForRayClusterGone ns name timeout
    pure .null
  | .ingressAdmitted ns name timeout =>
    return Cluster.orNull (·.toJson) (← Trial.waitForIngressAdmitted ns name timeout)
  | .routeAdmitted ns name timeout => Trial.waitForRouteAdmitted ns name timeout

end TrialRun.Wait
