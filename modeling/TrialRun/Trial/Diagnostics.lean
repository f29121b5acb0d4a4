import TrialRun.Cluster.Requests
import TrialRun.Trial.Output
import TrialRun.Workload.Status

/-!
# Diagnostics

What is looked at when a trial has failed: a job that has not ended, a Ray cluster that did not
become ready, and all logs and occurrences of a namespace that is about to be deleted.
-/

set_option autoImplicit false

namespace TrialRun.Trial

variable {τ σ : Type} [Timescale τ]

/-- Logs the state of a job and what its pods have logged, if the trial has failed. -/
def troubleshootJob (job : Cluster.Job) : Act τ σ Unit := do
  if (← Act.trial).failed then
    let ns := job.metadata.ns
    let name := job.metadata.name
    let shown := s!"{ns.display}/{name.display}"
    let job ← Cluster.getJob ns name
    Act.log .error s!"Job {shown} hasn't completed in time: {job.shown}"
    let selector ← job.podSelector
    let pods ← Cluster.listPods ns (.text selector)
    if pods.isEmpty then Act.log .error s!"Job {shown} has no pods scheduled"
    else
      pods |> Act.forEach fun pod => do
        Act.log .info s!"Printing Pod {ns.display}/{pod.name.display} logs"
        Act.log .info (← Cluster.readPodLogs ns pod.name).display

/-- Logs the state of a Ray cluster and what the containers of its pods have logged, if the trial
has failed. -/
def troubleshootRayCluster (ns name : Json) : Act τ σ Unit := do
  if (← Act.trial).failed then
    let shown := s!"{ns.display}/{name.display}"
    let rayCluster ← Cluster.getObject .rayCluster ns name
    let state ← Workload.rayClusterState rayCluster
    let status ← rayCluster.get "status"
    Act.log .error s!"RayCluster {shown} is {state.display}: {status.display}"
    let pods ← Cluster.listPods ns (.text s!"{Workload.rayClusterLabel}={name.display}")
    if pods.isEmpty then Act.log .error s!"RayCluster {shown} has no pods scheduled"
    else
      pods |> Act.forEach fun pod =>
        pod.containers |> Act.forEach fun container => do
          Act.log .info
            s!"Printing Pod {ns.display}/{pod.name.display} {container.display} logs"
          Act.log .info (← Cluster.readPodLogs ns pod.name container).display

def containerLogFile (ns pod container : Json) : String :=
  s!"{ns.display}/pods/{pod.display}-{container.display}.log"

/-- Writes what a container has logged into a file.  A failure to read it is logged and no more. -/
def storeContainerLog (ns pod container : Json) : Act τ σ Unit := do
  match ← (Cluster.readPodLogs ns pod container).attempt with
  | .ok logs =>
    let _ ← writeOutput (containerLogFile ns pod container) logs
  | .error f => if f.kind.isFailure then Act.log .warning f.text else Act.fail f

/-- Writes the logs of all containers and the occurrences of a namespace into files. -/
def storeDiagnostics (ns : Json) : Act τ σ Unit := do
  (← Cluster.listPods ns) |> Act.forEach fun pod =>
    pod.containers |> Act.forEach fun container => storeContainerLog ns pod.name container
  let lines := (← Cluster.listOccurrences ns).map (·.line)
  let _ ← writeOutput s!"{ns.display}/events.log" (.text ("\n".intercalate lines))

end TrialRun.Trial
