import TrialRun.Trial.Cleanup
import TrialRun.Workload.AppWrapper
import TrialRun.Workload.RayCluster
import TrialRun.Workload.RayJob

/-!
# Scenarios

A scenario creates a namespace and the queues that admit its workloads, brings up a Ray cluster,
trains on it, and takes the cluster down again.  Three ways of bringing it up are tried: directly,
inside a wrapper, and with a secret for pulling the image, where nothing is trained.

Some parts of a scenario are watched: if one fails, its Ray cluster is looked at.  Each body is told
once, with any way of looking (`Scenario.runWith`); a trial looks by `Trial.troubleshootRayCluster`.

Whatever a scenario creates outside of its namespace is put off for deletion as soon as the server
has confirmed it, and the namespace takes the rest with it.  `Trial.conclude` ends a trial: a failed
one first says where its output is, then all that was put off is done.
-/

set_option autoImplicit false

namespace TrialRun

/-- What is tried. -/
inductive Scenario where
  /-- Training on a Ray cluster that is queued itself. -/
  | queuedCluster (a : Accelerator)
  /-- Training on a Ray cluster inside a wrapper that is queued in its place. -/
  | wrappedCluster (a : Accelerator)
  /-- A Ray cluster whose head refers to a secret for pulling its image. -/
  | pullSecret
  deriving DecidableEq, Repr

/-- What a test runner reports of the body of a trial. -/
inductive Report where
  | passed
  | failed
  deriving DecidableEq, Repr

/-- A way of looking at a Ray cluster, given by its namespace and its name. -/
abbrev Look (τ σ : Type) := Json → Json → Act τ σ Unit

namespace Trial

variable {τ σ : Type} [Timescale τ]

/-! ## Preparations -/

/-- Creates what admits the workloads of a namespace, and gives its local queue.  The objects of the
whole cluster are deleted in cleaning up. -/
def setUpQueues (ns : Json) (a : Accelerator) : Act τ σ Json := do
  let flavor ← createResourceFlavor .null
  let flavorName ← Workload.name flavor
  defer (.cluster (.deleteResourceFlavor flavorName))
  let queue ← createQuotaQueue flavor a
  let queueName ← Workload.name queue
  defer (.cluster (.deleteClusterQueue queueName))
  createLocalQueue ns queueName true

/-- Creates the config map of the training script, and gives its name. -/
def createScript (ns : Json) (script : List UInt8) : Act τ σ Json := do
  let created ← Cluster.createConfigMap ns (← Cluster.mnistConfigMap ns script)
  let name := created.metadata.name
  Act.log .info s!"Created ConfigMap {ns.display}/{name.display} successfully"
  pure name

/-- What a scenario has prepared before it brings up its Ray cluster. -/
structure Grounds where
  ns : Json
  localQueue : Json
  configMap : Json

/-- Prepares a namespace, with a generated name if none is given. -/
def prepare (name : Json) (a : Accelerator) (script : List UInt8) : Act τ σ Grounds := do
  let ns := (← newTestNamespace name).metadata.name
  let queue ← setUpQueues ns a
  let configMap ← createScript ns script
  pure ⟨ns, ← Workload.name queue, configMap⟩

/-- The Ray cluster on these grounds, with an image for the accelerator. -/
def Grounds.rayCluster (g : Grounds) (s : Settings) (a : Accelerator) : Workload.RayCluster where
  ns := g.ns
  localQueue := g.localQueue
  configMap := g.configMap
  accelerator := a
  image := s.rayImageFor a
  version := s.rayVersion

def createRayCluster (ns : Json) (body : Json) : Act τ σ Json := do
  let created ← Cluster.createObject .rayCluster ns body
  let name ← Workload.name created
  Act.log .info s!"Created RayCluster {ns.display}/{name.display} successfully"
  pure name

/-- Does an act, and looks at a Ray cluster if it fails. -/
def watching {α : Type} (look : Look τ σ) (ns rayCluster : Json) (act : Act τ σ α) : Act τ σ α :=
  onFailure [look ns rayCluster] act

def waitUntilReady (ns rayCluster : Json) : Act τ σ Json :=
  waitForRayClusterState ns rayCluster Workload.rayClusterReady
    (Timescale.seconds mediumTimeout)

/-! ## Training -/

/-- The job must have succeeded. -/
def requireSuccess (ns name rayJob : Json) : Except Fault Unit := do
  if (← Workload.rayJobStatus rayJob).agrees Workload.jobSucceeded then pure ()
  else
    let status ← rayJob.get "status"
    .error (.plain .assertion
      s!"RayJob {ns.display}/{name.display} has not succeeded: {status.display}")

/-- Submits the training to the Ray cluster, waits for its success and writes its log. -/
def trainWith (look : Look τ σ) (ns : Json) (a : Accelerator) : Act τ σ Unit := do
  let settings := (← Act.site).settings
  let body : Workload.RayJob :=
    { ns := ns
      rayCluster := Workload.rayClusterName
      accelerator := a
      image := settings.rayImageFor a
      settings := settings }
  let name ← Workload.name (← Cluster.createObject .rayJob ns body.toJson)
  Act.log .info s!"Created RayJob {ns.display}/{name.display} successfully"
  let url ← dashboardUrl ns Workload.rayClusterName
  Act.log .info s!"Connecting to Ray cluster at: {url}"
  let dashboard ← connect url
  let rayJob ← watching look ns Workload.rayClusterName do
    let _ ← waitForRayJobTerminal ns name (Timescale.seconds longTimeout)
    let rayJob ← Cluster.getObject .rayJob ns name
    requireSuccess ns name rayJob
    pure rayJob
  let _ ← writeJobLogs (some dashboard) (← Workload.rayJobId rayJob)

/-- Training, with the way of looking that a trial has. -/
def train (ns : Json) (a : Accelerator) : Act τ σ Unit :=
  trainWith troubleshootRayCluster ns a

/-! ## The secret -/

/-- The secret that the image of the head is pulled with. -/
def pullSecretName : String := "custom-pull-secret"

/-- The secrets by which the head of a Ray cluster pulls its image. -/
def headPullSecrets (rayCluster : Json) : Except Fault Json := do
  let head ← (← rayCluster.field "spec").field "headGroupSpec"
  let pod ← (← head.field "template").field "spec"
  pod.field "imagePullSecrets"

/-- The head must pull its image with the secret, and with no other one. -/
def requirePullSecret (rayCluster : Json) : Except Fault Unit := do
  let expected : Json := .list [.ofFields [("name", .text pullSecretName)]]
  if (← headPullSecrets rayCluster).agrees expected then pure ()
  else .error (.plain .assertion "")

/-! ## The end -/

/-- Ends a trial.  A failed one says where its output is, which may fail itself; then all that was
put off is done. -/
def conclude (report : Option Report) : Act τ σ Unit := do
  if report = some .failed then
    setFailed true
    let directory ← outputPath
    Act.log .info s!"Test {(← Act.trial).name} failed, diagnostics are in {directory.text}"
  cleanup

end Trial

namespace Scenario

variable {τ σ : Type} [Timescale τ] (look : Look τ σ)

/-- Tries a Ray cluster that is queued itself.  Its namespace has a fixed name, so that the
dashboard is found at the same address in each run. -/
def runQueued (a : Accelerator) (script : List UInt8) : Act τ σ Unit := do
  let grounds ← Trial.prepare "test-ns-1" a script
  let ns := grounds.ns
  let name ← Trial.createRayCluster ns (grounds.rayCluster (← Act.site).settings a).toJson
  let _ ← Trial.watching look ns name (Trial.waitUntilReady ns name)
  Trial.trainWith look ns a
  Act.log .info s!"Deleting RayCluster {ns.display}/{name.display}"
  Cluster.deleteObject .rayCluster ns name
  Trial.waitForRayClustersDeleted ns (Timescale.seconds Trial.shortTimeout)

/-- Tries a Ray cluster inside a wrapper that is queued in its place. -/
def runWrapped (a : Accelerator) (script : List UInt8) : Act τ σ Unit := do
  let grounds ← Trial.prepare "test-ns-2" a script
  let ns := grounds.ns
  let plain := grounds.rayCluster (← Act.site).settings a
  let body := { plain with wrapped := true : Workload.RayCluster }.toJson
  let wrapper ← Cluster.createObject .appWrapper ns
    (← Workload.appWrapper ns body grounds.localQueue)
  let wrapperName ← Workload.name wrapper
  let shown := s!"AppWrapper {ns.display}/{wrapperName.display}"
  Act.log .info s!"Created {shown} successfully"
  let name ← Workload.name body
  Trial.watching look ns name do
    Act.log .info s!"Waiting for {shown} to be running"
    let _ ← Trial.waitForAppWrapperPhase ns Workload.appWrapperRunning
      (Timescale.seconds Trial.mediumTimeout)
    let _ ← Trial.waitUntilReady ns name
  Trial.trainWith look ns a
  Act.log .info s!"Deleting {shown}"
  Cluster.deleteObject .appWrapper ns wrapperName
  Trial.waitForAppWrappersDeleted ns (Timescale.seconds Trial.shortTimeout)

/-- Tries a Ray cluster whose head refers to a secret. -/
def runPullSecret (script : List UInt8) : Act τ σ Unit := do
  let grounds ← Trial.prepare .null .cpu script
  let ns := grounds.ns
  let plain := grounds.rayCluster (← Act.site).settings .cpu
  let body := { plain with pullSecrets := [Trial.pullSecretName] : Workload.RayCluster }.toJson
  let name ← Trial.createRayCluster ns body
  let rayCluster ← Trial.watching look ns name (Trial.waitUntilReady ns name)
  Trial.requirePullSecret rayCluster
  Cluster.deleteObject .rayCluster ns name
  Trial.waitForRayClusterGone ns name (Timescale.seconds Trial.shortTimeout)

/-- Runs the body of a scenario with a training script, and looks so at the Ray cluster of a watched
part that fails. -/
def runWith (script : List UInt8) : Scenario → Act τ σ Unit
  | .queuedCluster a => runQueued look a script
  | .wrappedCluster a => runWrapped look a script
  | .pullSecret => runPullSecret look script

/-- Runs the body of a scenario with the way of looking that a trial has. -/
def run (script : List UInt8) (s : Scenario) : Act τ σ Unit :=
  s.runWith Trial.troubleshootRayCluster script

end Scenario

end TrialRun
