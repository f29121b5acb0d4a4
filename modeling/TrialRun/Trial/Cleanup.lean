import TrialRun.Trial.DashboardAccess
import TrialRun.Trial.Diagnostics
import TrialRun.Trial.Queues

/-!
# Putting off and cleaning up

A trial puts off what has to be undone as soon as there is something to undo.  Cleaning up does what
was put off, the last first; a fault of one step does not keep the others from being done, and steps
put off meanwhile are done too.  A guarded body is followed by its diagnostics if it fails, and its
own fault is the one that remains.

A step runs with a bound on how deep it may lead, which is the size of the step and of all that is
put off.  Every step that is done uses up a part of that size and leaves at most the rest behind, so
the bound is never met.
-/

set_option autoImplicit false

namespace TrialRun

namespace Trial

variable {τ σ α : Type}

/-- Puts a step off until the trial is cleaned up. -/
def defer (step : Step τ) : Act τ σ Unit :=
  Act.note fun t => { t with pending := step :: t.pending }

/-- Takes the step that was put off last. -/
def takeLast : Act τ σ (Option (Step τ)) := do
  match (← Act.trial).pending with
  | [] => pure none
  | step :: rest =>
    Act.note fun t => { t with pending := rest }
    pure (some step)

def setFailed (failed : Bool) : Act τ σ Unit := Act.note fun t => { t with failed := failed }

/-- Does a diagnostic; an ordinary fault of it is logged and no more. -/
def diagnose (diagnostic : Act τ σ Unit) : Act τ σ Unit :=
  diagnostic.rescue fun f => do
    Act.log .warning s!"Troubleshooting of test {(← Act.trial).name} failed: {f.text}"

/-- Does the body.  If it fails, the trial has failed, the diagnostics follow, and the fault of the
body remains. -/
def onFailure (diagnostics : List (Act τ σ Unit)) (body : Act τ σ α) : Act τ σ α := do
  match ← body.attempt with
  | .ok v => pure v
  | .error f =>
    setFailed true
    diagnostics |> Act.forEach diagnose
    Act.fail f

/-- Does what was put off, the last first, as `exec` does a step, but no more than some steps. -/
def drain (exec : Step τ → Act τ σ Json) : Nat → Act τ σ Unit
  | 0 => pure ()
  | bound + 1 => do
    match ← takeLast with
    | none => pure ()
    | some step =>
      (do let _ ← exec step).rescue fun f => do
        Act.log .warning s!"Cleanup of test {(← Act.trial).name} failed: {f.text}"
      drain exec bound

/-- Does steps one after the other and gives their results. -/
def sequence (exec : Step τ → Act τ σ Json) : List (Step τ) → Act τ σ (List Json)
  | [] => pure []
  | step :: rest => do
    let v ← exec step
    pure (v :: (← sequence exec rest))

variable [Timescale τ]

/-- Creates a namespace that is deleted in cleaning up. -/
def newTestNamespace (name : Json) : Act τ σ Cluster.Namespace := do
  let created ← Cluster.createNamespace name
  let name := created.metadata.name
  Act.log .info s!"Created test Namespace {name.display}"
  defer (.deleteTestNamespace name)
  pure created

/-- Deletes a test namespace.  If the trial has failed, its diagnostics are stored first; whether
they can be stored or not, the namespace is deleted. -/
def deleteTestNamespace (name : Json) : Act τ σ Unit := do
  if (← Act.trial).failed then
    (storeDiagnostics name).rescue fun f =>
      Act.log .warning s!"Failed to store diagnostics of {name.display}: {f.text}"
  Cluster.deleteNamespace name

end Trial

namespace Step

variable {τ σ : Type} [Timescale τ]

/-- Does an act that has no result. -/
def noResult (act : Act τ σ Unit) : Act τ σ Json := do
  act
  pure .null

def pathResult (act : Act τ σ Path) : Act τ σ Json := return .text (← act).text

/-- Connects to a dashboard, which queries go to from now on. -/
def connected (act : Act τ σ Dashboard) : Act τ σ Json := do
  let d ← act
  Act.note fun t => { t with dashboard := some d }
  pure d.toJson

/-- Does a step, with a bound on how deep it may lead; its result is given as it would be sent. -/
def exec : (bound : Nat) → Step τ → Act τ σ Json
  | 0, _ => pure .null
  | _ + 1, .mark v => noResult (Act.record (.marked v))
  | _ + 1, .raise f => Act.fail f
  | _ + 1, .advance span => noResult (Act.spend span)
  | _ + 1, .setFailed failed => noResult (Trial.setFailed failed)
  | _ + 1, .setName name => noResult (Act.note fun t => { t with name := name })
  | _ + 1, .setPollingInterval interval =>
    noResult (Act.note fun t => { t with pollingInterval := interval })
  | _ + 1, .outputDirectory => pathResult Trial.outputPath
  | _ + 1, .bearerToken => do
    let token ← Cluster.bearerToken (← Act.site).apiKeys
    pure (Json.textOrNull token)
  | _ + 1, .cluster op => op.run
  | _ + 1, .connect address token verified =>
    connected (pure (Dashboard.connect address token verified))
  | _ + 1, .connectAsTrial url => connected (Trial.connect url)
  | _ + 1, .query q => do q.run (← Act.trial).dashboard
  | _ + 1, .wait w => w.run
  | _ + 1, .newTestNamespace name => return (← Trial.newTestNamespace name).toJson
  | _ + 1, .deleteTestNamespace name => noResult (Trial.deleteTestNamespace name)
  | _ + 1, .createResourceFlavor spec => Trial.createResourceFlavor spec
  | _ + 1, .createClusterQueue spec => Trial.createClusterQueue spec
  | _ + 1, .createQuotaQueue flavor accelerator => Trial.createQuotaQueue flavor accelerator
  | _ + 1, .createLocalQueue ns clusterQueue asDefault =>
    Trial.createLocalQueue ns clusterQueue asDefault
  | _ + 1, .dashboardUrl ns rayCluster => return .text (← Trial.dashboardUrl ns rayCluster)
  | _ + 1, .writeJobLogs job => do
    pathResult (Trial.writeJobLogs (← Act.trial).dashboard job)
  | _ + 1, .writeOutput fileName contents => pathResult (Trial.writeNamed fileName contents)
  | _ + 1, .troubleshootJob job => noResult (Trial.troubleshootJob job)
  | _ + 1, .troubleshootRayCluster ns name => noResult (Trial.troubleshootRayCluster ns name)
  | _ + 1, .storeDiagnostics ns => noResult (Trial.storeDiagnostics ns)
  | _ + 1, .defer step => noResult (Trial.defer step)
  | bound + 1, .cleanup => noResult (Trial.drain (exec bound) bound)
  | bound + 1, .onFailure body diagnostics => do
    let results ← Trial.onFailure (diagnostics.map fun step => do let _ ← exec bound step)
      (Trial.sequence (exec bound) body)
    pure (.list results)

/-- Does a step; its result is given as it would be sent. -/
def run (step : Step τ) : Act τ σ Json := do
  exec (step.size + sizes (← Act.trial).pending) step

end Step

/-- Does all that was put off. -/
def Trial.cleanup {τ σ : Type} [Timescale τ] : Act τ σ Unit := do
  let _ ← (Step.cleanup : Step τ).run

end TrialRun
