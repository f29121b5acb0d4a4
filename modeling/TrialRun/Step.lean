import TrialRun.Accelerator
import TrialRun.Cluster.Model
import TrialRun.Cluster.Operation

/-!
# Steps of a trial

A step is something a trial can do, as data.  Steps can be put off until the trial is cleaned up
(`defer`), and can be guarded by diagnostics that are done only if they fail (`onFailure`); both may
be nested to any depth.
-/

set_option autoImplicit false

namespace TrialRun

/-- What a trial can wait for, and for how long. -/
inductive Wait (τ : Type) where
  | rayClusterState (ns name state : Json) (timeout : τ)
  | rayJobTerminal (ns name : Json) (timeout : τ)
  /-- One of the wrappers of a namespace is in a phase. -/
  | appWrapperPhase (ns phase : Json) (timeout : τ)
  | rayClustersDeleted (ns : Json) (timeout : τ)
  | appWrappersDeleted (ns : Json) (timeout : τ)
  | rayClusterGone (ns name : Json) (timeout : τ)
  | ingressAdmitted (ns name : Json) (timeout : τ)
  | routeAdmitted (ns name : Json) (timeout : τ)

/-- What can be asked of the dashboard. -/
inductive Query where
  | probe
  | listJobs
  | jobDetails (job : Json)
  | jobLogs (job : Json)

/-- A step of a trial. -/
inductive Step (τ : Type) where
  /-- Leaves a mark in the record. -/
  | mark (v : Json)
  | raise (f : Fault)
  | advance (span : τ)
  | setFailed (failed : Bool)
  | setName (name : String)
  | setPollingInterval (interval : τ)
  | outputDirectory
  /-- Gives the token that the cluster is accessed with. -/
  | bearerToken
  | cluster (op : Cluster.Operation)
  /-- Connects to a dashboard, which the queries that follow go to. -/
  | connect (address : String) (token : Option String) (verified : Bool)
  /-- The same with the token that the cluster is accessed with. -/
  | connectAsTrial (url : Json)
  | query (q : Query)
  | wait (w : Wait τ)
  /-- Creates a namespace that is deleted in cleaning up. -/
  | newTestNamespace (name : Json)
  /-- Deletes such a namespace, after its diagnostics are stored if the trial has failed. -/
  | deleteTestNamespace (name : Json)
  | createResourceFlavor (spec : Json)
  | createClusterQueue (spec : Json)
  /-- Creates a cluster queue with quotas on a flavor. -/
  | createQuotaQueue (flavor : Json) (accelerator : Accelerator)
  | createLocalQueue (ns clusterQueue : Json) (asDefault : Bool)
  | dashboardUrl (ns rayCluster : Json)
  | writeJobLogs (job : Json)
  | writeOutput (fileName contents : Json)
  | troubleshootJob (job : Cluster.Job)
  | troubleshootRayCluster (ns name : Json)
  | storeDiagnostics (ns : Json)
  /-- Puts a step off until the trial is cleaned up. -/
  | defer (step : Step τ)
  /-- Does all that was put off, the last first. -/
  | cleanup
  /-- Does the steps of the body; if one fails, the trial has failed and the diagnostics follow. -/
  | onFailure (body diagnostics : List (Step τ))
  deriving Inhabited

namespace Step

variable {τ : Type}

mutual

/-- How much a step may lead to: itself, the steps in it, and for a test namespace the deletion that
is put off. -/
def size : Step τ → Nat
  | .defer step => step.size + 1
  | .onFailure body diagnostics => sizes body + sizes diagnostics + 1
  | .newTestNamespace _ => 2
  | _ => 1

/-- The sum of the sizes of some steps. -/
def sizes : List (Step τ) → Nat
  | [] => 0
  | step :: rest => step.size + sizes rest

end

end Step

end TrialRun
