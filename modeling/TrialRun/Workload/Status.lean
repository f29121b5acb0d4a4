import TrialRun.Json.Access
import TrialRun.Workload.Names

/-!
# What objects say about themselves

The parts of a served object that the checks of a trial look at.  An object that has no status yet,
or a null one, has none of these parts.
-/

set_option autoImplicit false

namespace TrialRun.Workload

/-- A part of the status. -/
def statusPart (object : Json) (part : String) : Except Fault Json := do
  ((← object.get "status").orElse (.object [])).get part

def rayClusterState (rayCluster : Json) : Except Fault Json := statusPart rayCluster "state"

def rayJobStatus (rayJob : Json) : Except Fault Json := statusPart rayJob "jobStatus"

def rayJobId (rayJob : Json) : Except Fault Json := statusPart rayJob "jobId"

/-- Whether a job stays in its status. -/
def isJobTerminal (status : Json) : Except Fault Bool := status.isOneOf terminalStatuses

def appWrapperPhase (appWrapper : Json) : Except Fault Json := statusPart appWrapper "phase"

/-- Where a route is admitted; a null list is an empty one. -/
def routeIngresses (route : Json) : Except Fault Json := do
  pure ((← statusPart route "ingress").orElse (.list []))

def name (object : Json) : Except Fault Json := do (← object.field "metadata").field "name"

end TrialRun.Workload
