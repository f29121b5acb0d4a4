import TrialRun.Dashboard.Client
import TrialRun.Trial.Output
import TrialRun.Trial.Waits

/-!
# Reaching the dashboard

The dashboard of a Ray cluster is exposed by a route where the cluster serves routes, and by an
ingress elsewhere.  A route is probed until its answer is not "service unavailable" any more.
-/

set_option autoImplicit false

namespace TrialRun.Trial

variable {τ σ : Type} [Timescale τ]

def dashboardName (rayCluster : Json) : Except Fault Json :=
  match rayCluster with
  | .text s => .ok (.text (Workload.dashboardPrefix ++ s))
  | v => .error (.plain .badType s!"can only concatenate str (not \"{v.kindName}\") to str")

/-- The status of a service that does not answer yet. -/
def unavailable : Int := 503

/-- The address of the dashboard behind a route, once it answers. -/
def routeUrl (ns name : Json) : Act τ σ String := do
  let route ← waitForRouteAdmitted ns name (Timescale.seconds shortTimeout)
  let host ← (← (← Workload.routeIngresses route).item 0).field "host"
  let url := s!"https://{host.display}"
  let goal := s!"Route {ns.display}/{name.display} to be available"
  Act.log .info s!"Waiting for {goal}"
  let dashboard := Dashboard.connect url none false
  let _ ← waitFor goal (Timescale.seconds shortTimeout) Number.intText dashboard.probe
    fun status => .ok (status != unavailable)
  pure url

/-- The address of the dashboard behind an ingress. -/
def ingressUrl (ns name : Json) : Act τ σ String := do
  match ← waitForIngressAdmitted ns name (Timescale.seconds shortTimeout) with
  | some ingress =>
    let host ← ingress.firstHost
    pure s!"http://{host.display}"
  | none => Act.fail (.noAttribute .null "spec")

/-- The address of the dashboard of a Ray cluster. -/
def dashboardUrl (ns rayCluster : Json) : Act τ σ String := do
  let name ← dashboardName rayCluster
  let url ← if ← Cluster.isOpenshift then routeUrl ns name else ingressUrl ns name
  Act.log .info s!"Ray-dashboard route : {url}"
  pure url

/-- A client at an address, with the token that the cluster is accessed with.  Dashboards of test
clusters sign their own certificates. -/
def connect (url : Json) : Act τ σ Dashboard := do
  let token ← Cluster.bearerToken (← Act.site).apiKeys
  match url with
  | .text address => pure (Dashboard.connect address token false)
  | v => Act.fail (.noAttribute v "rstrip")

def jobLogFile (job : Json) : String := s!"ray-job-log-{job.display}.log"

def writeJobLogs (dashboard : Option Dashboard) (job : Json) : Act τ σ Path := do
  Act.log .info s!"Retrieving Ray job {job.display} logs"
  let logs ← (Query.jobLogs job).run dashboard
  writeOutput (jobLogFile job) logs

end TrialRun.Trial
