import TrialRun.Act
import TrialRun.Json.Reader

/-!
# Asking the dashboard

The dashboard answers with JSON.  Whatever goes wrong on the way to its value, from opening the
address to reading the text, is one failure, with its fault as the cause.  A probe asks for the
status alone, and every status is an answer.
-/

set_option autoImplicit false

namespace TrialRun.Dashboard

variable {τ σ : Type} [Timescale τ]

/-- The status of the dashboard's own page. -/
def probe (d : Dashboard) : Act τ σ Int := do
  let r ← d.request (d.address ++ "/")
  match ← Act.request r with
  | .response status _ => pure status
  | .errorStatus code => pure code
  | .failed f => Act.fail f

/-- The value in the body of a response. -/
def bodyValue (body : List UInt8) : Except Fault Json :=
  match Text.Utf8.decode? body with
  | none => .error (.plain .badEncoding "the body is not UTF-8")
  | some text =>
    match Json.read text.toList with
    | .ok v => .ok v
    | .error .malformed => .error (.plain .badJson "the body is not JSON")
    | .error .tooDeep => .error (.plain .tooDeep "the body is nested too deeply")
    | .error .tooLong => .error (.plain .badValue "the body holds an integer that is too long")

/-- The value at a path, if all goes well. -/
def fetch (r : Request) : Act τ σ Json := do
  match ← Act.request r with
  | .response _ body => Act.ofExcept (bodyValue body)
  | .errorStatus code => Act.fail (.plain (.httpStatus code) s!"HTTP Error {code}: ")
  | .failed f => Act.fail f

/-- The value at a path, or the failure to get it. -/
def get (d : Dashboard) (path : String) : Act τ σ Json := do
  let url := d.address ++ path
  let r ← d.request url
  (fetch r).rescue fun f => Act.fail (f.leadsTo .failure s!"Failed to get {url}")

def listJobs (d : Dashboard) : Act τ σ Json := d.get "/api/jobs/"

def jobDetails (d : Dashboard) (job : Json) : Act τ σ Json := d.get s!"/api/jobs/{job.display}"

/-- What a job has logged; nothing if the answer does not say. -/
def jobLogs (d : Dashboard) (job : Json) : Act τ σ Json := do
  let answer ← d.get s!"/api/jobs/{job.display}/logs"
  answer.get "logs" (.text "")

end TrialRun.Dashboard

namespace TrialRun.Query

variable {τ σ : Type} [Timescale τ]

/-- The name of the query at the dashboard's client. -/
def name : Query → String
  | .probe => "probe"
  | .listJobs => "list_jobs"
  | .jobDetails _ => "get_job_details"
  | .jobLogs _ => "get_job_logs"

/-- Asks a dashboard; without one there is nobody to ask. -/
def run (q : Query) : Option Dashboard → Act τ σ Json
  | none => Act.fail (.noAttribute .null q.name)
  | some d =>
    match q with
    | .probe => return .int (← d.probe)
    | .listJobs => d.listJobs
    | .jobDetails job => d.jobDetails job
    | .jobLogs job => d.jobLogs job

end TrialRun.Query
