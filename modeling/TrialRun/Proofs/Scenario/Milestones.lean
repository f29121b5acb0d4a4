import TrialRun.Proofs.Dashboard.Addresses
import TrialRun.Proofs.Trial.Parts

/-!
# The milestones of a scenario

A scenario goes from milestone to milestone, each of them a reply that it has seen or a file that it
has written: its Ray cluster is created and then ready, the training job is created, has ended and
has succeeded, what it has logged is answered and written down, the Ray cluster is deleted and then
gone. `Scenario.Rule` says which of them come before the events that matter: the submission of a
job, the request for its log, and a deletion.  It says nothing of any other event.
-/

set_option autoImplicit false

namespace TrialRun

variable {τ σ : Type}

/-! ## Single milestones -/

namespace Event

/-- The server has said that something was created. -/
def Creates (t : Target) (e : Event τ) : Prop := e.created? = some t

theorem creates_of_named {type : ResourceType} {ns body made name : Json}
    (named : Workload.name made = .ok name) :
    (Event.called (.createObject type ns body) (.served made) : Event τ).Creates
      ⟨.object type, ns, name⟩ := by
  change (Cluster.Call.createObject type ns body).created? made = _
  exact Cluster.Call.created?_createObject named

/-- The server has said that a wrapper was created, which was asked for with a Ray cluster in it. -/
def CreatesWrapper (ns name : Json) (e : Event τ) : Prop :=
  e.Creates ⟨.object .appWrapper, ns, name⟩ ∧
    ∃ (c : Workload.RayCluster) (queue body : Json) (o : Outcome Json),
      Workload.appWrapper ns c.toJson queue = .ok body ∧
        e = .called (.createObject .appWrapper ns body) o

/-- A call was answered with a value of this kind. -/
def Shows (c : Cluster.Call .value) (φ : Json → Prop) (e : Event τ) : Prop :=
  ∃ v : Json, e = .called c (.served v) ∧ φ v

/-- A reading of a Ray cluster has shown the state "ready". -/
def ShowsReady (ns name : Json) : Event τ → Prop :=
  Shows (.getObject .rayCluster ns name) fun v =>
    Workload.rayClusterState v = .ok (.text Workload.rayClusterReady)

/-- The same reading has shown a head that pulls its image with the secret and no other one. -/
def ShowsReadyWithSecret (ns name : Json) : Event τ → Prop :=
  Shows (.getObject .rayCluster ns name) fun v =>
    Workload.rayClusterState v = .ok (.text Workload.rayClusterReady) ∧
      Trial.headPullSecrets v = .ok (.list [.object [("name", .text Trial.pullSecretName)]])

/-- A list of wrappers held one in the phase "Running". -/
def ShowsRunning (ns : Json) : Event τ → Prop :=
  Shows (.listObjects .appWrapper ns) fun v =>
    ∃ items wrappers wrapper, v.get "items" (.list []) = .ok items ∧
      items.elements = .ok wrappers ∧ wrapper ∈ wrappers ∧
      Workload.appWrapperPhase wrapper = .ok (.text Workload.appWrapperRunning)

/-- A reading of a job has shown a status in which it stays. -/
def ShowsTerminal (ns name : Json) : Event τ → Prop :=
  Shows (.getObject .rayJob ns name) fun v =>
    ∃ status ∈ Workload.terminalStatuses, Workload.rayJobStatus v = .ok (.text status)

/-- A reading of a job has shown that it has succeeded, and its identity at the dashboard. -/
def ShowsSucceeded (ns name job : Json) : Event τ → Prop :=
  Shows (.getObject .rayJob ns name) fun v =>
    Workload.rayJobStatus v = .ok (.text Workload.jobSucceeded) ∧ Workload.rayJobId v = .ok job

/-- The dashboard has answered what a job has logged. -/
def ShowsLogs (job logs : Json) : Event τ → Prop
  | .requested r x => (Event.requested r x : Event τ).AsksForLogs job ∧
    ∃ status body answer, x = .response status body ∧ Dashboard.bodyValue body = .ok answer ∧
      answer.get "logs" (.text "") = .ok logs
  | _ => False

/-- What a job has logged was written into its file. -/
def WritesLogs (job : Json) (logs : String) (e : Event τ) : Prop :=
  ∃ directory : Path, e = .wrote (directory.join (Path.ofText (Trial.jobLogFile job))) logs

/-- The server has said that an object was deleted. -/
def Deletes (type : ResourceType) (ns name : Json) : Event τ → Prop :=
  Shows (.deleteObject type ns name) fun _ => True

/-- A list of objects held none. -/
def ShowsNone (type : ResourceType) (ns : Json) : Event τ → Prop :=
  Shows (.listObjects type ns) fun v =>
    ∃ items, v.get "items" (.list []) = .ok items ∧ items.size = .ok 0

/-- A reading has failed, and the reason was that there is no such object. -/
def ShowsGone (type : ResourceType) (ns name : Json) (e : Event τ) : Prop :=
  ∃ (f : Fault) (o : Outcome Json), e = .called (.getObject type ns name) o ∧
    (o = .refused f ∨ o = .late f) ∧ f.isNotFound = true

end Event

/-! ## The milestones in their order -/

/-- What a training is known by: its job, that job's identity at the dashboard, and its logs. -/
structure Training where
  rayJob : Json
  job : Json
  logs : String

namespace Training

variable (t : Training)

/-- The job was created, has ended, and has succeeded. -/
def succeeded (ns : Json) : List (Event τ → Prop) :=
  [Event.ShowsSucceeded ns t.rayJob t.job, Event.ShowsTerminal ns t.rayJob,
    Event.Creates ⟨.object .rayJob, ns, t.rayJob⟩]

/-- What it has logged was answered and written down. -/
def written : List (Event τ → Prop) :=
  [Event.WritesLogs t.job t.logs, Event.ShowsLogs t.job (.text t.logs)]

end Training

namespace Scenario

/-- Whether a scenario trains. -/
def Trains : Scenario → Prop
  | .queuedCluster _ | .wrappedCluster _ => True
  | .pullSecret => False

/-- The type of what a scenario brings up and takes down. -/
def resource : Scenario → ResourceType
  | .queuedCluster _ | .pullSecret => .rayCluster
  | .wrappedCluster _ => .appWrapper

/-- The Ray cluster was brought up, by an object of a name. -/
def broughtUp : Scenario → (ns name : Json) → List (Event τ → Prop)
  | .queuedCluster _, ns, name =>
    [Event.ShowsReady ns name, Event.Creates ⟨.object .rayCluster, ns, name⟩]
  | .wrappedCluster _, ns, name =>
    [Event.ShowsReady ns (.text Workload.rayClusterName), Event.ShowsRunning ns,
      Event.CreatesWrapper ns name]
  | .pullSecret, ns, name =>
    [Event.ShowsReadyWithSecret ns name, Event.Creates ⟨.object .rayCluster, ns, name⟩]

/-- All that is to be done with the Ray cluster was done. -/
def used (s : Scenario) (ns name : Json) (t : Training) : List (Event τ → Prop) :=
  match s with
  | .queuedCluster _ | .wrappedCluster _ => t.written ++ t.succeeded ns ++ s.broughtUp ns name
  | .pullSecret => s.broughtUp ns name

/-- What was brought up was deleted, and was seen to be gone. -/
def takenDown (s : Scenario) (ns name : Json) : List (Event τ → Prop) :=
  match s with
  | .queuedCluster _ | .wrappedCluster _ =>
    [Event.ShowsNone s.resource ns, Event.Deletes s.resource ns name]
  | .pullSecret => [Event.ShowsGone s.resource ns name, Event.Deletes s.resource ns name]

/-- What has to come before an event. -/
structure Rule (s : Scenario) (e : Event τ) (earlier : List (Event τ)) : Prop where
  submission : ∀ ns, e.creates? = some (.object .rayJob, ns) →
    s.Trains ∧ ∃ name, Passed (s.broughtUp ns name) earlier
  logs : ∀ job, e.AsksForLogs job → s.Trains ∧ ∃ ns name, ∃ t : Training,
    e.AsksForLogs t.job ∧ Passed (t.succeeded ns ++ s.broughtUp ns name) earlier
  deletion : ∀ t, e.deletes? = some t →
    t.kind = .object s.resource ∧ ∃ training, Passed (s.used t.ns t.name training) earlier

variable {s : Scenario} {e : Event τ} {earlier : List (Event τ)} {ms : List (Event τ → Prop)}

/-- The rule says nothing of an event that neither submits a job nor asks for a log nor deletes. -/
theorem Rule.of_silent (creates : ∀ ns, e.creates? ≠ some (.object .rayJob, ns))
    (deletes : e.deletes? = none) (logs : ∀ job, ¬e.AsksForLogs job) : s.Rule e earlier where
  submission ns job := absurd job (creates ns)
  logs job asks := absurd asks (logs job)
  deletion t h := by
    rw [deletes] at h
    cases h

/-- What the rule permits includes all everyday business, readings and probes. -/
theorem observant_permitted (s : Scenario) (ms : List (Event τ → Prop)) :
    Observant (World.Grows (σ := σ) (Permitted s.Rule ms)) := by
  refine observant_grows (fun e everyday _ _ => ?_) (fun c o nothing kept _ _ => ?_)
    fun d r x probe _ _ => ?_
  · refine .of_silent (fun ns job => ?_) everyday.deletes? everyday.not_asksForLogs
    rw [everyday.creates?] at job
    cases job
  · refine .of_silent (fun ns job => ?_) kept fun _ => id
    rw [Event.creates?, nothing] at job
    cases job
  · refine .of_silent (fun ns job => ?_) rfl (Dashboard.not_asksForLogs_of_probe probe)
    cases job

/-- Creating anything but a job is permitted. -/
theorem allows_creation {f : Cluster.Form} {c : Cluster.Call f} {kind : Kind} {ns : Json}
    (creates : c.creates? = some (kind, ns)) (noJob : kind ≠ .object .rayJob)
    (o : Outcome f.Carrier) :
    Allows (World.Grows (σ := σ) (Permitted s.Rule ms)) (.called c o) := by
  have kept : c.deletes? = none := Cluster.Call.deletes?_of_creates? creates
  refine World.Grows.of_recorded fun earlier _ => .of_silent (fun ns' job => ?_) kept fun _ => id
  rw [Event.creates?, creates] at job
  cases job
  exact noJob rfl

end Scenario

end TrialRun
