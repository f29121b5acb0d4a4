import TrialRun.Proofs.Secrecy.Sessions

/-!
# The token stays where it belongs

Two runs that differ in the keys alone end alike, whatever is run: the steps of a session, a
scenario, the end of a trial.  Their records are the same event by event, but for the header of
requests that go out from clients of dashboards that the trial has made for itself
(`Comparison.between`); looking for the dashboard does not even make such a request
(`Comparison.verbatim`).
-/

set_option autoImplicit false

namespace TrialRun

variable {τ σ α : Type}

namespace Comparison

variable (site : Site τ σ) (keys keys' : Json) (token token' : Option String)

/-- Two runs that are compared from the beginning of their records, where the requests of their own
clients may carry different tokens. -/
def between : Comparison τ σ where
  site := site
  keys := keys
  keys' := keys'
  token := token
  token' := token'
  Matches := Event.Matches token token'
  refl := .same
  before := []
  before' := []

/-- Two runs with any records so far, where all that follows is recorded in the same way, the
headers of requests included. -/
def verbatim (before before' : List (Event τ)) : Comparison τ σ where
  site := site
  keys := keys
  keys' := keys'
  token := token
  token' := token'
  Matches := Eq
  refl _ := rfl
  before := before
  before' := before'

variable {site keys keys' token token'}

/-- A site that ignores headers answers alike under both keys: they differ in nothing else that is
sent. -/
theorem between_isFair (held : Cluster.bearerToken keys = .ok token)
    (held' : Cluster.bearerToken keys' = .ok token') (ignores : site.IgnoresHeaders) :
    (between site keys keys' token token').IsFair where
  held := held
  held' := held'
  ignores := ignores
  requests := .own

/-- A world that has put off nothing that asks for the token is alike to itself. -/
theorem between_alike {w : World τ σ} (discreet : Step.AllDiscreet w.trial.pending) :
    (between site keys keys' token token').Alike w w where
  clock := rfl
  outside := rfl
  volume := rfl
  trial := ⟨rfl, by cases w.trial.dashboard <;> constructor; exact .same _, discreet⟩
  record := by
    refine ⟨w.record, w.record, List.forall₂_same.mpr fun e _ => .same e, ?_, ?_⟩ <;>
      exact (List.append_nil _).symm

variable {C : Comparison τ σ} [Timescale τ]

/-! ## Scenarios -/

namespace Blind

/-- The queues are set up by operations that are blind, and so is what is put off. -/
theorem setUpQueues (ns : Json) (a : Accelerator) :
    C.Blind (Trial.setUpQueues ns a : Act τ σ Json) := by
  refine bind (createResourceFlavor _) fun flavor => bind (lift _) fun flavorName => ?_
  refine bind (defer trivial) fun _ => bind (createQuotaQueue _ _) fun queue => ?_
  refine bind (lift _) fun queueName => bind (defer trivial) fun _ => ?_
  exact createLocalQueue _ _ _

theorem createScript (ns : Json) (script : List UInt8) :
    C.Blind (Trial.createScript ns script : Act τ σ Json) := by
  refine bind (lift _) fun configMap => bind (createConfigMap _ _) fun created => ?_
  exact bind (log _ _) fun _ => pure _

/-- Preparations are blind: what they create is named by the server. -/
theorem prepare (name : Json) (a : Accelerator) (script : List UInt8) :
    C.Blind (Trial.prepare name a script : Act τ σ Trial.Grounds) := by
  refine bind (newTestNamespace name) fun ns => bind (setUpQueues _ a) fun queue => ?_
  exact bind (createScript _ script) fun configMap => bind (lift _) fun _ => pure _

theorem createRayCluster (ns body : Json) :
    C.Blind (Trial.createRayCluster ns body : Act τ σ Json) := by
  refine bind (createObject _ _ _) fun created => bind (lift _) fun name => ?_
  exact bind (log _ _) fun _ => pure _

/-- A look at the cluster is blind, so an act that is watched is blind if it is so by itself. -/
theorem watching {a : Act τ σ α} (ns rayCluster : Json) (h : C.Blind a) :
    C.Blind (Trial.watching Trial.troubleshootRayCluster ns rayCluster a) := by
  refine Twin.onFailure (fun d listed => ?_) h
  rw [List.mem_singleton.mp listed]
  exact troubleshootRayCluster _ _

theorem waitUntilReady (ns rayCluster : Json) :
    C.Blind (Trial.waitUntilReady ns rayCluster : Act τ σ Json) := waitForRayClusterState _ _ _ _

/-- The client of the training's dashboard carries the token, and the log is fetched with it. -/
theorem train (fair : C.IsFair) (ns : Json) (a : Accelerator) :
    C.Blind (Trial.train ns a : Act τ σ Unit) := by
  refine site_bind (fun known => ?_) fun _ _ => by dsimp only
  refine bind (createObject _ _ _) fun made => bind (lift _) fun name => bind (log _ _) fun _ => ?_
  refine bind (dashboardUrl _ _) fun url => bind (log _ _) fun _ => ?_
  refine Twin.bind (Twin.connect fair _) fun d d' same => ?_
  have trained : C.Blind (Trial.watching Trial.troubleshootRayCluster ns Workload.rayClusterName do
      let _ ← Trial.waitForRayJobTerminal ns name (Timescale.seconds Trial.longTimeout)
      let rayJob ← Cluster.getObject .rayJob ns name
      Trial.requireSuccess ns name rayJob
      Pure.pure rayJob) := by
    refine watching _ _ (bind (waitForRayJobTerminal _ _ _) fun _ => ?_)
    exact bind (getObject _ _ _) fun rayJob => bind (lift _) fun _ => pure _
  refine Twin.bind trained ?_
  rintro rayJob _ rfl
  refine Twin.bind (lift (Workload.rayJobId rayJob)) ?_
  rintro job _ rfl
  exact Twin.forget (Twin.writeJobLogs fair (.some same) job)

/-- The body for a queued cluster is blind, as it asks for the token only to make its client. -/
theorem runQueued (fair : C.IsFair) (a : Accelerator) (script : List UInt8) :
    C.Blind (Scenario.runQueued Trial.troubleshootRayCluster a script : Act τ σ Unit) := by
  refine bind (prepare _ a script) fun grounds => site_bind (fun known => ?_) fun _ _ => by
    dsimp only
  refine bind (createRayCluster _ _) fun name => ?_
  refine bind (watching _ _ (waitUntilReady _ _)) fun _ => bind (train fair _ a) fun _ => ?_
  refine bind (log _ _) fun _ => ?_
  exact bind (deleteObject _ _ _) fun _ => waitForRayClustersDeleted _ _

theorem runWrapped (fair : C.IsFair) (a : Accelerator) (script : List UInt8) :
    C.Blind (Scenario.runWrapped Trial.troubleshootRayCluster a script : Act τ σ Unit) := by
  refine bind (prepare _ a script) fun grounds => site_bind (fun known => ?_) fun _ _ => by
    dsimp only
  refine bind (lift _) fun body => bind (createObject _ _ _) fun wrapper => ?_
  refine bind (lift _) fun wrapperName => bind (log _ _) fun _ => bind (lift _) fun name => ?_
  refine bind (watching _ _ ?_) fun _ => bind (train fair _ a) fun _ => bind (log _ _) fun _ => ?_
  · refine bind (log _ _) fun _ => bind (waitForAppWrapperPhase _ _ _) fun _ => ?_
    exact bind (waitUntilReady _ _) fun _ => pure _
  · exact bind (deleteObject _ _ _) fun _ => waitForAppWrappersDeleted _ _

theorem runPullSecret (script : List UInt8) :
    C.Blind (Scenario.runPullSecret Trial.troubleshootRayCluster script : Act τ σ Unit) := by
  refine bind (prepare _ _ script) fun grounds => site_bind (fun known => ?_) fun _ _ => by
    dsimp only
  refine bind (createRayCluster _ _) fun name => bind (watching _ _ (waitUntilReady _ _)) ?_
  intro rayCluster
  refine bind (lift _) fun _ => bind (deleteObject _ _ _) fun _ => ?_
  exact waitForRayClusterGone _ _ _

/-- Every scenario is blind to the token. -/
theorem scenario (fair : C.IsFair) (s : Scenario) (script : List UInt8) :
    C.Blind (s.run script : Act τ σ Unit) := by
  cases s with
  | queuedCluster a => exact runQueued fair a script
  | wrappedCluster a => exact runWrapped fair a script
  | pullSecret => exact runPullSecret script

end Blind

end Comparison

/-! ## All runs -/

/-- What goes on at a site under the one keys and under the others is alike. -/
structure Site.Confines [Timescale τ] (site : Site τ σ) (keys keys' : Json)
    (token token' : Option String) : Prop where
  /-- The steps of a session are answered alike, if none of them asks for the token. -/
  session : ∀ steps : List (Step τ), Step.AllDiscreet steps →
    (Comparison.between site keys keys' token token').Twin
      (List.Forall₂ (SameEnd (SameResult token token'))) (Trial.answers steps)
      (Trial.answers steps)
  scenario : ∀ (s : Scenario) (script : List UInt8),
    (Comparison.between site keys keys' token token').Blind (s.run script)
  conclusion : ∀ report : Option Report,
    (Comparison.between site keys keys' token token').Blind (Trial.conclude report)
  /-- Whatever was recorded before, the address of a dashboard is looked for with the same events,
  down to the headers of the requests that probe it. -/
  dashboardUrl : ∀ (before before' : List (Event τ)) (ns rayCluster : Json),
    (Comparison.verbatim site keys keys' token token' before before').Blind
      (Trial.dashboardUrl ns rayCluster)

/-- If the answers do not depend on headers, keys that hold different tokens make no difference but
in the headers of requests of the trials' own clients. -/
theorem Site.confines [Timescale τ] {site : Site τ σ} {keys keys' : Json}
    {token token' : Option String} (held : Cluster.bearerToken keys = .ok token)
    (held' : Cluster.bearerToken keys' = .ok token') (ignores : site.IgnoresHeaders) :
    site.Confines keys keys' token token' where
  session _ discreet := .answers (Comparison.between_isFair held held' ignores) discreet
  scenario := .scenario (Comparison.between_isFair held held' ignores)
  conclusion := .conclude (Comparison.between_isFair held held' ignores)
  dashboardUrl _ _ := .dashboardUrl

/-- The keys of a configuration with an authorization. -/
def Cluster.authorizedBy (key : String) : Json := .ofFields [("authorization", .text key)]

/-- A site whose dashboard has no jobs to tell of, whoever asks. -/
def idleSite : Site Number Unit where
  answer _ s := (⟨.int 0, .refused (.plain .failure "refused")⟩, s)
  react _ s := (⟨.int 0, .response 200 [91, 93]⟩, s)
  obstacle _ s := (none, s)
  temporary _ := ⟨true, ["tmp"]⟩
  settings := {}
  apiKeys := .null

/-- A trial at such a site. -/
def idleStart : World Number Unit where
  clock := .int 0
  outside := ()
  volume := {}
  trial := { name := "mnist", pollingInterval := .int 2 }

/-- What becomes of a trial that asks its own client for the jobs. -/
def jobsAskedWith (key : String) : Except Fault (List (Except Fault Json)) × World Number Unit :=
  (Trial.answers [.connectAsTrial "https://ray", .query .listJobs]).run
    { idleSite with apiKeys := Cluster.authorizedBy key } idleStart

/-- The tokens are different, and each run sends its own; no more than that is different. -/
theorem Site.confines_jobs :
    idleSite.IgnoresHeaders ∧
      Cluster.bearerToken (Cluster.authorizedBy "Bearer one") = .ok (some "one") ∧
      Cluster.bearerToken (Cluster.authorizedBy " two\n") = .ok (some "two") ∧
      (jobsAskedWith "Bearer one").2.record = [.requested
        (Dashboard.ownRequest (some "one") "https://ray/api/jobs/") (.response 200 [91, 93])] ∧
      (jobsAskedWith " two\n").2.record = [.requested
        (Dashboard.ownRequest (some "two") "https://ray/api/jobs/") (.response 200 [91, 93])] ∧
      SameEnd (List.Forall₂ (SameEnd (SameResult (some "one") (some "two"))))
        (jobsAskedWith "Bearer one").1 (jobsAskedWith " two\n").1 := by
  have held : Cluster.bearerToken (Cluster.authorizedBy "Bearer one") = .ok (some "one") := by rfl
  have held' : Cluster.bearerToken (Cluster.authorizedBy " two\n") = .ok (some "two") := by rfl
  have ignores : idleSite.IgnoresHeaders := fun _ _ _ => rfl
  have confined := (Site.confines held held' ignores).session
    [.connectAsTrial "https://ray", .query .listJobs] ⟨trivial, trivial, trivial⟩
  refine ⟨ignores, held, held', by rfl, by rfl, ?_⟩
  exact (confined idleStart idleStart (Comparison.between_alike trivial)).1

end TrialRun
