import TrialRun.Proofs.Trial.Output
import TrialRun.Proofs.Trial.Waits
import TrialRun.Scenario

/-!
# What the parts of a trial change

Writing output is everyday business.  Diagnostics and the way to a dashboard only look at the
cluster.  Where objects are created, an observant relation has to allow the calls that create them;
where something is put off, it has to allow that.
-/

set_option autoImplicit false

namespace TrialRun

variable {τ σ α : Type} {R : World τ σ → World τ σ → Prop}

/-! ## Output -/

namespace Filing

variable (h : Filing R)

include h

/-- The base of the output is set, or made among the temporary files. -/
theorem outputBase : (Trial.outputBase : Act τ σ Path).Moves R := by
  apply h.bind h.site
  intro site
  cases site.settings.outputDir with
  | some base => exact Calm.ite (h.pure _) (h.makeTemporary _)
  | none => exact h.makeTemporary _

/-- The directory of a trial is noted only if none was noted before. -/
theorem outputPath : (Trial.outputPath : Act τ σ Path).Moves R := by
  intro site w
  cases noted : w.trial.outputDirectory with
  | some p =>
    rw [Trial.run_outputPath_of_noted noted]
    exact h.refl w
  | none =>
    have ended := Trial.run_outputBase site w
    have moved := h.outputBase site w
    rw [Trial.outputPath, Act.run_bind_of_ok _ (Act.run_trial site w), noted]
    dsimp only
    rw [Act.run_bind]
    revert ended moved
    rcases Trial.outputBase.run site w with ⟨f | base, u⟩ <;> intro ended moved
    · exact moved
    · have unnoted : u.trial.outputDirectory = none := by
        rw [ended.2, noted]
      dsimp only
      rw [Act.run_bind_of_ok _ (Act.run_trial site u), Act.run_bind_of_ok _ (Act.run_note ..)]
      have made (p : Path) : (do
          Act.makeDirectory p
          Act.log .info s!"Output directory: {p.text}"
          pure p : Act τ σ Path).Moves R :=
        h.bind (h.makeDirectory p) fun _ => h.bind (h.log _ _) fun _ => h.pure p
      exact h.trans moved (h.trans (h.directory u _ unnoted) (made _ site _))

/-- A text is written into a file that has to be allowed, with the directories on the way to it. -/
theorem writeOutput (fileName : String) (contents : Json)
    (allowed : ∀ (directory : Path) text,
      Allows R (.wrote (directory.join (Path.ofText fileName)) text)) :
    (Trial.writeOutput fileName contents : Act τ σ Path).Moves R := by
  refine h.bind h.outputPath fun directory => h.bind (h.makeDirectory _) fun _ => ?_
  cases contents with
  | text s => exact h.bind (h.writeFile _ _ (allowed directory _)) fun _ => h.pure _
  | brokenText codes => exact h.bind (h.writeFile _ _ (allowed directory _)) fun _ => h.fail _
  | _ => exact h.fail _

end Filing

/-- Where all everyday business is allowed, so is any output. -/
theorem Everyday.writeOutput (h : Everyday R) (fileName : String) (contents : Json) :
    (Trial.writeOutput fileName contents : Act τ σ Path).Moves R :=
  h.toFiling.writeOutput fileName contents fun _ _ w => h.wrote w _ _

/-! ## Guards -/

namespace Inspecting

variable (h : Inspecting R)

include h

/-- That a trial has failed may be noted by those that inspect. -/
theorem setFailed : (Trial.setFailed true : Act τ σ Unit).Moves R := fun _ w => h.failed w

/-- A diagnostic changes what it changes, and its fault is logged. -/
theorem diagnose {diagnostic : Act τ σ Unit} (moved : diagnostic.Moves R) :
    (Trial.diagnose diagnostic).Moves R :=
  h.rescue moved fun _ => h.bind h.trial fun _ => h.log _ _

/-- A guarded body is followed by its diagnostics, if it fails, and by the note that the trial has
failed. -/
theorem onFailure {diagnostics : List (Act τ σ Unit)} {body : Act τ σ α}
    (looks : ∀ diagnostic ∈ diagnostics, diagnostic.Moves R) (moved : body.Moves R) :
    (Trial.onFailure diagnostics body).Moves R := by
  apply h.bind (Calm.attempt moved)
  intro r
  cases r with
  | ok v => exact h.pure v
  | error f =>
    have diagnosed : (Act.forEach Trial.diagnose diagnostics).Moves R := by
      clear moved
      induction diagnostics with
      | nil => exact h.pure ()
      | cons diagnostic rest ih =>
        apply h.bind (h.diagnose (looks diagnostic List.mem_cons_self))
        intro _
        exact ih fun other member => looks other (List.mem_cons_of_mem _ member)
    exact h.bind h.setFailed fun _ => h.bind diagnosed fun _ => h.fail f

end Inspecting

variable [Timescale τ]

/-! ## Diagnostics -/

namespace Everyday

variable (h : Everyday R)

include h

/-- The log of a container is read and then written, or a failure is logged. -/
theorem storeContainerLog (ns pod container : Json)
    (read : ∀ o, Allows R (.called (.readPodLog ns pod container) o)) :
    (Trial.storeContainerLog ns pod container : Act τ σ Unit).Moves R := by
  apply h.bind (Calm.attempt (h.ask _ read))
  intro r
  cases r with
  | ok logs => exact h.bind (h.writeOutput _ _) fun _ => h.pure _
  | error f => exact Calm.ite (h.log _ _) (h.fail f)

omit h in
/-- Storing diagnostics begins with the list of pods, and only logs and occurrences are read behind
it. -/
theorem exists_storeDiagnostics_eq (ns : Json) : ∃ next : List Cluster.Pod → Act τ σ Unit,
    Trial.storeDiagnostics ns = Cluster.listPods ns >>= next ∧
      ∀ {R : World τ σ → World τ σ → Prop}, Everyday R →
        (∀ pod container o, Allows R (.called (.readPodLog ns pod container) o)) →
        (∀ o, Allows R (.called (.listOccurrences ns) o)) → ∀ pods, (next pods).Moves R := by
  refine ⟨_, rfl, fun h logs occurrences pods => ?_⟩
  have each (pod container : Json) := h.storeContainerLog ns pod container (logs pod container)
  apply h.bind (h.forEach (fun pod => h.forEach (fun _ => each _ _) _) _)
  intro _
  apply h.bind (h.bind (h.ask _ occurrences) fun _ => h.pure _)
  intro lines
  exact h.bind (h.writeOutput _ _) fun _ => h.pure _

/-- The diagnostics of a namespace make three kinds of calls, and write. -/
theorem storeDiagnostics {ns : Json} (pods : ∀ o, Allows R (.called (.listPods ns .null) o))
    (logs : ∀ pod container o, Allows R (.called (.readPodLog ns pod container) o))
    (occurrences : ∀ o, Allows R (.called (.listOccurrences ns) o)) :
    (Trial.storeDiagnostics ns : Act τ σ Unit).Moves R := by
  obtain ⟨next, same, moved⟩ := exists_storeDiagnostics_eq (τ := τ) (σ := σ) ns
  rw [same]
  exact h.bind (h.bind (h.ask _ pods) fun _ => h.pure _) (moved h logs occurrences)

end Everyday

namespace Inspecting

variable (h : Inspecting R)

include h

/-- A Ray cluster is looked at with its pods, and nothing is written. -/
theorem troubleshootRayCluster (ns name : Json) :
    (Trial.troubleshootRayCluster ns name : Act τ σ Unit).Moves R := by
  refine h.bind h.trial fun t => Calm.ite ?_ (h.pure _)
  refine h.bind (h.getObject _ _ _) fun rayCluster => h.bind (h.lift _) fun state => ?_
  refine h.bind (h.lift _) fun status => h.bind (h.log _ _) fun _ => ?_
  refine h.bind (h.listPods _ _) fun pods => Calm.ite (h.log _ _) ?_
  refine h.forEach (fun pod => h.forEach (fun container => ?_) _) _
  exact h.bind (h.log _ _) fun _ => h.bind (h.readPodLogs _ _ _) fun _ => h.log _ _

/-- A watched act may be followed by a look at its Ray cluster. -/
theorem watching {ns rayCluster : Json} {act : Act τ σ α} (moved : act.Moves R) :
    (Trial.watching Trial.troubleshootRayCluster ns rayCluster act).Moves R := by
  refine h.onFailure (fun diagnostic member => ?_) moved
  obtain rfl := List.mem_singleton.mp member
  exact h.troubleshootRayCluster ns rayCluster

/-- What the diagnostics keep is still there when a watched act has failed. -/
theorem ensures_watching {ns rayCluster : Json} {act : Act τ σ α} {site : Site τ σ}
    {P : World τ σ → Prop} {Q : α → World τ σ → Prop} {E : World τ σ → Prop}
    (kept : ∀ w w', E w → R w w' → E w') (ensures : act.Ensures site P Q fun _ => E) :
    (Trial.watching Trial.troubleshootRayCluster ns rayCluster act).Ensures site P Q
      fun _ => E := by
  apply ensures.attempt.bind
  intro r
  cases r with
  | ok v => exact .pure fun _ => id
  | error f =>
    apply Act.Ensures.bind (h.setFailed.ensures kept)
    intro _
    have looked := h.diagnose (h.troubleshootRayCluster ns rayCluster)
    have diagnosed := h.bind looked fun _ => h.pure ()
    exact Act.Ensures.bind (diagnosed.ensures kept) fun _ => .fail fun _ => id

end Inspecting

/-- An observant relation allows all that the diagnostics of a namespace do. -/
theorem Observant.storeDiagnostics (h : Observant R) (ns : Json) :
    (Trial.storeDiagnostics ns : Act τ σ Unit).Moves R :=
  h.toEveryday.storeDiagnostics (fun o => h.reads _ o rfl rfl) (fun _ _ o => h.reads _ o rfl rfl)
    fun o => h.reads _ o rfl rfl

/-- To wait for a Ray cluster is to look at it. -/
theorem Looking.waitUntilReady (h : Looking R) (ns rayCluster : Json) :
    (Trial.waitUntilReady ns rayCluster : Act τ σ Json).Moves R :=
  h.waitForRayClusterState _ _ _ _

/-! ## Dashboards -/

namespace Calm

variable (h : Calm R)

include h

omit [Timescale τ] in
/-- A client for a dashboard is made without asking it for anything. -/
theorem connect (url : Json) : (Trial.connect url : Act τ σ Dashboard).Moves R := by
  refine h.bind h.site fun site => h.bind (h.lift _) fun token => ?_
  cases url with
  | text address => exact h.pure _
  | _ => exact h.fail _

/-- What is fetched from a dashboard is one request. -/
theorem get (d : Dashboard) (path : String)
    (allowed : ∀ r x, d.request (d.address ++ path) = .ok r → Allows R (.requested r x)) :
    (d.get path : Act τ σ Json).Moves R := by
  refine h.lift_bind fun r asked => h.rescue ?_ fun _ => h.fail _
  apply h.bind (h.request fun x => allowed r x asked)
  intro x
  cases x with
  | response status body => exact h.lift _
  | errorStatus code => exact h.fail _
  | failed f => exact h.fail f

/-- The log of a job is fetched at its own address. -/
theorem jobLogs (d : Dashboard) (job : Json)
    (allowed : ∀ r x, d.request (d.address ++ s!"/api/jobs/{job.display}/logs") = .ok r →
      Allows R (.requested r x)) :
    (d.jobLogs job : Act τ σ Json).Moves R := h.bind (h.get d _ allowed) fun _ => h.lift _

/-- Whatever a client is asked for, it makes its own requests only. -/
theorem query (d : Dashboard)
    (allowed : ∀ text r x, d.request text = .ok r → Allows R (.requested r x)) (q : Query) :
    (q.run (some d) : Act τ σ Json).Moves R := by
  cases q with
  | probe => exact h.bind (h.probe d (allowed _)) fun _ => h.pure _
  | listJobs => exact h.get d _ (allowed _)
  | jobDetails job => exact h.get d _ (allowed _)
  | jobLogs job => exact h.jobLogs d job (allowed _)

end Calm

/-- The log of a job is asked for at its dashboard, and written into its file. -/
theorem Filing.writeJobLogs (h : Filing R) (d : Dashboard) (job : Json)
    (asks : ∀ r x, d.request (d.address ++ s!"/api/jobs/{job.display}/logs") = .ok r →
      Allows R (.requested r x))
    (writes : ∀ (directory : Path) text,
      Allows R (.wrote (directory.join (Path.ofText (Trial.jobLogFile job))) text)) :
    (Trial.writeJobLogs (some d) job : Act τ σ Path).Moves R :=
  h.bind (h.log _ _) fun _ => h.bind (h.jobLogs d job asks) fun _ => h.writeOutput _ _ writes

/-- The way by an ingress only looks at the cluster. -/
theorem Looking.ingressUrl (h : Looking R) (ns name : Json) :
    (Trial.ingressUrl ns name : Act τ σ String).Moves R := by
  apply h.bind (h.waitForIngressAdmitted _ _ _)
  intro ingress
  cases ingress with
  | some ingress => exact h.bind (h.lift _) fun _ => h.pure _
  | none => exact h.fail _

namespace Probing

variable (h : Probing R)

include h

/-- The way by a route probes the dashboard as well. -/
theorem routeUrl (ns name : Json) : (Trial.routeUrl ns name : Act τ σ String).Moves R := by
  refine h.bind (h.waitForRouteAdmitted _ _ _) fun route => h.bind (h.lift _) fun ingresses => ?_
  refine h.bind (h.lift _) fun first => h.bind (h.lift _) fun host => h.bind (h.log _ _) fun _ => ?_
  exact h.bind (h.waitFor (h.probe _)) fun _ => h.pure _

/-- Both ways to a dashboard look at the cluster and probe. -/
theorem dashboardUrl (ns rayCluster : Json) :
    (Trial.dashboardUrl ns rayCluster : Act τ σ String).Moves R := by
  refine h.bind (h.lift _) fun name => h.bind h.isOpenshift fun openshift => ?_
  have logged : ∀ url, (do
      Act.log .info s!"Ray-dashboard route : {url}"
      pure url : Act τ σ String).Moves R := fun url => h.bind (h.log _ _) fun _ => h.pure _
  cases openshift with
  | true => exact h.bind (h.routeUrl ns name) logged
  | false => exact h.bind (h.ingressUrl ns name) logged

end Probing

namespace Glancing

variable (h : Glancing R)

include h

/-- The one request for a log is an event that asks for the log of this job. -/
theorem jobLogs (d : Dashboard) (job : Json)
    (allowed : ∀ e : Event τ, e.AsksForLogs job → Allows R e) :
    (d.jobLogs job : Act τ σ Json).Moves R :=
  h.toCalm.jobLogs d job fun _ _ asked => allowed _ ⟨d, asked⟩

/-- The log of a job is asked for and then written. -/
theorem writeJobLogs (d : Dashboard) (job : Json)
    (allowed : ∀ e : Event τ, e.AsksForLogs job → Allows R e) :
    (Trial.writeJobLogs (some d) job : Act τ σ Path).Moves R :=
  h.toFiling.writeJobLogs d job (fun _ _ asked => allowed _ ⟨d, asked⟩)
    fun _ _ w => h.wrote w _ _

end Glancing

/-! ## Creating -/

namespace Calm

variable (h : Calm R)

include h

/-- An object of any type is created with a log record. -/
theorem createNamed (type : ResourceType) (ns body : Json) (text : Json → String)
    (allowed : ∀ o, Allows R (.called (.createObject type ns body) o)) :
    (do
      let made ← Cluster.createObject type ns body
      let name ← liftM (Workload.name made)
      Act.log .info (text name)
      Pure.pure made : Act τ σ Json).Moves R :=
  h.bind (h.createObject _ _ _ allowed) fun _ => h.bind (h.lift _) fun _ =>
    h.bind (h.log _ _) fun _ => h.pure _

/-- Queues, Ray clusters and config maps are created by a call each, which has to be allowed. -/
theorem createResourceFlavor (spec : Json)
    (allowed : ∀ body o, Allows R (.called (.createObject .resourceFlavor .null body) o)) :
    (Trial.createResourceFlavor spec : Act τ σ Json).Moves R := h.createNamed _ _ _ _ (allowed _)

/-- A cluster queue is created with quotas on a flavor. -/
theorem createQuotaQueue (flavor : Json) (a : Accelerator)
    (allowed : ∀ body o, Allows R (.called (.createObject .clusterQueue .null body) o)) :
    (Trial.createQuotaQueue flavor a : Act τ σ Json).Moves R :=
  h.bind (h.lift _) fun _ => h.createNamed _ _ _ _ (allowed _)

/-- A local queue is created in a namespace. -/
theorem createLocalQueue (ns clusterQueue : Json) (asDefault : Bool)
    (allowed : ∀ body o, Allows R (.called (.createObject .localQueue ns body) o)) :
    (Trial.createLocalQueue ns clusterQueue asDefault : Act τ σ Json).Moves R :=
  h.createNamed _ _ _ _ (allowed _)

/-- A Ray cluster is created and its name is logged. -/
theorem createRayCluster (ns body : Json)
    (allowed : ∀ o, Allows R (.called (.createObject .rayCluster ns body) o)) :
    (Trial.createRayCluster ns body : Act τ σ Json).Moves R :=
  h.bind (h.createObject _ _ _ allowed) fun _ => h.bind (h.lift _) fun _ =>
    h.bind (h.log _ _) fun _ => h.pure _

/-- The config map is not sent at all if there is no script. -/
theorem createScript (ns : Json) (script : List UInt8)
    (allowed : ∀ body o, Allows R (.called (.createConfigMap ns body) o)) :
    (Trial.createScript ns script : Act τ σ Json).Moves R := by
  refine h.bind (h.lift _) fun body => h.bind (h.createConfigMap _ _ (allowed body)) fun made => ?_
  exact h.bind (h.log _ _) fun _ => h.pure _

end Calm

end TrialRun
