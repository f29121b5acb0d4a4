import TrialRun.Proofs.Secrecy.Twin
import TrialRun.Scenario

/-!
# What does not see the keys

Only a client of a dashboard that a trial makes for itself has to do with the keys.  All operations
on the cluster, all waits, all output, all diagnostics and the way to a dashboard do without such a
client, so that they are blind; a probe of a dashboard is blind if its client is the same in both
runs.
-/

set_option autoImplicit false

namespace TrialRun

variable {τ σ α : Type} {C : Comparison τ σ}

namespace Comparison.Blind

/-! ## Output -/

/-- The base for output stands in the settings, or is made by the site. -/
theorem outputBase : C.Blind (Trial.outputBase : Act τ σ Path) := by
  refine site_bind (fun known => ?_) fun _ _ => rfl
  cases known.settings.outputDir with
  | some base => exact ite (pure _) (makeTemporary _)
  | none => exact makeTemporary _

/-- The directory for output is noted by the trial, or made of the base and the trial's name. -/
theorem outputPath : C.Blind (Trial.outputPath : Act τ σ Path) := by
  refine trial_bind (fun t => ?_) fun _ _ => rfl
  cases t.outputDirectory with
  | some p => exact pure p
  | none =>
    refine bind outputBase fun base => trial_bind (fun t => ?_) fun _ _ => by dsimp only
    refine bind (note (fun _ _ => rfl) fun _ => id) fun _ => bind (makeDirectory _) fun _ => ?_
    exact bind (log _ _) fun _ => pure _

/-- A text is written into the directory for output. -/
theorem writeOutput (fileName : String) (contents : Json) :
    C.Blind (Trial.writeOutput fileName contents : Act τ σ Path) := by
  refine bind outputPath fun directory => bind (makeDirectory _) fun _ => ?_
  cases contents with
  | text s => exact bind (writeFile _ _) fun _ => pure _
  | brokenText codes => exact bind (writeFile _ _) fun _ => fail _
  | _ => exact fail _

theorem writeNamed (fileName contents : Json) :
    C.Blind (Trial.writeNamed fileName contents : Act τ σ Path) := by
  cases fileName with
  | text s => exact writeOutput _ _
  | _ => exact bind outputPath fun _ => fail _

variable [Timescale τ]

/-! ## Waits -/

/-- A pause looks at the clock and at nothing else. -/
theorem pause (p : Polling τ σ α) (deadline : τ) : C.Blind (p.pause deadline) :=
  world_bind (fun _ => ite (pure _) (bind (sleep _) fun _ => pure _)) fun _ _ _ => rfl

/-- By induction on the looks that are left: what is fetched is the same, and so is the time it
takes. -/
theorem look {p : Polling τ σ α} (fetch : C.Blind p.fetch) (deadline : τ) (looks : Nat)
    (seen : Option α) (fault : Option Fault) : C.Blind (p.look deadline looks seen fault) := by
  induction looks generalizing seen fault with
  | zero => exact fail _
  | succ looks ih =>
    -- after a look that decides nothing the rest is the same, whatever it has seen
    have rest : ∀ (seen : Option α) (fault : Option Fault), C.Blind (do
        if ← p.pause deadline then p.look deadline looks seen fault
        else Act.fail (p.expired seen fault)) := fun seen fault =>
      bind (pause p deadline) fun _ => ite (ih seen fault) (fail _)
    apply attempt_bind fetch
    intro r
    cases r with
    | ok v => exact bind (lift _) fun _ => ite (pure _) (rest (some v) none)
    | error f =>
      have told : ∀ settled : Bool, C.Blind (do
          if settled then
            Act.log .debug s!"Condition {p.description} is met by error: {f.text}"
            Pure.pure none
          else
            Act.log .debug s!"Failed to fetch state for {p.description}: {f.text}"
            if ← p.pause deadline then p.look deadline looks seen (some f)
            else Act.fail (p.expired seen (some f))) := fun settled =>
        ite (bind (log _ _) fun _ => pure _) (bind (log _ _) fun _ => rest seen (some f))
      refine ite ?_ (fail f)
      cases p.settled with
      | some settles => exact bind (lift _) told
      | none => exact bind (pure _) told

/-- A wait is blind if its fetch is. -/
theorem wait {p : Polling τ σ α} (fetch : C.Blind p.fetch) : C.Blind p.wait :=
  ite (fail _) (ite (fail _) (world_bind (fun _ => look fetch _ _ _ _) fun _ _ _ => rfl))

/-- A trial polls at its own interval, which is the same in both runs. -/
theorem waitFor {description : String} {timeout : τ} {display : α → String} {fetch : Act τ σ α}
    {satisfied : α → Except Fault Bool} {settled : Option (Fault → Except Fault Bool)}
    (looks : C.Blind fetch) :
    C.Blind (Trial.waitFor description timeout display fetch satisfied settled) :=
  trial_bind (fun _ => wait looks) fun _ _ => rfl

/-- A wait is blind if its fetch is, since its condition sees only what was fetched. -/
theorem waitForJson {description : String} {timeout : τ} {fetch : Act τ σ Json}
    {satisfied : Json → Except Fault Bool} (looks : C.Blind fetch) :
    C.Blind (Trial.waitForJson description timeout fetch satisfied) :=
  bind (waitFor looks) fun _ => pure _

/-! ## Operations on the cluster -/

/-- A question is a call whose faults are told as the operation's. -/
theorem ask {f : Cluster.Form} (task : String) (c : Cluster.Call f) :
    C.Blind (Cluster.ask task c : Act τ σ f.Carrier) := rescue (call c) fun _ => fail _

/-- Whether there are routes shows in the groups that the cluster serves. -/
theorem isOpenshift : C.Blind (Cluster.isOpenshift : Act τ σ Bool) :=
  bind (ask _ _) fun _ => pure _

/-- The name that is logged is the one that was served. -/
theorem createNamespace (name : Json) :
    C.Blind (Cluster.createNamespace name : Act τ σ Cluster.Namespace) :=
  bind (ask _ _) fun _ => bind (log _ _) fun _ => pure _

/-- Operations of the cluster are blind: the token is asked of the keys alone. -/
theorem deleteNamespace (name : Json) : C.Blind (Cluster.deleteNamespace name : Act τ σ Unit) :=
  bind (ask _ _) fun _ => log _ _

theorem createConfigMap (ns : Json) (configMap : Cluster.ConfigMap) :
    C.Blind (Cluster.createConfigMap ns configMap : Act τ σ Cluster.ConfigMap) :=
  bind (ask _ _) fun _ => bind (log _ _) fun _ => pure _

/-- The name that is logged is found in the reply, or the reply is a fault to both. -/
theorem createObject (type : ResourceType) (ns body : Json) :
    C.Blind (Cluster.createObject type ns body : Act τ σ Json) := by
  refine bind (lift _) fun _ => bind (ask _ _) fun _ => bind (lift _) fun _ => ?_
  exact bind (lift _) fun _ => bind (log _ _) fun _ => pure _

theorem getObject (type : ResourceType) (ns name : Json) :
    C.Blind (Cluster.getObject type ns name : Act τ σ Json) := ask _ _

theorem listObjects (type : ResourceType) (ns : Json) :
    C.Blind (Cluster.listObjects type ns : Act τ σ Json) := bind (ask _ _) fun _ => lift _

theorem deleteObject (type : ResourceType) (ns name : Json) :
    C.Blind (Cluster.deleteObject type ns name : Act τ σ Unit) := bind (ask _ _) fun _ => log _ _

/-- A null list of pods is an empty one in both runs. -/
theorem listPods (ns selector : Json) :
    C.Blind (Cluster.listPods ns selector : Act τ σ (List Cluster.Pod)) :=
  bind (ask _ _) fun _ => pure _

theorem readPodLogs (ns name container : Json) :
    C.Blind (Cluster.readPodLogs ns name container : Act τ σ Json) := ask _ _

theorem listOccurrences (ns : Json) :
    C.Blind (Cluster.listOccurrences ns : Act τ σ (List Cluster.Occurrence)) :=
  bind (ask _ _) fun _ => pure _

/-- **No operation on the cluster depends on the keys.** -/
theorem operation (op : Cluster.Operation) : C.Blind (op.run : Act τ σ Json) := by
  cases op with
  | isOpenshift => exact bind isOpenshift fun _ => pure _
  | createNamespace name => exact bind (createNamespace name) fun _ => pure _
  | getNamespace name => exact bind (ask _ _) fun _ => pure _
  | deleteNamespace name => exact bind (deleteNamespace name) fun _ => pure _
  | createConfigMap ns script =>
    exact bind (lift _) fun _ => bind (createConfigMap _ _) fun _ => pure _
  | getConfigMap ns name => exact bind (ask _ _) fun _ => pure _
  | create type ns body => exact createObject _ _ _
  | get type ns name => exact getObject _ _ _
  | list type ns => exact listObjects _ _
  | delete type ns name => exact bind (deleteObject _ _ _) fun _ => pure _
  | getIngress ns name => exact bind (ask _ _) fun _ => pure _
  | listPods ns selector => exact bind (listPods _ _) fun _ => pure _
  | readPodLogs ns name container => exact readPodLogs _ _ _
  | getJob ns name => exact bind (ask _ _) fun _ => pure _
  | listOccurrences ns => exact bind (listOccurrences _) fun _ => pure _

/-! ## Waiting for the cluster -/

/-- The waits of a trial log what they wait for, and then poll. -/
theorem waitForRayClusterState (ns name state : Json) (timeout : τ) :
    C.Blind (Trial.waitForRayClusterState ns name state timeout : Act τ σ Json) :=
  bind (log _ _) fun _ => waitForJson (getObject _ _ _)

theorem waitForRayJobTerminal (ns name : Json) (timeout : τ) :
    C.Blind (Trial.waitForRayJobTerminal ns name timeout : Act τ σ Json) :=
  bind (log _ _) fun _ => waitForJson (getObject _ _ _)

/-- The wrapper that is given is sought in the last list that was fetched. -/
theorem waitForAppWrapperPhase (ns phase : Json) (timeout : τ) :
    C.Blind (Trial.waitForAppWrapperPhase ns phase timeout : Act τ σ Json) := by
  apply bind (waitForJson (listObjects _ _))
  intro wrappers
  apply bind (lift _)
  intro found
  cases found with
  | some wrapper => exact pure _
  | none => exact fail _

theorem waitForRayClustersDeleted (ns : Json) (timeout : τ) :
    C.Blind (Trial.waitForRayClustersDeleted ns timeout : Act τ σ Unit) :=
  bind (log _ _) fun _ => bind (waitForJson (listObjects _ _)) fun _ => pure _

theorem waitForAppWrappersDeleted (ns : Json) (timeout : τ) :
    C.Blind (Trial.waitForAppWrappersDeleted ns timeout : Act τ σ Unit) :=
  bind (log _ _) fun _ => bind (waitForJson (listObjects _ _)) fun _ => pure _

/-- This wait is settled by a fault, which is the same in both runs. -/
theorem waitForRayClusterGone (ns name : Json) (timeout : τ) :
    C.Blind (Trial.waitForRayClusterGone ns name timeout : Act τ σ Unit) :=
  bind (log _ _) fun _ => bind (waitFor (getObject _ _ _)) fun _ => pure _

theorem waitForIngressAdmitted (ns name : Json) (timeout : τ) :
    C.Blind (Trial.waitForIngressAdmitted ns name timeout : Act τ σ (Option Cluster.Ingress)) :=
  bind (log _ _) fun _ => waitFor (ask _ _)

theorem waitForRouteAdmitted (ns name : Json) (timeout : τ) :
    C.Blind (Trial.waitForRouteAdmitted ns name timeout : Act τ σ Json) :=
  bind (log _ _) fun _ => waitForJson (getObject _ _ _)

/-- **No wait depends on the keys.** -/
theorem waiting (wait : Wait τ) : C.Blind (wait.run : Act τ σ Json) := by
  cases wait with
  | rayClusterState ns name state timeout => exact waitForRayClusterState _ _ _ _
  | rayJobTerminal ns name timeout => exact waitForRayJobTerminal _ _ _
  | appWrapperPhase ns phase timeout => exact waitForAppWrapperPhase _ _ _
  | rayClustersDeleted ns timeout => exact bind (waitForRayClustersDeleted _ _) fun _ => pure _
  | appWrappersDeleted ns timeout => exact bind (waitForAppWrappersDeleted _ _) fun _ => pure _
  | rayClusterGone ns name timeout => exact bind (waitForRayClusterGone _ _ _) fun _ => pure _
  | ingressAdmitted ns name timeout => exact bind (waitForIngressAdmitted _ _ _) fun _ => pure _
  | routeAdmitted ns name timeout => exact waitForRouteAdmitted _ _ _

/-! ## The way to a dashboard -/

/-- A probe carries no token, so that it is one request for both. -/
theorem probe (d : Dashboard) : C.Blind (d.probe : Act τ σ Int) := by
  refine bind (lift _) fun r => bind (request r) fun x => ?_
  cases x with
  | response status body => exact pure _
  | errorStatus code => exact pure _
  | failed f => exact fail f

/-- The host of a route that was admitted is probed until a dashboard is behind it. -/
theorem routeUrl (ns name : Json) : C.Blind (Trial.routeUrl ns name : Act τ σ String) := by
  refine bind (waitForRouteAdmitted _ _ _) fun route => bind (lift _) fun ingresses => ?_
  refine bind (lift _) fun first => bind (lift _) fun host => bind (log _ _) fun _ => ?_
  exact bind (waitFor (probe _)) fun _ => pure _

/-- The host of an ingress that was admitted is taken as it is. -/
theorem ingressUrl (ns name : Json) : C.Blind (Trial.ingressUrl ns name : Act τ σ String) := by
  apply bind (waitForIngressAdmitted _ _ _)
  intro ingress
  cases ingress with
  | some ingress => exact bind (lift _) fun _ => pure _
  | none => exact fail _

/-- Whether a route leads to the dashboard, or an ingress, shows in the groups of the cluster. -/
theorem dashboardUrl (ns rayCluster : Json) :
    C.Blind (Trial.dashboardUrl ns rayCluster : Act τ σ String) := by
  refine bind (lift _) fun name => bind isOpenshift fun openshift => ?_
  have logged : ∀ url, C.Blind (do
      Act.log .info s!"Ray-dashboard route : {url}"
      Pure.pure url : Act τ σ String) := fun url => bind (log _ _) fun _ => pure _
  cases openshift with
  | true => exact bind (routeUrl ns name) logged
  | false => exact bind (ingressUrl ns name) logged

/-! ## Diagnostics -/

omit [Timescale τ] in
/-- That a trial has failed is noted beside its client. -/
theorem setFailed (failed : Bool) : C.Blind (Trial.setFailed failed : Act τ σ Unit) :=
  note (fun _ _ => rfl) fun _ => id

omit [Timescale τ] in
/-- An ordinary fault is logged with the name of the trial. -/
theorem warning {a : Act τ σ Unit} (beginning : String) (h : C.Blind a) :
    C.Blind (a.rescue fun f => do
      Act.log .warning s!"{beginning}{(← Act.trial).name} failed: {f.text}") :=
  rescue h fun _ => trial_bind (fun _ => log _ _) fun _ _ => rfl

/-- A failure to read a log is passed over in both runs or in neither. -/
theorem storeContainerLog (ns pod container : Json) :
    C.Blind (Trial.storeContainerLog ns pod container : Act τ σ Unit) := by
  apply attempt_bind (readPodLogs _ _ _)
  intro r
  cases r with
  | ok logs => exact bind (writeOutput _ _) fun _ => pure _
  | error f => exact ite (log _ _) (fail f)

/-- The logs of all containers are stored one by one, and then the occurrences. -/
theorem storeDiagnostics (ns : Json) : C.Blind (Trial.storeDiagnostics ns : Act τ σ Unit) := by
  refine bind (listPods _ _) fun pods => bind ?_ fun _ => ?_
  · exact forEach fun pod _ => forEach fun _ _ => storeContainerLog _ _ _
  · exact bind (listOccurrences _) fun _ => bind (writeOutput _ _) fun _ => pure _

/-- Whether a job is looked at depends on whether the trial has failed. -/
theorem troubleshootJob (job : Cluster.Job) :
    C.Blind (Trial.troubleshootJob job : Act τ σ Unit) := by
  refine trial_bind (fun t => ite ?_ (pure _)) fun _ _ => rfl
  refine bind (ask _ _) fun job => bind (log _ _) fun _ => bind (lift _) fun selector => ?_
  refine bind (listPods _ _) fun pods => ite (log _ _) (forEach fun pod _ => ?_)
  exact bind (log _ _) fun _ => bind (readPodLogs _ _ _) fun _ => log _ _

/-- Whether a Ray cluster is looked at depends on whether the trial has failed. -/
theorem troubleshootRayCluster (ns name : Json) :
    C.Blind (Trial.troubleshootRayCluster ns name : Act τ σ Unit) := by
  refine trial_bind (fun t => ite ?_ (pure _)) fun _ _ => rfl
  refine bind (getObject _ _ _) fun rayCluster => bind (lift _) fun state => ?_
  refine bind (lift _) fun status => bind (log _ _) fun _ => bind (listPods _ _) fun pods => ?_
  refine ite (log _ _) (forEach fun pod _ => forEach fun container _ => ?_)
  exact bind (log _ _) fun _ => bind (readPodLogs _ _ _) fun _ => log _ _

/-- The namespace is looked at before it is deleted if the trial has failed. -/
theorem deleteTestNamespace (name : Json) :
    C.Blind (Trial.deleteTestNamespace name : Act τ σ Unit) := by
  have deleted := deleteNamespace (C := C) name
  refine trial_bind (fun t => ite (bind ?_ fun _ => deleted) deleted) fun _ _ => rfl
  exact rescue (storeDiagnostics name) fun _ => log _ _

/-! ## Creating -/

omit [Timescale τ] in
/-- A step may be put off that does not ask for the token when its turn comes. -/
theorem defer {step : Step τ} (discreet : step.IsDiscreet) :
    C.Blind (Trial.defer step : Act τ σ Unit) :=
  note (fun _ _ => rfl) fun _ others => ⟨discreet, others⟩

/-- The deletion that is put off is that of the namespace that was served. -/
theorem newTestNamespace (name : Json) :
    C.Blind (Trial.newTestNamespace name : Act τ σ Cluster.Namespace) :=
  bind (createNamespace name) fun _ => bind (log _ _) fun _ => bind (defer trivial) fun _ => pure _

/-- An object of any type is created with a log record. -/
theorem createNamed (type : ResourceType) (ns body : Json) (text : Json → String) :
    C.Blind (do
      let made ← Cluster.createObject type ns body
      let name ← liftM (Workload.name made)
      Act.log .info (text name)
      Pure.pure made : Act τ σ Json) :=
  bind (createObject _ _ _) fun _ => bind (lift _) fun _ => bind (log _ _) fun _ => pure _

/-- Queues and flavors are created from what is given, with a log record each. -/
theorem createResourceFlavor (spec : Json) :
    C.Blind (Trial.createResourceFlavor spec : Act τ σ Json) := createNamed _ _ _ _

theorem createClusterQueue (spec : Json) :
    C.Blind (Trial.createClusterQueue spec : Act τ σ Json) := createNamed _ _ _ _

/-- The quotas of a cluster queue depend on the accelerator. -/
theorem createQuotaQueue (flavor : Json) (a : Accelerator) :
    C.Blind (Trial.createQuotaQueue flavor a : Act τ σ Json) :=
  bind (lift _) fun _ => createClusterQueue _

theorem createLocalQueue (ns clusterQueue : Json) (asDefault : Bool) :
    C.Blind (Trial.createLocalQueue ns clusterQueue asDefault : Act τ σ Json) :=
  createNamed _ _ _ _

end Comparison.Blind

end TrialRun
