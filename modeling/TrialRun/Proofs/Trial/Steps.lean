import TrialRun.Proofs.Trial.Parts

/-!
# What steps may change

Most steps are done on their own: they put nothing off, do nothing that was put off, and have no
other steps in them (`Step.IsAlone`).  Such a step moves along every relation that is *tolerant*:
one that allows every event, and every note of the trial but those of its failure and of what was
put off.  If the step deletes no namespace, then the relation need not allow that either; it may be
*sparing* (`Sparing.exec_alone`).

A relation that allows those as well is *lenient*.  Every step moves along it, whatever is put off
in it or in the trial, and whatever the bound is; so does the end of a trial.  The growth of the
record is such a relation: nothing that a trial does takes back what has happened.
-/

set_option autoImplicit false

namespace TrialRun

variable {τ σ α : Type} {R : World τ σ → World τ σ → Prop}

/-- A step that puts nothing off, does nothing that was put off, and has no other steps in it. -/
def Step.IsAlone : Step τ → Prop
  | .newTestNamespace _ | .defer _ | .cleanup | .onFailure _ _ => False
  | _ => True

/-- The namespace that a step on its own deletes. -/
def Step.deletedNamespace? : Step τ → Option Json
  | .cluster (.deleteNamespace name) | .deleteTestNamespace name => some name
  | _ => none

/-- A relation that allows every event but the deletion of a namespace, and every note but those of
what was put off and of what the trial says of its own failure. -/
structure Sparing (R : World τ σ → World τ σ → Prop) : Prop extends Everyday R where
  failed : ∀ w, R w (w.noted fun t => { t with failed := true })
  events : ∀ e, (∀ name, e.deletes? ≠ some (.ofNamespace name)) → Allows R e
  name : ∀ w s, R w (w.noted fun t => { t with name := s })
  pollingInterval : ∀ w interval, R w (w.noted fun t => { t with pollingInterval := interval })
  dashboard : ∀ w d, R w (w.noted fun t => { t with dashboard := d })

/-- A relation that allows every event, and every note but those of what was put off and of what the
trial says of its own failure. -/
structure Tolerant (R : World τ σ → World τ σ → Prop) : Prop extends Everyday R where
  failed : ∀ w, R w (w.noted fun t => { t with failed := true })
  events : ∀ e, Allows R e
  name : ∀ w s, R w (w.noted fun t => { t with name := s })
  pollingInterval : ∀ w interval, R w (w.noted fun t => { t with pollingInterval := interval })
  dashboard : ∀ w d, R w (w.noted fun t => { t with dashboard := d })

/-- A relation that allows every event and every note. -/
structure Lenient (R : World τ σ → World τ σ → Prop) : Prop extends Tolerant R where
  setFailed : ∀ w failed, R w (w.noted fun t => { t with failed := failed })
  pending : ∀ w steps, R w (w.noted fun t => { t with pending := steps })

/-- Nothing that a trial does takes back what has happened. -/
theorem lenient_grown : Lenient (World.Grown (τ := τ) (σ := σ)) where
  toEveryday := everyday_grown
  failed w := everyday_grown.refl w
  events _ := World.Grows.of_recorded trivial
  name w _ := everyday_grown.refl w
  pollingInterval w _ := everyday_grown.refl w
  dashboard w _ := everyday_grown.refl w
  setFailed w _ := everyday_grown.refl w
  pending w _ := everyday_grown.refl w

/-- What keeps all that is put off may do everything else. -/
theorem tolerant_keepsPending :
    Tolerant fun w w' : World τ σ => w'.trial.pending = w.trial.pending where
  refl _ := rfl
  trans first second := second.trans first
  clock _ _ := rfl
  outside _ _ := rfl
  passing _ _ _ := rfl
  volume _ _ _ := rfl
  directory _ _ _ := rfl
  wrote _ _ _ := rfl
  failed _ := rfl
  events _ _ := rfl
  name _ _ := rfl
  pollingInterval _ _ := rfl
  dashboard _ _ := rfl

/-- What allows every event allows those that spare namespaces. -/
theorem Tolerant.sparing (h : Tolerant R) : Sparing R where
  toEveryday := h.toEveryday
  failed := h.failed
  events e _ := h.events e
  name := h.name
  pollingInterval := h.pollingInterval
  dashboard := h.dashboard

/-! ## Taking what was put off -/

namespace Trial

variable {site : Site τ σ} {w : World τ σ}

/-- There is nothing to take if nothing was put off. -/
theorem run_takeLast_nil (nothing : w.trial.pending = []) :
    (takeLast : Act τ σ (Option (Step τ))).run site w = (.ok none, w) := by
  rw [takeLast, Act.run_bind_of_ok _ (Act.run_trial site w), nothing]
  rfl

/-- What was put off last is taken first, and is put off no longer. -/
theorem run_takeLast_cons {step : Step τ} {rest : List (Step τ)}
    (last : w.trial.pending = step :: rest) :
    (takeLast : Act τ σ (Option (Step τ))).run site w =
      (.ok (some step), w.noted fun own => { own with pending := rest }) := by
  rw [takeLast, Act.run_bind_of_ok _ (Act.run_trial site w), last]
  rfl

end Trial

/-! ## Results -/

namespace Everyday

variable (h : Everyday R)

include h

/-- A step without a result does what its act does. -/
theorem noResult {act : Act τ σ Unit} (moved : act.Moves R) : (Step.noResult act).Moves R :=
  h.bind moved fun _ => h.pure _

/-- A step that gives a path does what its act does. -/
theorem pathResult {act : Act τ σ Path} (moved : act.Moves R) : (Step.pathResult act).Moves R :=
  h.bind moved fun _ => h.pure _

/-- A file is written under a text, and nothing is written under anything else. -/
theorem writeNamed (fileName contents : Json) :
    (Trial.writeNamed fileName contents : Act τ σ Path).Moves R := by
  cases fileName with
  | text s => exact h.writeOutput _ _
  | _ => exact h.bind h.outputPath fun _ => h.fail _

end Everyday

/-! ## Steps on their own -/

namespace Sparing

variable (h : Sparing R)

include h

/-- A call that deletes no namespace is allowed with any outcome. -/
theorem calls {f : Cluster.Form} {c : Cluster.Call f} {o : Outcome f.Carrier}
    (spares : ∀ name, c.deletes? ≠ some (.ofNamespace name)) : Allows R (.called c o) :=
  h.events _ spares

/-- Every request is allowed, as it deletes nothing. -/
theorem requests {r : Dashboard.Request} {x : Exchange} : Allows R (.requested r x) :=
  h.events _ fun _ => nofun

/-- A sparing relation is observant: no reading deletes a namespace. -/
theorem observant : Observant R where
  toEveryday := h.toEveryday
  glances _ _ _ kept _ := h.calls fun _ deletes => nomatch kept.symm.trans deletes
  probes _ _ _ _ := h.requests
  inspects _ _ _ kept _ := h.calls fun _ deletes => nomatch kept.symm.trans deletes
  failed := h.failed

/-- The client of a dashboard is kept in mind. -/
theorem connected {act : Act τ σ Dashboard} (moved : act.Moves R) :
    (Step.connected act).Moves R := by
  refine h.bind moved fun d => h.bind (fun _ w => ?_) fun _ => h.pure _
  exact h.dashboard w (some d)

variable [Timescale τ]

/-- To create a namespace deletes none. -/
theorem createNamespace (name : Json) :
    (Cluster.createNamespace name : Act τ σ Cluster.Namespace).Moves R :=
  h.toEveryday.createNamespace name fun _ => h.calls fun _ => nofun

/-- An operation on the cluster deletes a namespace only if that is what it is for. -/
theorem operation (op : Cluster.Operation)
    (deletes : ∀ name, op = .deleteNamespace name →
      ∀ o, Allows R (.called (.deleteNamespace name) o)) : (op.run : Act τ σ Json).Moves R := by
  have look := h.observant
  cases op with
  | isOpenshift => exact h.bind look.isOpenshift fun _ => h.pure _
  | createNamespace name => exact h.bind (h.createNamespace name) fun _ => h.pure _
  | getNamespace name => exact h.bind (look.ask _ _ rfl rfl) fun _ => h.pure _
  | deleteNamespace name =>
    exact h.bind (h.deleteNamespace _ (deletes name rfl)) fun _ => h.pure _
  | createConfigMap ns script =>
    apply h.bind (h.lift _)
    intro configMap
    exact h.bind (h.createConfigMap _ _ fun _ => h.calls fun _ => nofun) fun _ => h.pure _
  | getConfigMap ns name => exact h.bind (look.ask _ _ rfl rfl) fun _ => h.pure _
  | create type ns body => exact h.createObject _ _ _ fun _ => h.calls fun _ => nofun
  | get type ns name => exact look.getObject _ _ _
  | list type ns => exact look.listObjects _ _
  | delete type ns name =>
    exact h.bind (h.deleteObject _ _ _ fun _ => h.calls fun _ => nofun) fun _ => h.pure _
  | getIngress ns name => exact h.bind (look.getIngress _ _) fun _ => h.pure _
  | listPods ns selector => exact h.bind (look.listPods _ _) fun _ => h.pure _
  | readPodLogs ns name container => exact look.readPodLogs _ _ _
  | getJob ns name => exact h.bind (look.ask _ _ rfl rfl) fun _ => h.pure _
  | listOccurrences ns => exact h.bind (look.listOccurrences _) fun _ => h.pure _

/-- A query is a request, or a fault if there is no client. -/
theorem query (q : Query) (d : Option Dashboard) : (q.run d : Act τ σ Json).Moves R := by
  cases d with
  | none => exact h.fail _
  | some d => exact h.toCalm.query d (fun _ _ _ _ => h.requests) q

/-- To wait is to look at the cluster again and again. -/
theorem waiting (wait : Wait τ) : (wait.run : Act τ σ Json).Moves R := by
  have look := h.observant
  cases wait with
  | rayClusterState ns name state timeout => exact look.waitForRayClusterState _ _ _ _
  | rayJobTerminal ns name timeout => exact look.waitForRayJobTerminal _ _ _
  | appWrapperPhase ns phase timeout => exact look.waitForAppWrapperPhase _ _ _
  | rayClustersDeleted ns timeout =>
    exact h.bind (look.waitForRayClustersDeleted _ _) fun _ => h.pure _
  | appWrappersDeleted ns timeout =>
    exact h.bind (look.waitForAppWrappersDeleted _ _) fun _ => h.pure _
  | rayClusterGone ns name timeout =>
    exact h.bind (look.waitForRayClusterGone _ _ _) fun _ => h.pure _
  | ingressAdmitted ns name timeout =>
    exact h.bind (look.waitForIngressAdmitted _ _ _) fun _ => h.pure _
  | routeAdmitted ns name timeout => exact look.waitForRouteAdmitted _ _ _

/-- A namespace is looked at if the trial has failed, and then deleted. -/
theorem deleteTestNamespace (name : Json)
    (deletes : ∀ o, Allows R (.called (.deleteNamespace name) o)) :
    (Trial.deleteTestNamespace name : Act τ σ Unit).Moves R := by
  have deleted := h.deleteNamespace name deletes
  refine h.bind h.trial fun t => Calm.ite (h.bind ?_ fun _ => deleted) deleted
  exact h.rescue (h.observant.storeDiagnostics name) fun _ => h.log _ _

/-- A job is looked at with its pods. -/
theorem troubleshootJob (job : Cluster.Job) :
    (Trial.troubleshootJob job : Act τ σ Unit).Moves R := by
  have look := h.observant
  refine h.bind h.trial fun t => Calm.ite ?_ (h.pure _)
  refine h.bind (look.ask _ _ rfl rfl) fun job => h.bind (h.log _ _) fun _ => ?_
  refine h.bind (h.lift _) fun selector => h.bind (look.listPods _ _) fun pods => ?_
  refine Calm.ite (h.log _ _) (h.forEach (fun pod => h.bind (h.log _ _) fun _ => ?_) _)
  exact h.bind (look.readPodLogs _ _ _) fun _ => h.log _ _

/-- A step on its own moves along a sparing relation, if this one allows what the step says of the
failure of the trial, and the deletion of the namespace that the step deletes. -/
theorem exec_alone {step : Step τ} (alone : step.IsAlone)
    (sets : ∀ failed, step = .setFailed failed →
      ∀ w : World τ σ, R w (w.noted fun t => { t with failed := failed }))
    (deletes : ∀ name, step.deletedNamespace? = some name →
      ∀ o, Allows R (.called (.deleteNamespace name) o))
    (bound : Nat) : (step.exec (bound + 1) : Act τ σ Json).Moves R := by
  have created : ∀ {type ns body} (o : Outcome Json),
      Allows R (.called (.createObject type ns body) o) := fun _ => h.calls fun _ => nofun
  cases step with
  | mark v => exact h.noResult (Calm.record (h.events _ fun _ => nofun))
  | raise f => exact h.fail f
  | advance span => exact h.noResult (Calm.ite (h.pass _) (h.fail _))
  | setFailed failed => exact h.noResult fun _ w => sets failed rfl w
  | setName name => exact h.noResult fun _ w => h.name w name
  | setPollingInterval interval => exact h.noResult fun _ w => h.pollingInterval w interval
  | outputDirectory => exact h.pathResult h.outputPath
  | bearerToken => exact h.bind h.site fun _ => h.bind (h.lift _) fun _ => h.pure _
  | cluster op =>
    refine h.operation op fun name same => deletes name ?_
    subst same
    rfl
  | connect address token verified => exact h.connected (h.pure _)
  | connectAsTrial url => exact h.connected (h.observant.connect url)
  | query q => exact h.bind h.trial fun t => h.query q _
  | wait wait => exact h.waiting wait
  | newTestNamespace name => exact alone.elim
  | deleteTestNamespace name => exact h.noResult (h.deleteTestNamespace name (deletes name rfl))
  | createResourceFlavor spec => exact h.createResourceFlavor spec fun _ => created
  | createClusterQueue spec => exact h.createNamed _ _ _ _ created
  | createQuotaQueue flavor a => exact h.createQuotaQueue flavor a fun _ => created
  | createLocalQueue ns queue asDefault =>
    exact h.createLocalQueue ns queue asDefault fun _ => created
  | dashboardUrl ns name => exact h.bind (h.observant.dashboardUrl ns name) fun _ => h.pure _
  | writeJobLogs job =>
    refine h.bind h.trial fun t => h.pathResult (h.bind (h.log _ _) fun _ => ?_)
    exact h.bind (h.query _ _) fun _ => h.writeOutput _ _
  | writeOutput fileName contents => exact h.pathResult (h.writeNamed _ _)
  | troubleshootJob job => exact h.noResult (h.troubleshootJob job)
  | troubleshootRayCluster ns name => exact h.noResult (h.observant.troubleshootRayCluster _ _)
  | storeDiagnostics ns => exact h.noResult (h.observant.storeDiagnostics ns)
  | defer step => exact alone.elim
  | cleanup => exact alone.elim
  | onFailure body diagnostics => exact alone.elim

end Sparing

namespace Tolerant

variable [Timescale τ] (h : Tolerant R)

include h

theorem createNamespace (name : Json) :
    (Cluster.createNamespace name : Act τ σ Cluster.Namespace).Moves R :=
  h.sparing.createNamespace name

/-- A step on its own moves along a tolerant relation, if it does not say that the trial has failed
or that it has not. -/
theorem exec_alone {step : Step τ} (alone : step.IsAlone)
    (sets : ∀ failed, step = .setFailed failed →
      ∀ w : World τ σ, R w (w.noted fun t => { t with failed := failed }))
    (bound : Nat) : (step.exec (bound + 1) : Act τ σ Json).Moves R :=
  h.sparing.exec_alone alone sets (fun _ _ _ => h.events _) bound

end Tolerant

/-! ## All steps -/

namespace Lenient

variable (h : Lenient R)

include h

theorem observant : Observant R := h.toTolerant.sparing.observant

/-- What was put off last is taken away from the rest. -/
theorem takeLast : (Trial.takeLast : Act τ σ (Option (Step τ))).Moves R := by
  apply h.bind h.trial
  intro t
  cases t.pending with
  | nil => exact h.pure none
  | cons step rest => exact h.bind (fun _ w => h.pending w rest) fun _ => h.pure _

/-- Something may be put off. -/
theorem defer (step : Step τ) : (Trial.defer step : Act τ σ Unit).Moves R :=
  fun _ w => h.pending w (step :: w.trial.pending)

/-- What was put off is done until nothing is left, by induction on the bound. -/
theorem drain {exec : Step τ → Act τ σ Json} (steps : ∀ step, (exec step).Moves R) (bound : Nat) :
    (Trial.drain exec bound).Moves R := by
  induction bound with
  | zero => exact h.pure ()
  | succ bound ih =>
    apply h.bind h.takeLast
    intro last
    cases last with
    | none => exact h.pure ()
    | some step =>
      refine h.bind (h.rescue (h.bind (steps step) fun _ => h.pure _) fun f => ?_) fun _ => ih
      exact h.bind h.trial fun _ => h.log _ _

/-- Steps in a row, by induction on their list. -/
theorem sequence {exec : Step τ → Act τ σ Json} (moved : ∀ step, (exec step).Moves R)
    (steps : List (Step τ)) : (Trial.sequence exec steps).Moves R := by
  induction steps with
  | nil => exact h.pure []
  | cons step rest ih => exact h.bind (moved step) fun _ => h.bind ih fun _ => h.pure _

variable [Timescale τ]

/-- A namespace is created, and its deletion is put off. -/
theorem newTestNamespace (name : Json) :
    (Trial.newTestNamespace name : Act τ σ Cluster.Namespace).Moves R := by
  refine h.bind (h.createNamespace name) fun made => h.bind (h.log _ _) fun _ => ?_
  exact h.bind (h.defer _) fun _ => h.pure _

/-- Every step moves along a lenient relation, however deep it leads. -/
theorem exec (bound : Nat) (step : Step τ) : (step.exec bound : Act τ σ Json).Moves R := by
  -- on the bound, not on the step: cleaning up leads to steps that are no part of this one
  induction bound generalizing step with
  | zero => exact h.pure _
  | succ bound ih =>
    cases step with
    | newTestNamespace name => exact h.bind (h.newTestNamespace name) fun _ => h.pure _
    | defer step => exact h.noResult (h.defer step)
    | cleanup => exact h.noResult (h.drain ih bound)
    | onFailure body diagnostics =>
      have looks : ∀ diagnostic ∈ diagnostics.map fun step => (do let _ ← step.exec bound),
          (diagnostic : Act τ σ Unit).Moves R := by
        intro diagnostic member
        obtain ⟨step, -, rfl⟩ := List.mem_map.mp member
        exact h.bind (ih step) fun _ => h.pure _
      exact h.bind (h.observant.onFailure looks (h.sequence ih body)) fun _ => h.pure _
    | _ =>
      refine h.exec_alone ?_ (fun failed _ w => h.setFailed w failed) bound
      exact trivial

/-- All that was put off is done. -/
theorem cleanup : (Trial.cleanup : Act τ σ Unit).Moves R := by
  refine h.bind (h.bind h.trial fun t => ?_) fun _ => h.pure _
  exact h.exec _ _

/-- The end of a trial notes that it has failed, says where its output is, and cleans up. -/
theorem conclude (report : Option Report) : (Trial.conclude report : Act τ σ Unit).Moves R := by
  refine Calm.ite (h.bind h.observant.setFailed fun _ => ?_) h.cleanup
  refine h.bind h.outputPath fun directory => h.bind h.trial fun t => ?_
  exact h.bind (h.log _ _) fun _ => h.cleanup

end Lenient

end TrialRun
