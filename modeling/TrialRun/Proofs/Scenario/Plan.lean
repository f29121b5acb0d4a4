import TrialRun.Proofs.Scenario.Booking

/-!
# The plan of a scenario

A scenario is to create things of certain kinds, one of each, and of no other ones
(`Scenario.plan`).  Whatever the outside answers, at each of its ends the kinds that it was to
create are those at the end of its plan, and the books are kept.
-/

set_option autoImplicit false

namespace TrialRun

variable {τ σ : Type}

namespace Trial

/-- The kinds of what admits the workloads of a namespace, the last first. -/
def queuePlan : List Kind := [.object .localQueue, .object .clusterQueue, .object .resourceFlavor]

/-- The kinds of what a scenario prepares, the last first. -/
def groundPlan : List Kind := [.configMap] ++ queuePlan ++ [.namespace]

end Trial

namespace Scenario

/-- The kinds of what a scenario brings up and submits, the last first. -/
def workPlan : Scenario → List Kind
  | .queuedCluster _ => [.object .rayJob, .object .rayCluster]
  | .wrappedCluster _ => [.object .rayJob, .object .appWrapper]
  | .pullSecret => [.object .rayCluster]

/-- The kinds of all that a scenario is to create, the last first. -/
def plan (s : Scenario) : List Kind := s.workPlan ++ Trial.groundPlan

/-- No scenario asks for anything twice. -/
theorem plan_nodup (s : Scenario) : s.plan.Nodup := by
  cases s with
  | queuedCluster a => exact (by decide : (queuedCluster .cpu).plan.Nodup)
  | wrappedCluster a => exact (by decide : (wrappedCluster .cpu).plan.Nodup)
  | pullSecret => decide

end Scenario

variable [Timescale τ]

namespace Act.Asks

/-- The queues are asked for in the order of the plan. -/
theorem setUpQueues (ns : Json) (a : Accelerator) : (Trial.setUpQueues ns a : Act τ σ Json).Asks
    Trial.queuePlan :=
  book (AsksWide.createResourceFlavor _) fun flavor _ =>
    book (AsksWide.createQuotaQueue flavor a) fun _ queueName => createLocalQueue ns queueName true

theorem prepare (name : Json) (a : Accelerator) (script : List UInt8) :
    (Trial.prepare name a script : Act τ σ Trial.Grounds).Asks Trial.groundPlan := by
  have h := observant_idles (τ := τ) (σ := σ)
  refine bind (newTestNamespace name) fun made => bind (setUpQueues _ a) fun queue => ?_
  exact idle_after (createScript _ script) fun _ => h.bind (h.lift _) fun _ => h.pure _

/-- A training asks for its job and for nothing else. -/
theorem train (ns : Json) (a : Accelerator) :
    (Trial.train ns a : Act τ σ Unit).Asks [.object .rayJob] := by
  have h := observant_idles (τ := τ) (σ := σ)
  have logs : ∀ (job : Json) (e : Event τ), e.AsksForLogs job →
      Allows (World.Idles (σ := σ) Event.IsNarrow) e := by
    intro job e asks
    cases e with
    | requested r x => exact World.Idles.of_recorded ⟨rfl, fun t deletes => by cases deletes⟩
    | _ => exact asks.elim
  refine idle_before h.site fun known => idle_after (createObject rfl _ _) fun made => ?_
  refine h.bind (h.lift _) fun rayJob => h.bind (h.log _ _) fun _ => ?_
  refine h.bind (h.dashboardUrl _ _) fun url => h.bind (h.log _ _) fun _ => ?_
  refine h.bind (h.connect _) fun dashboard => h.bind (h.watching ?_) fun reply => ?_
  · refine h.bind (h.waitForRayJobTerminal _ _ _) fun _ => h.bind (h.getObject _ _ _) fun _ => ?_
    exact h.bind (h.lift _) fun _ => h.pure _
  · apply h.bind (h.lift _)
    intro job
    exact h.bind (h.writeJobLogs dashboard job (logs job)) fun _ => h.pure _

end Act.Asks

/-- Deleting what belongs to a namespace leaves the books as they are. -/
theorem idle_deleteObject {type : ResourceType} (narrow : (Kind.object type).isWide = false)
    (ns name : Json) : (Cluster.deleteObject type ns name : Act τ σ Unit).Moves
      (World.Idles Event.IsNarrow) := by
  refine observant_idles.deleteObject _ _ _ fun o => World.Idles.of_recorded ⟨rfl, ?_⟩
  intro t deletes
  cases deletes
  exact narrow

namespace Scenario

open Act.Asks (bind prepare train createRayCluster createObject idle_after idle_before)

/-- A queued run creates what its plan says, in its order, or breaks off on the way. -/
theorem runQueued_asks (a : Accelerator) (script : List UInt8) :
    (runQueued Trial.troubleshootRayCluster a script : Act τ σ Unit).Asks
      (queuedCluster a).plan := by
  have h := observant_idles (τ := τ) (σ := σ)
  refine bind (prepare _ a script) fun grounds => idle_before h.site fun known => ?_
  change Act.Asks ([.object .rayJob] ++ [.object .rayCluster]) _
  refine bind (createRayCluster _ _) fun name => ?_
  apply idle_before (h.watching (h.waitUntilReady _ _))
  intro _
  refine idle_after (train _ a) fun _ => h.bind (h.log _ _) fun _ => ?_
  exact h.bind (idle_deleteObject rfl _ _) fun _ => h.waitForRayClustersDeleted _ _

theorem runWrapped_asks (a : Accelerator) (script : List UInt8) :
    (runWrapped Trial.troubleshootRayCluster a script : Act τ σ Unit).Asks
      (wrappedCluster a).plan := by
  have h := observant_idles (τ := τ) (σ := σ)
  refine bind (prepare _ a script) fun grounds => idle_before h.site fun known => ?_
  change Act.Asks ([.object .rayJob] ++ [.object .appWrapper]) _
  refine idle_before (h.lift _) fun body => bind (createObject rfl _ _) fun made => ?_
  refine idle_before (h.lift _) fun name => idle_before (h.log _ _) fun _ => ?_
  refine idle_before (h.lift _) fun rayCluster => idle_before (h.watching ?_) fun _ => ?_
  · refine h.bind (h.log _ _) fun _ => h.bind (h.waitForAppWrapperPhase _ _ _) fun _ => ?_
    exact h.bind (h.waitUntilReady _ _) fun _ => h.pure _
  · refine idle_after (train _ a) fun _ => h.bind (h.log _ _) fun _ => ?_
    exact h.bind (idle_deleteObject rfl _ _) fun _ => h.waitForAppWrappersDeleted _ _

theorem runPullSecret_asks (script : List UInt8) :
    (runPullSecret Trial.troubleshootRayCluster script : Act τ σ Unit).Asks pullSecret.plan := by
  have h := observant_idles (τ := τ) (σ := σ)
  refine bind (prepare _ _ script) fun grounds => idle_before h.site fun known => ?_
  apply idle_after (createRayCluster _ _)
  intro name
  refine h.bind (h.watching (h.waitUntilReady _ _)) fun _ => h.bind (h.lift _) fun _ => ?_
  exact h.bind (idle_deleteObject rfl _ _) fun _ => h.waitForRayClusterGone _ _ _

/-- **Every scenario creates by its plan.** -/
theorem run_asks (s : Scenario) (script : List UInt8) :
    (s.run script : Act τ σ Unit).Asks s.plan := by
  cases s with
  | queuedCluster a => exact runQueued_asks a script
  | wrappedCluster a => exact runWrapped_asks a script
  | pullSecret => exact runPullSecret_asks script

end Scenario

end TrialRun
