import TrialRun.Proofs.Scenario.Order
import TrialRun.Proofs.Scenario.Plan
import TrialRun.Proofs.Scenario.Release

/-!
# What a scenario leaves behind

A scenario that was tried to its end has deleted all that it created for the whole cluster, each
thing once and by its own name, and the last first; it has deleted nothing that it did not create,
has made each of its creations at most once, and has nothing left to do.  This holds wherever the
body of the scenario has stopped, whatever it is reported as, and whatever goes wrong with the
diagnostics and the other deletions.
-/

set_option autoImplicit false

namespace TrialRun

variable {τ σ : Type}

/-! ## The order of what is deleted -/

/-- What was created was asked for, so that its kinds are among those asked for, in their order. -/
theorem kinds_wideCreated_sublist (record : List (Event τ)) :
    ((wideCreated record).map Target.kind).Sublist ((kindsAsked record).filter Kind.isWide) := by
  induction record with
  | nil => exact List.Sublist.slnil
  | cons e earlier ih =>
    rw [← List.singleton_append, wideCreated_append, kindsAsked_append, List.map_append,
      List.filter_append]
    refine List.Sublist.append ?_ ih
    cases created : e.created? with
    | none =>
      have nothing : wideCreated [e] = [] := by
        simp [wideCreated, created]
      rw [nothing]
      exact List.nil_sublist _
    | some t =>
      have asked := Event.creates?_of_created? created
      have one : kindsAsked [e] = [t.kind] := by simp [kindsAsked, asked]
      rw [one]
      by_cases wide : t.kind.isWide = true
      · simp [wideCreated, created, wide]
      · simp [wideCreated, created, wide]

namespace Scenario

/-- What a scenario creates for the whole cluster, by its kinds; the last first. -/
def widePlan : List Kind := [.object .clusterQueue, .object .resourceFlavor, .namespace]

/-- All scenarios create the same kinds of objects for the whole cluster. -/
theorem plan_filter_isWide (s : Scenario) : s.plan.filter Kind.isWide = widePlan := by
  cases s <;> rfl

end Scenario

/-! ## The end of a trial -/

/-- To undo an object is a single step. -/
theorem sizes_undo (ts : List Target) :
    Step.sizes (ts.map (Target.undo : Target → Step τ)) = ts.length := by
  induction ts with
  | nil => rfl
  | cons t rest ih =>
    have one : (t.undo : Step τ).size = 1 := by
      obtain ⟨kind, ns, name⟩ := t
      cases kind <;> rfl
    rw [List.map_cons, Step.sizes, one, ih, List.length_cons]
    omega

section End

variable [Timescale τ] {site : Site τ σ} {kinds : List Kind} {made : List Target}

/-- Cleaning up releases all that was made, in reverse order, unless the record is spoiled. -/
theorem cleanup_releases (disk : site.HasPlainDisk) :
    (Trial.cleanup : Act τ σ Unit).Ensures site (Releasing kinds made [] made)
      (fun _ => Releasing kinds made made.reverse []) fun _ w => Spoiled w.record := by
  have step : ∀ {own : Trial τ}, own.pending = made.map Target.undo →
      ((Step.cleanup : Step τ).exec ((Step.cleanup : Step τ).size + Step.sizes own.pending) :
        Act τ σ Json).Ensures site (Releasing kinds made [] made)
        (fun _ => Releasing kinds made made.reverse []) fun _ w => Spoiled w.record := by
    intro own pending
    have bound : (Step.cleanup : Step τ).size + Step.sizes own.pending = made.length + 1 := by
      rw [pending, sizes_undo]
      exact Nat.add_comm 1 made.length
    rw [bound]
    -- the bound leaves room for a step below it, as soon as there is one
    have deep : ∀ {t : Target}, t ∈ made → ∃ n, made.length = n + 1 := fun member =>
      ⟨made.length - 1, by have := List.length_pos_of_mem member; omega⟩
    refine Act.Ensures.bind (drain_releases (fun t member => ?_) (fun t member => ?_) rfl)
      fun _ => Act.Ensures.pure fun _ => id
    · obtain ⟨n, length⟩ := deep member
      rw [length]
      exact .undo n t
    · obtain ⟨n, length⟩ := deep member
      rw [length]
      exact .undo disk n t
  refine Act.Ensures.bind ?_ fun _ => Act.Ensures.pure fun _ => id
  refine Act.Ensures.bind (Act.Ensures.trial
    (Q := fun own w => own.pending = made.map Target.undo ∧ Releasing kinds made [] made w)
    fun w releasing => ⟨releasing.pending, releasing⟩) fun own => ?_
  exact Act.Ensures.given step

/-- The directory for output can be made, in a trial that has failed. -/
def Trial.HasOutput (site : Site τ σ) (w : World τ σ) : Prop :=
  ∃ p, (Trial.outputPath.run site (w.noted fun t => { t with failed := true })).1 = .ok p

/-- So does the end of a trial, if the directory that a failed one names can be made. -/
theorem conclude_releases (disk : site.HasPlainDisk) (report : Option Report) :
    (Trial.conclude report : Act τ σ Unit).Ensures site
      (fun w => Releasing kinds made [] made w ∧
        (report = some .failed → Trial.HasOutput site w))
      (fun _ => Releasing kinds made made.reverse []) fun _ w => Spoiled w.record := by
  have h := observant_silent (τ := τ) (σ := σ)
  have cleaned : (Trial.cleanup : Act τ σ Unit).Ensures site (Releasing kinds made [] made)
      (fun _ => Releasing kinds made made.reverse []) fun _ w => Spoiled w.record :=
    cleanup_releases disk
  refine Act.Ensures.ite (fun failed => ?_) fun _ => cleaned.mono (fun _ => And.left)
    (fun _ _ => id) fun _ _ => id
  -- that the directory can be made is known of one world only, so no rule tells of it
  have output : (Trial.outputPath : Act τ σ Path).Ensures site
      (fun w => Releasing kinds made [] made w ∧ ∃ p, (Trial.outputPath.run site w).1 = .ok p)
      (fun _ => Releasing kinds made [] made) fun _ w => Spoiled w.record := by
    refine ⟨fun w ⟨releasing, p, made⟩ => ?_⟩
    have after := releasing.idles (h.outputPath site w)
    revert made after
    rcases Trial.outputPath.run site w with ⟨f | p, w'⟩ <;> intro made after
    · cases made
    · exact after
  refine Act.Ensures.bind (Act.Ensures.note (Q := fun _ w => Releasing kinds made [] made w ∧
    ∃ p, (Trial.outputPath.run site w).1 = .ok p) fun w ⟨releasing, able⟩ => ?_) fun _ => ?_
  · exact ⟨releasing.idles (h.failed w), able failed⟩
  · apply Act.Ensures.bind output
    intro directory
    refine Act.Ensures.bind (Act.Ensures.trial (Q := fun _ => Releasing kinds made [] made)
      fun _ => id) fun own => ?_
    refine Act.Ensures.bind (Act.Ensures.log (Q := fun _ => Releasing kinds made [] made)
      fun w releasing => ?_) fun _ => cleaned
    exact releasing.idles (h.recorded w (.log _ _) trivial)

end End

/-! ## Whole trials -/

/-- A world in which nothing has happened and nothing was put off. -/
def World.fresh (w : World τ σ) : World τ σ :=
  { w with record := [], trial := { w.trial with pending := [] } }

/-- What has spoiled the record stays in it. -/
theorem Spoiled.grown {w w' : World τ σ} (h : Spoiled w.record) (grown : w.Grown w') :
    Spoiled w'.record := by
  obtain ⟨es, record, -⟩ := grown
  rw [record]
  exact h.append es

namespace Scenario

variable (s : Scenario)

/-- What is deleted in taking down was created in bringing up. -/
theorem exists_created_of_used {ns name : Json} {t : Training} {record : List (Event τ)}
    (h : Passed (s.used ns name t) record) :
    ∃ e ∈ record, e.created? = some ⟨.object s.resource, ns, name⟩ := by
  cases s with
  | queuedCluster a =>
    have member : Event.Creates ⟨.object .rayCluster, ns, name⟩ ∈
        ((queuedCluster a).used ns name t : List (Event τ → Prop)) :=
      List.mem_append_right _ (List.mem_cons_of_mem _ List.mem_cons_self)
    exact h.exists_mem member
  | wrappedCluster a =>
    have member : Event.CreatesWrapper ns name ∈
        ((wrappedCluster a).used ns name t : List (Event τ → Prop)) :=
      List.mem_append_right _ (List.mem_cons_of_mem _ (List.mem_cons_of_mem _ List.mem_cons_self))
    obtain ⟨e, there, created, -⟩ := h.exists_mem member
    exact ⟨e, there, created⟩
  | pullSecret =>
    have member : Event.Creates ⟨.object .rayCluster, ns, name⟩ ∈
        (pullSecret.used ns name t : List (Event τ → Prop)) :=
      List.mem_cons_of_mem _ List.mem_cons_self
    exact h.exists_mem member

theorem Rule.deletesCreated {e : Event τ} {earlier : List (Event τ)} (h : s.Rule e earlier) :
    DeletesCreated e earlier := by
  intro t deletes
  obtain ⟨kind, training, passed⟩ := h.deletion t deletes
  obtain ⟨e', there, created⟩ := s.exists_created_of_used passed
  refine ⟨e', there, created.trans ?_⟩
  rw [← kind]

variable [Timescale τ]

/-- Wherever the body of a scenario has stopped, it is on its plan, and has deleted nothing but what
it created. -/
theorem run_stage (script : List UInt8) (site : Site τ σ) (start : World τ σ) :
    ∃ kinds, kinds <:+ s.plan ∧ Stage kinds ((s.run script).run site start.fresh).2 ∧
      Lawful DeletesCreated ((s.run script).run site start.fresh).2.record := by
  have planned := (s.run_asks script site []).ends start.fresh ⟨rfl, .inl ⟨rfl, rfl⟩⟩
  have advances : s.Advances site [] (s.run script : Act τ σ Unit) fun _ => s.Accomplished :=
    run_advances s script
  have ruled := advances.ends start.fresh ⟨trivial, .start []⟩
  revert planned ruled
  rcases (s.run script).run site start.fresh with ⟨f | v, w⟩ <;> intro planned ruled
  · obtain ⟨part, suffix, stage⟩ := planned
    rw [List.append_nil] at stage
    have lawful : Lawful s.Rule w.record := ruled
    exact ⟨part, suffix, stage, lawful.mono fun _ _ => Rule.deletesCreated s⟩
  · obtain ⟨ns, name, t, lawful, -⟩ := ruled
    have stage : Stage (s.plan ++ []) w := planned
    rw [List.append_nil] at stage
    exact ⟨s.plan, List.suffix_refl _, stage, lawful.mono fun _ _ => Rule.deletesCreated s⟩

/-- Tries a scenario to its end: its body, whatever comes of it, and then the end of the trial. -/
def toEnd (script : List UInt8) (report : Option Report) : Act τ σ Unit := do
  let _ ← (s.run script).attempt
  Trial.conclude report

/-- What is always true of a scenario that was tried to its end. -/
structure Settled (ended : Except Fault Unit × World τ σ) : Prop where
  /-- The end of the trial has no fault. -/
  fine : ended.1 = .ok ()
  /-- Nothing is left to be done. -/
  nothing : ended.2.trial.pending = []
  /-- Of each kind something was to be created once at most. -/
  once : (kindsAsked ended.2.record).Nodup
  /-- Nothing was deleted that was not created before. -/
  created : Lawful DeletesCreated ended.2.record
  /-- What was created for the whole cluster was deleted, each thing once and the last first. -/
  released : wideDeleted ended.2.record = (wideCreated ended.2.record).reverse
  /-- The cluster queue was deleted first, then the resource flavor, then the namespace. -/
  order : ((wideDeleted ended.2.record).map Target.kind).Sublist widePlan.reverse

/-- **No leak and no double write.**  At every site and from every fresh world, a scenario that was
tried to its end has left nothing behind, unless something was interrupted, a reply did not name
what was created, or the directory for output could not be made. -/
theorem run_settled (script : List UInt8) (report : Option Report) (site : Site τ σ)
    (start : World τ σ) (disk : site.HasPlainDisk)
    (output : report = some .failed →
      Trial.HasOutput site ((s.run script).run site start.fresh).2)
    (unspoiled : ¬Spoiled ((s.toEnd script report).run site start.fresh).2.record) :
    Settled ((s.toEnd script report).run site start.fresh) := by
  obtain ⟨kinds, suffix, stage, lawful⟩ := s.run_stage script site start
  have run : (s.toEnd script report).run site start.fresh =
      (Trial.conclude report : Act τ σ Unit).run site ((s.run script).run site start.fresh).2 := rfl
  rw [run] at unspoiled ⊢
  revert output unspoiled stage lawful
  generalize ((s.run script).run site start.fresh).2 = w
  intro output unspoiled stage lawful
  -- if the body had spoiled the record, it would still be spoiled at the end
  have booked : Booked w := by
    refine stage.booked.resolve_right fun spoiled => unspoiled ?_
    exact spoiled.grown (lenient_grown.conclude report site w)
  have before : Releasing kinds (wideCreated w.record) [] (wideCreated w.record) w :=
    ⟨stage.asked, rfl, booked.nothing, booked.pending, lawful⟩
  have ended := (conclude_releases disk report).ends w ⟨before, output⟩
  revert unspoiled ended
  rcases (Trial.conclude report : Act τ σ Unit).run site w with ⟨f | v, w'⟩ <;>
    intro unspoiled ended
  · exact absurd ended unspoiled
  · have released : wideDeleted w'.record = (wideCreated w'.record).reverse := by
      rw [ended.deleted, ended.created]
    refine ⟨rfl, ended.pending, ?_, ended.lawful, released, ?_⟩
    · rw [ended.asked]
      exact s.plan_nodup.sublist suffix.sublist
    · have sub := kinds_wideCreated_sublist w'.record
      rw [ended.asked] at sub
      rw [released, List.map_reverse, ← s.plan_filter_isWide]
      exact (sub.trans (suffix.sublist.filter _)).reverse

/-- A site that creates whatever it is to create, and refuses everything else. -/
def onlyCreating : Site Rat Unit where
  answer {f} c s := (⟨0, match f, c with
    | _, .createNamespace _ => .served ⟨{ name := .text "test-ns" }⟩
    | _, .createConfigMap _ configMap => .served configMap
    | _, .createObject _ _ _ => .served (.object [("metadata", .object [("name", .text "made")])])
    | _, _ => .refused (.plain .failure "refused")⟩, s)
  react _ s := (⟨0, .failed (.plain .failure "refused")⟩, s)
  obstacle _ s := (none, s)
  temporary _ := ⟨true, ["tmp"]⟩
  settings := { outputDir := some "/out" }
  apiKeys := .null

/-- A trial that looks too seldom to see anything. -/
def hastyStart : World Rat Unit where
  clock := 0
  outside := ()
  volume := {}
  trial := { name := "mnist", pollingInterval := 1000 }

/-- How a scenario ends there, reported as failed. -/
def hastyEnd : Except Fault Unit × World Rat Unit :=
  ((queuedCluster .cpu).toEnd [] (some .failed)).run onlyCreating hastyStart.fresh

/-- Three things are created there, and their deletions are asked for although all are refused. -/
theorem run_settled_hastyEnd :
    onlyCreating.HasPlainDisk ∧
      Trial.HasOutput onlyCreating
        (((queuedCluster .cpu).run []).run onlyCreating hastyStart.fresh).2 ∧
      ¬Spoiled hastyEnd.2.record ∧ (wideDeleted hastyEnd.2.record).length = 3 ∧
      Settled hastyEnd := by
  have disk : onlyCreating.HasPlainDisk := fun _ _ _ obstacle => by cases obstacle
  have output : Trial.HasOutput onlyCreating
      (((queuedCluster .cpu).run []).run onlyCreating hastyStart.fresh).2 := ⟨_, rfl⟩
  have unspoiled : ¬Spoiled hastyEnd.2.record := by decide +kernel
  have deleted : (wideDeleted hastyEnd.2.record).length = 3 := by decide +kernel
  have settled : Settled hastyEnd := by
    unfold hastyEnd at unspoiled ⊢
    exact run_settled (queuedCluster .cpu) [] (some .failed) onlyCreating hastyStart disk
      (fun _ => output) unspoiled
  exact ⟨disk, output, unspoiled, deleted, settled⟩

end Scenario

end TrialRun
