import TrialRun.Proofs.Trial.Deferral

/-!
# Test namespaces

The deletion of a test namespace is put off when it is made.  What is done then, whatever the server
says and whatever cannot be stored, is one call that deletes the namespace; the diagnostics of the
namespace come before that call if the trial has failed by then, and are left out if it has not
(`Trial.Deletion`).  Only a fault that nothing may deal with ends it before.

The story of what was put off tells which test namespaces there are (`Deferral.namespaces`), and
what is still put off tells which of them are to be deleted (`Account.namespaces`).
-/

set_option autoImplicit false

namespace TrialRun

variable {τ σ : Type}

/-! ## Deletions that are put off -/

/-- The namespace whose deletion is put off as such. -/
def Step.testNamespace? : Step τ → Option Json
  | .deleteTestNamespace name => some name
  | _ => none

/-- The test namespaces that were made according to a story: those whose deletion was put off; the
last first. -/
def Deferral.namespaces (story : List (Deferral τ)) : List Json :=
  (numbered story).filterMap fun p => p.2.testNamespace?

/-- The test namespaces whose deletion is put off; the last first. -/
def Account.namespaces (t : Account τ σ) : List Json :=
  t.pending.filterMap fun p => p.2.testNamespace?

/-- One step deletes the test namespace, and it is known by this. -/
theorem Step.eq_of_testNamespace? {step : Step τ} {name : Json}
    (which : step.testNamespace? = some name) : step = .deleteTestNamespace name := by
  cases step with
  | deleteTestNamespace other =>
    cases which
    rfl
  | _ => cases which

theorem Deferral.namespaces_putOff (step : Step τ) (story : List (Deferral τ)) :
    namespaces (.putOff step :: story) = step.testNamespace?.toList ++ namespaces story := by
  unfold namespaces
  rw [numbered]
  cases which : step.testNamespace? with
  | none => exact List.filterMap_cons_none which
  | some name => exact List.filterMap_cons_some which

/-- When a cleanup begins its next step, the namespace of that step is no longer waiting. -/
theorem Account.namespaces_of_cons {t : Account τ σ} {number : Nat} {step : Step τ}
    {rest : List (Nat × Step τ)} (last : t.pending = (number, step) :: rest) :
    t.namespaces = step.testNamespace?.toList ++ (t.begun number step rest).namespaces := by
  unfold namespaces
  rw [last]
  cases which : step.testNamespace? with
  | none => exact List.filterMap_cons_none which
  | some name => exact List.filterMap_cons_some which

theorem Account.namespaces_putOff (t : Account τ σ) (step : Step τ) :
    (t.putOff step).namespaces = step.testNamespace?.toList ++ t.namespaces :=
  namespaces_of_cons (t := t.putOff step) rfl

/-! ## The making of a test namespace -/

/-- On the way from one world to another, the server has said that a namespace was created. -/
def World.Makes (name : Json) (w w' : World τ σ) : Prop :=
  ∃ later e earlier, w'.record = later ++ e :: (earlier ++ w.record) ∧
    e.created? = some (.ofNamespace name)

/-- What is recorded later takes nothing from what was made. -/
theorem World.Makes.recorded {name : Json} {w w' : World τ σ} (h : w.Makes name w')
    (e : Event τ) : w.Makes name (w'.recorded e) := by
  obtain ⟨later, made, earlier, record, told⟩ := h
  exact ⟨e :: later, made, earlier, congrArg (e :: ·) record, told⟩

/-- A namespace that was created is one that the server says was. -/
theorem Cluster.makes_of_createNamespace [Timescale τ] {site : Site τ σ} {name : Json}
    {made : Namespace} {u w : World τ σ}
    (created : (createNamespace name).run site u = (.ok made, w)) :
    u.Makes made.metadata.name w := by
  obtain ⟨later, e, earlier, record, rfl⟩ :=
    Act.Marks.createNamespace name site u made w created
  exact ⟨later, _, earlier, record, rfl⟩

/-! ## The deletion of a test namespace -/

/-- The event only tells of something, or of the wait for an answer. -/
def Event.IsRemark : Event τ → Prop
  | .log _ _ | .awaited _ => True
  | _ => False

/-- The call reads something in a namespace that its diagnostics are made of. -/
def Cluster.Call.Diagnoses {f : Form} (name : Json) : Call f → Prop
  | .listPods ns _ | .readPodLog ns _ _ | .listOccurrences ns => ns = name
  | _ => False

/-- The event may be a part of storing the diagnostics of a namespace. -/
def Event.Diagnoses (name : Json) : Event τ → Prop
  | .called c _ => c.Diagnoses name
  | e => e.IsEveryday

theorem Event.Diagnoses.of_isEveryday {name : Json} {e : Event τ} (h : e.IsEveryday) :
    e.Diagnoses name := by
  cases e with
  | called c o => exact h.elim
  | _ => exact h

/-- Diagnostics delete nothing. -/
theorem Event.Diagnoses.deletes? {name : Json} {e : Event τ} (h : e.Diagnoses name) :
    e.deletes? = none := by
  cases e with
  | called c o =>
    cases c with
    | deleteNamespace _ | deleteObject _ _ _ => exact h.elim
    | _ => rfl
  | _ => rfl

theorem Event.IsRemark.deletes? {e : Event τ} (h : e.IsRemark) : e.deletes? = none := by
  cases e with
  | called c o => exact h.elim
  | _ => rfl

/-- Waiting for an outcome leaves remarks only. -/
theorem Outcome.isRemark_of_mem_waits {α : Type} {o : Outcome α} {e : Event τ} (h : e ∈ o.waits) :
    e.IsRemark := by
  cases o with
  | refused cause => cases h
  | _ =>
    obtain rfl := List.mem_singleton.mp h
    trivial

variable [Timescale τ]

namespace Trial

/-- The events are those of storing the diagnostics of a namespace, the first of which is the list
of its pods, and perhaps a remark that they could not be stored. -/
def Inspects (site : Site τ σ) (name : Json) (u : World τ σ) (looked : List (Event τ)) : Prop :=
  ∃ remarks stored first, looked = remarks ++ stored ∧ (∀ e ∈ remarks, Event.IsRemark e) ∧
    ((storeDiagnostics name).run site u).2.record = stored ++ u.record ∧
    stored.getLast? = some (.called (.listPods name .null) first) ∧
    ∀ e ∈ stored, Event.Diagnoses name e

/-- What happens if a test namespace is deleted in a world, from the last event to the first one:
something is remarked, the namespace is deleted, and before that its diagnostics are stored if the
trial has failed, and nothing is looked at if it has not. -/
structure Deletion (site : Site τ σ) (name : Json) (u : World τ σ) (remarks : List (Event τ))
    (outcome : Outcome Json) (looked : List (Event τ)) : Prop where
  record : ((deleteTestNamespace name).run site u).2.record =
    remarks ++ .called (.deleteNamespace name) outcome :: (looked ++ u.record)
  remarks : ∀ e ∈ remarks, Event.IsRemark e
  failed : u.trial.failed = true → Inspects site name u looked
  passed : u.trial.failed = false → looked = []

variable (site : Site τ σ) (name : Json) (u : World τ σ)

/-- To store diagnostics begins with the list of all pods of the namespace, and whatever comes of
it, all that follows is a part of the diagnostics. -/
theorem exists_stored : ∃ stored first,
    ((storeDiagnostics name).run site u).2.record = stored ++ u.record ∧
      stored.getLast? = some (.called (.listPods name .null) first) ∧
      ∀ e ∈ stored, Event.Diagnoses name e := by
  have everyday : Everyday (World.Grows (τ := τ) (σ := σ) (Event.Diagnoses name)) :=
    everyday_grows fun _ => Event.Diagnoses.of_isEveryday
  -- the list of pods is taken apart from what follows it, since it has to be the first event
  obtain ⟨next, same, moved⟩ := Everyday.exists_storeDiagnostics_eq (τ := τ) (σ := σ) name
  have behind := moved everyday (fun _ _ _ => World.Grows.of_recorded rfl)
    fun _ => World.Grows.of_recorded rfl
  let c : Cluster.Call .pods := .listPods name .null
  let first := (site.answer c u.outside).1.outcome
  let asked : List (Event τ) := first.waits ++ [.called c first]
  have asking : ∀ e ∈ asked, Event.Diagnoses name e := by
    intro e member
    rcases List.mem_append.mp member with waits | called
    · exact .of_isEveryday (Outcome.isEveryday_of_mem_waits waits)
    · obtain rfl := List.mem_singleton.mp called
      exact rfl
  have listed : ((Cluster.listPods name).run site u).2.record = asked ++ u.record := by
    rw [Cluster.listPods, Act.run_bind_of_returns fun _ _ => rfl, Cluster.run_ask_eq]
    exact List.append_cons _ _ _
  rw [same, Act.run_bind]
  rcases ran : (Cluster.listPods name).run site u with ⟨f | pods, w⟩
  · rw [ran] at listed
    exact ⟨asked, first, listed, List.getLast?_concat, asking⟩
  · rw [ran] at listed
    obtain ⟨es, grown, looks⟩ := behind pods site w
    refine ⟨es ++ asked, first, ?_, ?_, ?_⟩
    · change ((next pods).run site w).2.record = _
      rw [grown, List.append_assoc]
      exact congrArg (es ++ ·) listed
    · rw [← List.append_assoc]
      exact List.getLast?_concat
    · exact fun e member => (List.mem_append.mp member).elim (looks e) (asking e)

/-- Deleting a namespace makes one call, whatever comes of it; behind it there are only remarks. -/
theorem exists_deleted : ∃ remarks outcome,
    ((Cluster.deleteNamespace name).run site u).2.record =
      remarks ++ .called (.deleteNamespace name) outcome :: u.record ∧
      ∀ e ∈ remarks, Event.IsRemark e := by
  let c : Cluster.Call .value := .deleteNamespace name
  let waits : List (Event τ) := (site.answer c u.outside).1.outcome.waits
  have waiting : ∀ e ∈ waits, e.IsRemark := fun e => Outcome.isRemark_of_mem_waits
  rw [Cluster.deleteNamespace, Act.run_bind, Cluster.run_ask_eq]
  cases (site.answer c u.outside).1.outcome.told s!"delete Namespace: {name.display}" with
  | error f => exact ⟨waits, _, rfl, waiting⟩
  | ok v =>
    refine ⟨.log .debug s!"Namespace {name.display} has been deleted" :: waits, _, rfl, ?_⟩
    exact List.forall_mem_cons.mpr ⟨trivial, waiting⟩

/-- Deleting a test namespace is what it is said to be, unless a fault that nothing may deal with
keeps it from being done. -/
theorem exists_deletion (calm : tolerable ((deleteTestNamespace name).run site u).1 = true) :
    ∃ remarks outcome looked, Deletion site name u remarks outcome looked := by
  have begun : (deleteTestNamespace name).run site u =
      (if u.trial.failed then do
        (storeDiagnostics name).rescue fun f =>
          Act.log .warning s!"Failed to store diagnostics of {name.display}: {f.text}"
        Cluster.deleteNamespace name
      else Cluster.deleteNamespace name : Act τ σ Unit).run site u := rfl
  cases failed : u.trial.failed with
  | false =>
    rw [failed] at begun
    obtain ⟨remarks, outcome, record, remarking⟩ := exists_deleted site name u
    refine ⟨remarks, outcome, [],
      { record := ?_, remarks := remarking, failed := ?_, passed := ?_ }⟩
    · rw [begun]
      exact record
    · exact fun other => nomatch failed.symm.trans other
    · exact fun _ => rfl
  | true =>
    rw [failed, if_pos rfl, Act.run_bind, Act.run_rescue] at begun
    obtain ⟨stored, first, kept, oldest, looks⟩ := exists_stored site name u
    -- the deletion follows in a world with at most one remark more
    have follows : ∀ (before : List (Event τ)) (u₁ : World τ σ),
        (∀ e ∈ before, Event.IsRemark e) → u₁.record = before ++ (stored ++ u.record) →
        (deleteTestNamespace name).run site u = (Cluster.deleteNamespace name).run site u₁ →
        ∃ remarks outcome looked, Deletion site name u remarks outcome looked := by
      intro before u₁ remarking record same
      obtain ⟨remarks, outcome, deleted, after⟩ := exists_deleted site name u₁
      refine ⟨remarks, outcome, before ++ stored,
        { record := ?_, remarks := after, failed := ?_, passed := ?_ }⟩
      · rw [same, deleted, record, List.append_assoc]
      · exact fun _ => ⟨before, stored, first, rfl, remarking, kept, oldest, looks⟩
      · exact fun other => nomatch failed.symm.trans other
    rcases ended : (storeDiagnostics name).run site u with ⟨f | _, u₁⟩
    · rw [ended] at begun kept
      cases ordinary : f.isOrdinary with
      | false =>
        simp only [ordinary] at begun
        rw [begun] at calm
        exact absurd (ordinary.symm.trans calm) nofun
      | true =>
        simp only [ordinary] at begun
        let warning : Event τ :=
          .log .warning s!"Failed to store diagnostics of {name.display}: {f.text}"
        have remark : ∀ e ∈ [warning], Event.IsRemark e := by
          intro e member
          obtain rfl := List.mem_singleton.mp member
          exact trivial
        exact follows [warning] (u₁.recorded warning) remark (congrArg (warning :: ·) kept) begun
    · rw [ended] at begun kept
      exact follows [] u₁ (fun _ member => nomatch member) kept begun

end Trial

variable {site : Site τ σ}

/-- A deletion makes one call that deletes anything. -/
theorem Trial.Deletion.deletes {name : Json} {u : World τ σ} {remarks looked : List (Event τ)}
    {outcome : Outcome Json} (h : Trial.Deletion site name u remarks outcome looked) :
    (remarks ++ Event.called (.deleteNamespace name) outcome :: looked).filterMap Event.deletes? =
      [.ofNamespace name] := by
  have remarked := List.filterMap_eq_nil_iff.mpr fun e member => (h.remarks e member).deletes?
  have looking : looked.filterMap Event.deletes? = [] := by
    refine List.filterMap_eq_nil_iff.mpr fun e member => ?_
    cases failed : u.trial.failed with
    | false =>
      rw [h.passed failed] at member
      cases member
    | true =>
      obtain ⟨warnings, stored, first, rfl, warning, -, -, looks⟩ := h.failed failed
      rcases List.mem_append.mp member with late | early
      · exact (warning e late).deletes?
      · exact (looks e early).deletes?
  rw [List.filterMap_append, remarked, List.nil_append]
  have called : (Event.called (.deleteNamespace name) outcome : Event τ).deletes? =
    some (.ofNamespace name) := rfl
  rw [List.filterMap_cons_some called, looking]

/-- The deletion of a test namespace as a step is the deletion, unless a fault that nothing may deal
with ends it. -/
theorem Step.deletion_of_exec {name : Json} {u w : World τ σ} {r : Except Fault Json}
    (ran : ((Step.deleteTestNamespace name : Step τ).exec 1).run site u = (r, w))
    (calm : tolerable (r.map fun _ => ()) = true) :
    ((Trial.deleteTestNamespace name).run site u).2 = w ∧
      ∃ remarks outcome looked, Trial.Deletion site name u remarks outcome looked := by
  have same : ((Step.deleteTestNamespace name : Step τ).exec 1).run site u =
      (((Trial.deleteTestNamespace name).run site u).1 >>= fun _ => .ok .null,
        ((Trial.deleteTestNamespace name).run site u).2) :=
    Act.run_bind_of_returns fun _ _ => rfl
  obtain ⟨rfl, rfl⟩ := Prod.mk.inj (same.symm.trans ran)
  refine ⟨rfl, Trial.exists_deletion site name u ?_⟩
  cases ended : ((Trial.deleteTestNamespace name).run site u).1 with
  | ok _ => rfl
  | error f =>
    rw [ended] at calm
    exact calm

end TrialRun
