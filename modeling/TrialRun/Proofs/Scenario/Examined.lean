import TrialRun.Proofs.Scenario.Settled
import TrialRun.Proofs.Scenario.Tidiness
import TrialRun.Proofs.Trial.Conclusion
import TrialRun.Proofs.Trial.Guards
import TrialRun.Proofs.Trial.Namespaces

/-!
# What is looked at when a scenario has failed

A trial notes that it has failed in two places: where a watched part fails, and where it is said
where the output is.  So when a scenario is cleaned up, the note says whether its body has failed,
wherever that was (`Scenario.Examined`).  Then the diagnostics of a namespace are attempted before
it is deleted if the body has failed with the namespace there; and if the body has not failed,
nobody has looked inside at any time.

The fault that is reported is always the one that the body has come to by itself, since what goes
wrong in looking at the Ray cluster is logged and no more.
-/

set_option autoImplicit false

namespace TrialRun

variable {τ σ α : Type}

/-! ## Looking at a Ray cluster -/

theorem Json.isOrdinary_of_get {v fallback : Json} {name : String} {f : Fault}
    (failed : v.get name fallback = .error f) : f.isOrdinary = true := by
  cases v with
  | object fields => cases failed
  | _ =>
    cases failed
    rfl

theorem Workload.isOrdinary_of_statusPart {object : Json} {part : String} {f : Fault}
    (failed : statusPart object part = .error f) : f.isOrdinary = true := by
  unfold statusPart at failed
  cases status : object.get "status" with
  | error g =>
    rw [status] at failed
    cases failed
    exact Json.isOrdinary_of_get status
  | ok v =>
    rw [status] at failed
    exact Json.isOrdinary_of_get failed

namespace Act.Candid

variable {site : Site τ σ}

/-- A computation is candid if all its faults can be dealt with. -/
theorem lift {r : Except Fault α} (ordinary : ∀ f, r = .error f → f.isOrdinary = true) :
    (liftM r : Act τ σ α).Candid site := by
  cases r with
  | ok v => exact pure v
  | error f => exact fail (ordinary f rfl)

theorem diagnose {a : Act τ σ Unit} (h : a.Candid site) : (Trial.diagnose a).Candid site :=
  Ensures.rescue h (fun _ _ => anyhow (bind trial fun _ => log _ _)) fun _ _ _ => id

variable [Timescale τ]

theorem troubleshootRayCluster (ns name : Json) :
    (Trial.troubleshootRayCluster ns name : Act τ σ Unit).Candid site := by
  refine bind trial fun own => ite (bind (ask _ _) fun rayCluster => ?_) (pure _)
  refine bind (lift fun _ => Workload.isOrdinary_of_statusPart) fun state => ?_
  refine bind (lift fun _ => Json.isOrdinary_of_get) fun status => bind (log _ _) fun _ => ?_
  refine bind (listPods _ _) fun pods => ite (log _ _) ?_
  refine forEach (fun pod => forEach (fun container => ?_) _) _
  exact bind (log _ _) fun _ => bind (ask _ _) fun _ => log _ _

end Act.Candid

/-- What goes wrong in looking at a Ray cluster is logged and no more, unless it is interrupted. -/
theorem Trial.ok_of_diagnose {site : Site τ σ} {a : Act τ σ Unit} (h : a.Candid site)
    (w : World τ σ) : ((diagnose a).run site w).1 = .ok () ∨
      Interrupted ((diagnose a).run site w).2.record := by
  have ended := h.diagnose.ends w trivial
  have tried : (diagnose a).run site w =
      if tolerable (a.run site w).1 then
        (.ok (), (a.run site w).2.warned "Troubleshooting of test " (a.run site w).1)
      else a.run site w := run_diagnose a
  by_cases goesOn : tolerable (a.run site w).1 = true
  · rw [if_pos goesOn] at tried
    exact .inl (congrArg Prod.fst tried)
  · rw [if_neg goesOn] at tried
    obtain ⟨f, failed, strange⟩ := eq_error_of_not_tolerable goesOn
    right
    rw [tried] at ended ⊢
    clear goesOn tried
    revert ended failed
    rcases a.run site w with ⟨g | v, w'⟩ <;> rintro ended ⟨⟩
    exact ended.resolve_left (by rw [strange]; exact Bool.noConfusion)

/-- The fault of a body is the one that it has come to by itself.  Looking at the Ray cluster puts
nothing off. -/
theorem Ending.followed [Timescale τ] {site : Site τ σ} {ending : Ending τ σ α}
    (owed : Owed ending.world) :
    let body := ending.followedBy site Trial.troubleshootRayCluster
    Owed body.2 ∧ (body.1 = ending.result ∨ Interrupted body.2.record) := by
  cases ending with
  | fine v w => exact ⟨owed, .inl rfl⟩
  | outside f w => exact ⟨owed, .inl rfl⟩
  | inside f ns name w =>
    have h := observant_silent (τ := τ) (σ := σ)
    have looked := h.diagnose (h.troubleshootRayCluster ns name) site
      (w.noted fun own => { own with failed := true })
    refine ⟨owed.idles (h.trans (h.failed w) looked), ?_⟩
    refine (Trial.ok_of_diagnose (.troubleshootRayCluster ns name) _).imp_left fun well => ?_
    rw [Ending.followedBy]
    dsimp only
    rw [well]
    rfl

/-! ## Saying where the output is -/

/-- What a test runner reports of a body that has ended so. -/
def Report.of : Except Fault α → Report
  | .ok _ => .passed
  | .error _ => .failed

/-- A trial is cleaned up with the note that it has failed if its body has failed, and only then. -/
theorem Trial.announced_of_report {site : Site τ σ} {w : World τ σ} {ended : Except Fault α}
    (fine : ∀ v, ended = .ok v → w.trial.failed = false)
    (output : ∀ f, ended = .error f → HasOutput site w) :
    let announced := (announce (some (Report.of ended))).run site w
    announced.1 = .ok () ∧ w.Idles Event.IsSilent announced.2 ∧
      (announced.2.trial.failed = true ↔ ∃ f, ended = .error f) ∧
      (∀ v, ended = .ok v → announced.2 = w) := by
  intro announced
  have idle := announce_moves observant_silent.toEveryday observant_silent.failed
    (some (Report.of ended)) site w
  cases ended with
  | ok v =>
    refine ⟨rfl, idle, ⟨fun failed => ?_, fun ⟨f, failed⟩ => nomatch failed⟩, fun _ _ => rfl⟩
    exact nomatch (fine v rfl).symm.trans failed
  | error f =>
    obtain ⟨p, made⟩ := output f rfl
    have keeps := tolerant_keepsFailure (τ := τ) (σ := σ)
    have said : announced = ((do
        let directory ← outputPath
        Act.log .info s!"Test {(← Act.trial).name} failed, diagnostics are in {directory.text}" :
          Act τ σ Unit).run site (w.noted fun own => { own with failed := true })) := rfl
    have failed : announced.2.trial.failed = true := by
      rw [said]
      refine (keeps.bind keeps.outputPath fun directory => ?_) site _ rfl
      exact keeps.bind keeps.trial fun own => keeps.log _ _
    refine ⟨?_, idle, ⟨fun _ => ⟨f, rfl⟩, fun _ => failed⟩, fun _ => nofun⟩
    rw [said, Act.run_bind]
    revert made
    rcases outputPath.run site (w.noted fun own => { own with failed := true }) with ⟨g | q, u⟩ <;>
      rintro ⟨⟩
    rfl

/-! ## Cleaning up -/

/-- The event is to delete a namespace. -/
def Event.AsksToDelete (name : Json) (e : Event τ) : Prop := e.deletes? = some (.ofNamespace name)

/-- The event asks for all pods of a namespace, which is how storing its diagnostics begins. -/
def Event.AsksForPods (name : Json) (e : Event τ) : Prop :=
  ∃ o, e = .called (.listPods name .null) o

/-- What comes of deleting some namespaces in cleaning up.  Nobody looks inside unless the trial has
failed; and if it has, the diagnostics of each of them are attempted before it is deleted. -/
structure Undone (names : List Json) (u w : World τ σ) : Prop where
  failed : w.trial.failed = u.trial.failed
  grown : u.Grows (fun e => (e.looksInside = true → u.trial.failed = true) ∧
    ∀ name, e.AsksToDelete name → name ∈ names) w
  diagnosed : u.trial.failed = true → ∀ name ∈ names,
    Passed [Event.AsksToDelete name, Event.AsksForPods name] w.record

namespace Undone

variable {names names' : List Json} {u v w : World τ σ}

theorem trans (first : Undone names u v) (second : Undone names' v w) :
    Undone (names ++ names') u w := by
  obtain ⟨later, grown', new'⟩ := second.grown
  obtain ⟨earlier, grown, new⟩ := first.grown
  refine ⟨second.failed.trans first.failed, ⟨later ++ earlier, ?_, fun e member => ?_⟩, ?_⟩
  · rw [grown', grown, List.append_assoc]
  · rcases List.mem_append.mp member with late | early
    · refine ⟨fun looks => first.failed.symm.trans ((new' e late).1 looks), fun name asks => ?_⟩
      exact List.mem_append_right _ ((new' e late).2 name asks)
    · exact ⟨(new e early).1, fun name asks => List.mem_append_left _ ((new e early).2 name asks)⟩
  · intro failed name member
    rcases List.mem_append.mp member with before | after
    · rw [grown']
      exact (first.diagnosed failed name before).append later
    · exact second.diagnosed (first.failed.trans failed) name after

/-- What stays out deletes no namespace and needs no diagnostics. -/
theorem of_staysOut (out : u.StaysOut w) : Undone [] u w := by
  obtain ⟨es, record, new⟩ := out.grown
  refine ⟨out.failed, ⟨es, record, fun e member => ⟨fun looks => ?_, fun name asks => ?_⟩⟩, ?_⟩
  · exact nomatch (new e member).unseen.symm.trans looks
  · exact absurd asks ((new e member).deletes name)
  · exact fun _ _ => nofun

end Undone

/-- What a deletion of a test namespace comes to. -/
theorem Trial.Deletion.undone [Timescale τ] {site : Site τ σ} {name : Json} {u w : World τ σ}
    {remarks looked : List (Event τ)} {outcome : Outcome Json}
    (h : Trial.Deletion site name u remarks outcome looked)
    (reached : ((Trial.deleteTestNamespace name).run site u).2 = w)
    (failed : w.trial.failed = u.trial.failed) : Undone [name] u w := by
  have record := h.record
  rw [reached] at record
  let e : Event τ := .called (.deleteNamespace name) outcome
  have all : w.record = (remarks ++ e :: looked) ++ u.record := by
    rw [record, List.append_assoc, List.cons_append]
  have unseen : ∀ other : Event τ, other.IsRemark → other.looksInside = false := by
    intro other remark
    cases other with
    | called c o => exact remark.elim
    | _ => rfl
  refine ⟨failed, ⟨_, all, fun other member => ⟨fun looks => ?_, fun asked asks => ?_⟩⟩, ?_⟩
  · cases noted : u.trial.failed with
    | true => rfl
    | false =>
      rw [h.passed noted] at member
      rcases List.mem_append.mp member with remark | deletion
      · exact nomatch (unseen other (h.remarks other remark)).symm.trans looks
      · obtain rfl := List.mem_singleton.mp deletion
        cases looks
  · have deleted : Target.ofNamespace asked ∈ [Target.ofNamespace name] := by
      rw [← h.deletes]
      exact List.mem_filterMap.mpr ⟨other, member, asks⟩
    cases List.mem_singleton.mp deleted
    exact List.mem_cons_self
  · intro noted asked member
    obtain rfl := List.mem_singleton.mp member
    obtain ⟨warnings, stored, first, rfl, -, -, oldest, -⟩ := h.failed noted
    have listed : Event.called (.listPods asked .null) first ∈ (warnings ++ stored) ++ u.record :=
      List.mem_append_left _ (List.mem_append_right _ (List.mem_of_getLast? oldest))
    have before : Passed [Event.AsksForPods asked] ((warnings ++ stored) ++ u.record) :=
      .of_mem listed ⟨first, rfl⟩
    have deletion : Event.AsksToDelete asked e := rfl
    rw [record]
    exact (Passed.mark deletion before).append remarks

/-- Undoing something is a step on its own. -/
theorem Target.isAlone_undo (t : Target) : (t.undo : Step τ).IsAlone := by
  obtain ⟨kind, ns, name⟩ := t
  cases kind <;> trivial

section Drain

variable [Timescale τ] {site : Site τ σ}

/-- What a step that undoes something leaves of the note that the trial has failed. -/
theorem failed_of_undo (t : Target) (u : World τ σ) :
    (((t.undo : Step τ).exec 1).run site u).2.trial.failed = u.trial.failed := by
  have h : Everyday fun w w' : World τ σ => w'.trial.failed = w.trial.failed :=
    { refl := fun _ => rfl
      trans := fun first second => second.trans first
      clock := fun _ _ => rfl
      outside := fun _ _ => rfl
      passing := fun _ _ _ => rfl
      volume := fun _ _ _ => rfl
      directory := fun _ _ _ => rfl
      wrote := fun _ _ _ => rfl }
  obtain ⟨kind, ns, name⟩ := t
  have namespaces : (Trial.deleteTestNamespace name : Act τ σ Unit).Moves
      fun w w' => w'.trial.failed = w.trial.failed := by
    have deleted := h.deleteNamespace (σ := σ) name fun _ _ => rfl
    refine h.bind h.trial fun own => Calm.ite (h.bind ?_ fun _ => deleted) deleted
    refine h.rescue (h.storeDiagnostics ?_ ?_ ?_) fun _ => h.log _ _
    · exact fun _ _ => rfl
    · exact fun _ _ _ _ => rfl
    · exact fun _ _ => rfl
  cases kind with
  | object type =>
    exact h.bind (h.deleteObject type ns name fun _ _ => rfl) (fun _ => h.pure _) site u
  | _ => exact h.bind namespaces (fun _ => h.pure _) site u

/-- Undoing something is what it is said to be, unless a fault that nothing may deal with ends
it. -/
theorem undone_of_undo (t : Target) {u w : World τ σ} {r : Except Fault Json}
    (ran : ((t.undo : Step τ).exec 1).run site u = (r, w))
    (calm : tolerable (r.map fun _ => ()) = true) :
    Undone (t.undo : Step τ).testNamespace?.toList u w := by
  have failed : (((t.undo : Step τ).exec 1).run site u).2.trial.failed = u.trial.failed :=
    failed_of_undo t u
  rw [ran] at failed
  obtain ⟨kind, ns, name⟩ := t
  cases kind with
  | object type =>
    have h := glancing_staysOut (τ := τ) (σ := σ)
    let undo : Act τ σ Json := (Cluster.Operation.delete type ns name).run
    have moves : undo.Moves World.StaysOut :=
      h.bind (h.deleteObject type ns name (allows_deleteObject type ns name)) fun _ => h.pure _
    have out : u.StaysOut (undo.run site u).2 := moves site u
    have same : undo.run site u = (r, w) := ran
    rw [same] at out
    exact .of_staysOut out
  | _ =>
    obtain ⟨reached, remarks, outcome, looked, deletion⟩ := Step.deletion_of_exec ran calm
    exact deletion.undone reached failed

/-- One turn of cleaning up: something is undone, and what goes wrong in it is logged, unless
nothing may deal with it. -/
theorem turn_undoes (disk : site.HasPlainDisk) (bound turns : Nat) (t : Target) {u : World τ σ}
    {rest : List (Step τ)} (pending : u.trial.pending = t.undo :: rest) :
    let ended := (Trial.drain (Step.exec (bound + 1)) (turns + 1)).run site u
    Interrupted ended.2.record ∨ ∃ w, w.trial.pending = rest ∧
      Undone (t.undo : Step τ).testNamespace?.toList u w ∧
      ended = (Trial.drain (Step.exec (bound + 1)) turns).run site w := by
  intro ended
  let u₀ := u.noted fun own => { own with pending := rest }
  have alone : (t.undo : Step τ).IsAlone := t.isAlone_undo
  have exec : ((t.undo : Step τ).exec (bound + 1) : Act τ σ Json) = (t.undo : Step τ).exec 1 :=
    Step.exec_of_isAlone alone bound
  have kept := Step.pending_of_isAlone alone site u₀
  have candid : ((t.undo : Step τ).exec 1 : Act τ σ Json).Candid site := .undo disk 0 t
  have told := candid.ends u₀ trivial
  let done := (do let _ ← (t.undo : Step τ).exec (bound + 1) : Act τ σ Unit).run site u₀
  have turn : ended = if tolerable done.1 then
      (Trial.drain (Step.exec (bound + 1)) turns).run site
        (done.2.warned "Cleanup of test " done.1)
    else done := Trial.run_drain_cons pending
  have same : done = ((((t.undo : Step τ).exec 1).run site u₀).1.map fun _ => (),
      (((t.undo : Step τ).exec 1).run site u₀).2) := by
    rw [← exec]
    exact Act.run_discard _ site u₀
  rcases ran : ((t.undo : Step τ).exec 1).run site u₀ with ⟨r, w⟩
  rw [ran] at kept told same
  -- a turn that ends the cleanup has failed strangely, and the record tells of that
  by_cases goesOn : tolerable done.1 = true
  · rw [if_pos goesOn] at turn
    rw [same] at goesOn turn
    have first : Undone (t.undo : Step τ).testNamespace?.toList u₀ w :=
      undone_of_undo t ran goesOn
    have begun : Undone (t.undo : Step τ).testNamespace?.toList u w :=
      ⟨first.failed, first.grown, first.diagnosed⟩
    have warned : w.StaysOut (w.warned "Cleanup of test " (r.map fun _ => ())) := by
      cases r with
      | ok v => exact glancing_staysOut.refl w
      | error f => exact glancing_staysOut.recorded w _ trivial
    have undone := begun.trans (.of_staysOut warned)
    rw [List.append_nil] at undone
    exact .inr ⟨_, (congrArg Trial.pending (w.warned_trial _ _)).trans kept, undone, turn⟩
  · rw [if_neg goesOn] at turn
    rw [same] at goesOn turn
    obtain ⟨f, failed, strange⟩ := eq_error_of_not_tolerable goesOn
    left
    rw [turn]
    cases r with
    | ok v => cases failed
    | error g =>
      cases failed
      exact told.resolve_left (by rw [strange]; exact Bool.noConfusion)

/-- **Cleaning up deletes what is owed, and looks inside only if the trial has failed.** -/
theorem drain_undoes (disk : site.HasPlainDisk) (bound : Nat) (ts : List Target) {u : World τ σ}
    (pending : u.trial.pending = ts.map Target.undo) :
    let ended := (Trial.drain (Step.exec (bound + 1)) ts.length).run site u
    Interrupted ended.2.record ∨
      ended.1 = .ok () ∧ Undone (u.trial.pending.filterMap Step.testNamespace?) u ended.2 := by
  induction ts generalizing u with
  | nil =>
    intro ended
    have stopped : ended = (.ok (), u) := Trial.run_drain_nil pending
    rw [stopped, pending]
    exact .inr ⟨rfl, .of_staysOut (glancing_staysOut.refl u)⟩
  | cons t others ih =>
    intro ended
    -- once interrupted, always so; otherwise one turn is over and the others are still owed
    rcases turn_undoes disk bound others.length t pending with interrupted | ⟨w, left, first, turn⟩
    · exact .inl interrupted
    · have same : ended = (Trial.drain (Step.exec (bound + 1)) others.length).run site w := turn
      rw [same]
      refine (ih left).imp_right fun ⟨well, undone⟩ => ⟨well, ?_⟩
      have all := first.trans undone
      rw [left] at all
      rw [pending, List.map_cons]
      cases which : (t.undo : Step τ).testNamespace? with
      | none =>
        rw [which] at all
        rw [List.filterMap_cons_none which]
        exact all
      | some name =>
        rw [which] at all
        rw [List.filterMap_cons_some which]
        exact all

omit [Timescale τ] in
/-- The namespaces of what is owed are those whose deletions were put off. -/
theorem Owed.mem_namespaces {u : World τ σ} (h : Owed u) (name : Json) :
    name ∈ u.trial.pending.filterMap Step.testNamespace? ↔
      ∃ e ∈ u.record, e.created? = some (.ofNamespace name) := by
  rw [← h.namespaces name]
  constructor
  · intro member
    obtain ⟨step, there, which⟩ := List.mem_filterMap.mp member
    rw [← Step.eq_of_testNamespace? which]
    exact there
  · exact fun member => List.mem_filterMap.mpr ⟨_, member, rfl⟩

theorem cleanup_undoes (disk : site.HasPlainDisk) {u : World τ σ} (owed : Owed u) :
    let ended := (Trial.cleanup : Act τ σ Unit).run site u
    Interrupted ended.2.record ∨
      ended.1 = .ok () ∧ Undone (u.trial.pending.filterMap Step.testNamespace?) u ended.2 := by
  obtain ⟨ts, pending⟩ := owed.undoing
  have bound : (Step.cleanup : Step τ).size + Step.sizes u.trial.pending = ts.length + 1 := by
    rw [pending, sizes_undo]
    exact Nat.add_comm 1 ts.length
  have run : (Trial.cleanup : Act τ σ Unit).run site u =
      (Trial.drain (Step.exec ts.length) ts.length).run site u := by
    have step : ((Step.cleanup : Step τ).run : Act τ σ Json).run site u =
        (Step.noResult (Trial.drain (Step.exec ts.length) ts.length)).run site u := by
      rw [Step.run, Act.run_bind_of_ok _ (Act.run_trial site u), bound]
      rfl
    rw [Trial.cleanup, Act.run_bind, step, Step.noResult, Act.run_bind]
    rcases (Trial.drain (Step.exec ts.length) ts.length).run site u with ⟨_ | _, w⟩ <;> rfl
  dsimp only
  rw [run]
  cases ts with
  | nil =>
    rw [Trial.run_drain_nil pending, pending]
    exact .inr ⟨rfl, .of_staysOut (glancing_staysOut.refl u)⟩
  | cons t others => exact drain_undoes disk others.length (t :: others) pending

end Drain

/-! ## Whole trials -/

/-- A trial begins tidy. -/
theorem World.tidy_fresh {start : World τ σ} (unfailed : start.trial.failed = false) :
    Tidy start.fresh where
  undoing := ⟨[], rfl⟩
  namespaces _ := ⟨fun member => absurd member List.not_mem_nil,
    fun ⟨_, member, _⟩ => absurd member List.not_mem_nil⟩
  undeleted _ member := absurd member List.not_mem_nil
  fine := unfailed
  unseen _ member := absurd member List.not_mem_nil

theorem Interrupted.grown {w w' : World τ σ} (h : Interrupted w.record) (grown : w.Grown w') :
    Interrupted w'.record := by
  obtain ⟨es, record, -⟩ := grown
  rw [record]
  exact h.append es

namespace Scenario

variable (s : Scenario) [Timescale τ]

/-- What is always true of what was looked at in a scenario that was tried to its end.  Its body has
ended, then it was said where the output is, and then all that was put off was done. -/
structure Examined (script : List UInt8) (site : Site τ σ) (start : World τ σ)
    (body announced ended : Except Fault Unit × World τ σ) : Prop where
  /-- The body has come to its ending by itself.  If that was a fault of a watched part, its Ray
  cluster was looked at then, once and in no other case; and the fault remained. -/
  original : ∃ ending : Ending τ σ Unit, body.1 = ending.result ∧
    body = ending.followedBy site Trial.troubleshootRayCluster ∧
    ∀ look, (s.runWith look script).run site start = ending.followedBy site look
  /-- Cleaning up began, and came to its end. -/
  cleaned : announced.1 = .ok () ∧ ended = Trial.cleanup.run site announced.2 ∧ ended.1 = .ok ()
  /-- When it began, the trial had noted that it had failed if its body had, and only then. -/
  failed : announced.2.trial.failed = true ↔ ∃ f, body.1 = .error f
  /-- The diagnostics of a namespace were attempted before its deletion if the body has failed with
  the namespace created before, and only then. -/
  diagnosed : ∀ name, Passed [Event.AsksToDelete name, Event.AsksForPods name] ended.2.record ↔
    (∃ f, body.1 = .error f) ∧ ∃ e ∈ body.2.record, e.created? = some (.ofNamespace name)
  /-- If the body has not failed, no pod and no occurrence was read. -/
  unseen : body.1 = .ok () → ∀ e ∈ ended.2.record, e.looksInside = false

/-- **Diagnostics exactly for failures.**  At every site and from every fresh world, a scenario that
was tried to its end and reported as it has ended was looked at as it is said, unless something was
interrupted, or the directory for output could not be made. -/
theorem run_examined (script : List UInt8) (site : Site τ σ) (start : World τ σ)
    (unfailed : start.trial.failed = false) (disk : site.HasPlainDisk)
    (output : ∀ f, ((s.run script).run site start.fresh).1 = .error f →
      Trial.HasOutput site ((s.run script).run site start.fresh).2) :
    let body := (s.run script).run site start.fresh
    let report := some (Report.of body.1)
    let announced := (Trial.announce report).run site body.2
    let ended := (s.toEnd script report).run site start.fresh
    ¬Interrupted ended.2.record → s.Examined script site start.fresh body announced ended := by
  intro body report announced ended uninterrupted
  -- the body has come to its ending, unless the record says that it was interrupted
  obtain ⟨ending, tidy, same⟩ := s.runWith_ends script start.fresh (World.tidy_fresh unfailed)
  have ran : body = ending.followedBy site Trial.troubleshootRayCluster := same _
  obtain ⟨owed, told⟩ := Ending.followed tidy.toOwed
  rw [← ran] at owed told
  have concluded : ended = (Trial.conclude report : Act τ σ Unit).run site body.2 := rfl
  have original : body.1 = ending.result := told.resolve_right fun interrupted =>
    uninterrupted (concluded ▸ interrupted.grown (lenient_grown.conclude report site body.2))
  have fine : ∀ v, body.1 = .ok v → body.2 = ending.world := by
    intro v well
    cases ending with
    | fine v w => exact congrArg Prod.snd ran
    | outside f w => cases original.symm.trans well
    | inside f ns name w => cases original.symm.trans well
  -- what is said before cleaning up notes that the trial has failed if it has
  obtain ⟨said, idle, failed, quiet⟩ :=
    Trial.announced_of_report (fun v well => fine v well ▸ tidy.fine) output
  have cleaned : ended = (Trial.cleanup : Act τ σ Unit).run site announced.2 := by
    have parts : ended = (Trial.announce report >>= fun _ => Trial.cleanup : Act τ σ Unit).run site
        body.2 := congrArg (Act.run · site body.2) (Trial.conclude_eq report)
    have stated : (Trial.announce report).run site body.2 = (.ok (), announced.2) :=
      Prod.ext said rfl
    rw [parts, Act.run_bind_of_ok _ stated]
  have owing : Owed announced.2 := owed.idles idle
  obtain ⟨well, undone⟩ := (cleanup_undoes disk owing).resolve_left (cleaned ▸ uninterrupted)
  rw [← cleaned] at well undone
  have created : ∀ name, name ∈ announced.2.trial.pending.filterMap Step.testNamespace? ↔
      ∃ e ∈ body.2.record, e.created? = some (.ofNamespace name) := fun name => by
    rw [← owed.mem_namespaces name, idle.1]
  obtain ⟨since, record, new⟩ := undone.grown
  have unseen : body.1 = .ok () → ∀ e ∈ ended.2.record, e.looksInside = false := by
    intro passed e member
    rw [record, quiet () passed, fine () passed] at member
    rcases List.mem_append.mp member with late | early
    · refine Bool.eq_false_iff.mpr fun looks => ?_
      obtain ⟨f, raised⟩ := failed.mp ((new e late).1 looks)
      cases passed.symm.trans raised
    · exact tidy.unseen e early
  refine ⟨⟨ending, original, ran, same⟩, ⟨said, cleaned, well⟩, failed, fun name => ⟨?_, ?_⟩,
    unseen⟩
  · intro diagnosed
    obtain ⟨e, member, deletes⟩ := diagnosed.exists_mem List.mem_cons_self
    obtain ⟨e', member', outcome, rfl⟩ :=
      diagnosed.exists_mem (List.mem_cons_of_mem _ List.mem_cons_self)
    constructor
    · cases passed : body.1 with
      | ok _ => cases unseen passed _ member'
      | error f => exact ⟨f, rfl⟩
    · rw [record] at member
      rcases List.mem_append.mp member with late | early
      · exact (created name).mp ((new e late).2 name deletes)
      · exact absurd deletes (owing.undeleted e early name)
  · rintro ⟨raised, there⟩
    exact undone.diagnosed (failed.mpr raised) name ((created name).mpr there)

/-- How the body of a scenario ends where everything is created and nothing is shown. -/
def hastyBody : Except Fault Unit × World Rat Unit :=
  ((queuedCluster .cpu).run []).run onlyCreating hastyStart.fresh

/-- How it is tried to its end there, reported as it has ended. -/
def hastyTrial : Except Fault Unit × World Rat Unit :=
  ((queuedCluster .cpu).toEnd [] (some (Report.of hastyBody.1))).run onlyCreating hastyStart.fresh

/-- It fails there, and the pods of its namespace are asked for before that is deleted. -/
theorem run_examined_hasty :
    hastyStart.trial.failed = false ∧ onlyCreating.HasPlainDisk ∧
      Trial.HasOutput onlyCreating hastyBody.2 ∧ ¬Interrupted hastyTrial.2.record ∧
      Passed [Event.AsksToDelete "test-ns", Event.AsksForPods "test-ns"] hastyTrial.2.record := by
  have disk : onlyCreating.HasPlainDisk := fun _ _ _ obstacle => by cases obstacle
  have output : Trial.HasOutput onlyCreating hastyBody.2 := ⟨_, rfl⟩
  have uninterrupted : ¬Interrupted hastyTrial.2.record := by decide +kernel
  have raised : ∃ f, hastyBody.1 = .error f := by
    have failed : hastyBody.1.toOption = none := by decide +kernel
    cases ended : hastyBody.1 with
    | error f => exact ⟨f, rfl⟩
    | ok _ =>
      rw [ended] at failed
      cases failed
  have first : (hastyBody.2.record.filterMap Event.created?).getLast? =
      some (.ofNamespace "test-ns") := rfl
  have created : ∃ e ∈ hastyBody.2.record, e.created? = some (.ofNamespace "test-ns") :=
    List.mem_filterMap.mp (List.mem_of_getLast? first)
  have diagnosed : Passed [Event.AsksToDelete "test-ns", Event.AsksForPods "test-ns"]
      hastyTrial.2.record := by
    unfold hastyTrial hastyBody at *
    have examined := run_examined (queuedCluster .cpu) [] onlyCreating hastyStart rfl disk
      (fun _ _ => output) uninterrupted
    exact (examined.diagnosed "test-ns").mpr ⟨raised, created⟩
  exact ⟨rfl, disk, output, uninterrupted, diagnosed⟩

end Scenario

end TrialRun
