import TrialRun.Proofs.Trial.Namespaces
import TrialRun.Proofs.Trial.Reached

/-!
# Clearing the test namespaces

What a task deletes is told along the way that it takes from one account to another (`Clearing`):
test namespaces are deleted when it is the turn of their deletions, and between these turns anything
may be done that spares the namespaces in question.  Every task that ends well, or with an ordinary
fault, takes such a way (`Does.clearing`), though what was put off may put off more, make more test
namespaces, clean up itself, and fail.

A way like that is then as good as the list of what was deleted on it.  Every test namespace whose
deletion was put off is on the list, or its deletion is still put off (`Clearing.perm`); if nothing
is left, the last one comes first (`Clearing.order`); and what is on the list once is deleted once
(`Clearing.deletedOnce`).
-/

set_option autoImplicit false

namespace TrialRun

variable {τ σ : Type}

/-! ## What spares namespaces -/

mutual

/-- The step deletes none of some namespaces, and no namespace as a test namespace, nor does any
step in it. -/
def Step.Spares (names : Json → Prop) : Step τ → Prop
  | .cluster (.deleteNamespace name) => ¬names name
  | .deleteTestNamespace _ => False
  | .defer step => step.Spares names
  | .onFailure body diagnostics => Step.AllSpare names body ∧ Step.AllSpare names diagnostics
  | _ => True

def Step.AllSpare (names : Json → Prop) : List (Step τ) → Prop
  | [] => True
  | step :: rest => step.Spares names ∧ Step.AllSpare names rest

end

mutual

/-- The step does not clean up, nor does any step in it that is not put off. -/
def Step.IsPlain : Step τ → Prop
  | .cleanup => False
  | .onFailure body diagnostics => Step.AllPlain body ∧ Step.AllPlain diagnostics
  | _ => True

def Step.AllPlain : List (Step τ) → Prop
  | [] => True
  | step :: rest => step.IsPlain ∧ Step.AllPlain rest

end

/-- A step that spares namespaces is not the deletion of a test namespace. -/
theorem Step.Spares.testNamespace? {names : Json → Prop} {step : Step τ} (h : step.Spares names) :
    step.testNamespace? = none := by
  cases step with
  | deleteTestNamespace name => exact h.elim
  | _ => rfl

def Task.Spares (names : Json → Prop) : Task τ → Prop
  | .step s => s.Spares names
  | .drain => True
  | .sequence steps | .diagnose steps | .session steps => Step.AllSpare names steps

def Task.IsPlain : Task τ → Prop
  | .step s => s.IsPlain
  | .drain => False
  | .sequence steps | .diagnose steps | .session steps => Step.AllPlain steps

/-- What is put off are deletions of test namespaces, and steps that spare some namespaces. -/
def Account.Spared (names : Json → Prop) (t : Account τ σ) : Prop :=
  ∀ p ∈ t.pending, p.2.testNamespace?.isSome = true ∨ p.2.Spares names

namespace Account.Spared

variable {names : Json → Prop} {t : Account τ σ} (h : t.Spared names)

include h

/-- One more step may be put off if it is of one of the two kinds. -/
theorem putOff {step : Step τ} (waits : step.testNamespace?.isSome = true ∨ step.Spares names) :
    (t.putOff step).Spared names :=
  List.forall_mem_cons.mpr ⟨waits, h⟩

variable {number : Nat} {step : Step τ} {rest : List (Nat × Step τ)}
  (last : t.pending = (number, step) :: rest)

include last

/-- What is put off last is of one of the two kinds. -/
theorem waits : step.testNamespace?.isSome = true ∨ step.Spares names := by
  refine h (number, step) ?_
  rw [last]
  exact List.mem_cons_self

/-- What stays put off is as it was. -/
theorem begun : (t.begun number step rest).Spared names := by
  intro p member
  refine h p ?_
  rw [last]
  exact List.mem_cons_of_mem _ member

end Account.Spared

/-- The event deletes none of some namespaces. -/
def Event.Spares (names : Json → Prop) (e : Event τ) : Prop :=
  ∀ name, e.deletes? = some (.ofNamespace name) → ¬names name

/-- Everything but the deletion of a namespace spares namespaces. -/
theorem sparing_grows (names : Json → Prop) :
    Sparing (World.Grows (τ := τ) (σ := σ) (Event.Spares names)) := by
  have h : Everyday (World.Grows (τ := τ) (σ := σ) (Event.Spares names)) :=
    everyday_grows fun _ everyday _ deletes => nomatch everyday.deletes?.symm.trans deletes
  refine ⟨h, fun w => h.refl w, fun e others => ?_, fun w _ => h.refl w, fun w _ => h.refl w,
    fun w _ => h.refl w⟩
  exact World.Grows.of_recorded fun name deletes => absurd deletes (others name)

variable {names : Json → Prop}

/-! ## Between the turns -/

/-- What may happen between the turns: other namespaces are deleted, something is put off or begun
that spares the namespaces in question, cleaning up comes to its end, or a test namespace is made,
so that its deletion is put off. -/
inductive Interlude (names : Json → Prop) : Account τ σ → Account τ σ → Prop where
  | moved {t : Account τ σ} {w : World τ σ} (kept : w.trial.pending = t.world.trial.pending)
      (grown : t.world.Grows (Event.Spares names) w) : Interlude names t (t.moved w kept)
  | putOff {t : Account τ σ} {step : Step τ} (spares : step.Spares names) :
      Interlude names t (t.putOff step)
  | made {t : Account τ σ} {w : World τ σ} {name : Json}
      (kept : w.trial.pending = t.world.trial.pending)
      (grown : t.world.Grows (Event.Spares names) w) (made : t.world.Makes name w) :
      Interlude names t ((t.moved w kept).putOff (.deleteTestNamespace name))
  | cleaned {t : Account τ σ} {left : List (Step τ)} : Interlude names t (t.told (.cleaned left))
  | begun {t : Account τ σ} {number : Nat} {step : Step τ} {rest : List (Nat × Step τ)}
      (last : t.pending = (number, step) :: rest) (other : step.testNamespace? = none) :
      Interlude names t (t.begun number step rest)

namespace Interlude

variable {t t₁ : Account τ σ}

/-- No interlude deletes one of the namespaces in question. -/
theorem grows (h : Interlude names t t₁) : t.world.Grows (Event.Spares names) t₁.world := by
  cases h with
  | moved kept grown => exact grown
  | made kept grown made => exact grown
  | _ => exact (sparing_grows names).refl t.world

/-- An interlude puts off no deletion but those of test namespaces and of others. -/
theorem spared (h : Interlude names t t₁) (spared : t.Spared names) : t₁.Spared names := by
  cases h with
  | moved kept grown => exact spared
  | putOff spares => exact spared.putOff (.inr spares)
  | made kept grown made => exact Account.Spared.putOff spared (.inl rfl)
  | cleaned => exact spared
  | begun last other => exact spared.begun last

/-- The test namespaces that are made are those whose deletion is put off. -/
theorem exists_new (h : Interlude names t t₁) : ∃ new : List Json,
    t₁.namespaces = new ++ t.namespaces ∧
      Deferral.namespaces t₁.story = new ++ Deferral.namespaces t.story := by
  cases h with
  | moved kept grown => exact ⟨[], rfl, rfl⟩
  | @putOff step spares =>
    refine ⟨step.testNamespace?.toList, Account.namespaces_putOff t step, ?_⟩
    exact Deferral.namespaces_putOff step t.story
  | @made w name kept grown made => exact ⟨[name], rfl, rfl⟩
  | cleaned => exact ⟨[], rfl, rfl⟩
  | begun last other =>
    refine ⟨[], ?_, rfl⟩
    rw [Account.namespaces_of_cons last, other]
    rfl

/-- To note the failure of the trial is an interlude. -/
theorem failing (t : Account τ σ) : Interlude names t t.failing :=
  .moved (t := t) (w := t.failing.world) rfl ((sparing_grows names).failed t.world)

/-- To log a fault is an interlude. -/
theorem warned (t : Account τ σ) (beginning : String) (ended : Except Fault Unit) :
    Interlude names t (t.warned beginning ended) := by
  refine .moved _ ?_
  cases ended with
  | ok _ => exact (sparing_grows names).refl t.world
  | error f => exact (sparing_grows names).recorded t.world _ trivial

end Interlude

variable [Timescale τ] {site : Site τ σ}

/-- A step on its own that spares some namespaces deletes none of them. -/
theorem Step.Spares.grows {step : Step τ} (spares : step.Spares names) (alone : step.IsAlone) :
    (step.exec 1 : Act τ σ Json).Moves (World.Grows (Event.Spares names)) := by
  have h := sparing_grows (τ := τ) (σ := σ) names
  refine h.exec_alone alone (fun _ _ w => h.refl w) (fun name deletes o => ?_) 0
  have spared : ¬names name := by
    cases step with
    | cluster op =>
      cases op with
      | deleteNamespace other =>
        cases deletes
        exact spares
      | _ => cases deletes
    | deleteTestNamespace other => exact spares.elim
    | _ => cases deletes
  refine World.Grows.of_recorded fun other same => ?_
  cases same
  exact spared

namespace Interlude

variable {t : Account τ σ} {w : World τ σ} (kept : w.trial.pending = t.world.trial.pending)

/-- A step on its own is an interlude if it spares the namespaces. -/
theorem of_alone {step : Step τ} {r : Except Fault Json} (spares : step.Spares names)
    (alone : step.IsAlone) (ran : (step.exec 1).run site t.world = (r, w)) :
    Interlude names t (t.moved w kept) := by
  have grown := spares.grows alone site t.world
  rw [ran] at grown
  exact .moved kept grown

/-- A test namespace that is made has its deletion put off. -/
theorem of_newTestNamespace {name : Json} {made : Cluster.Namespace}
    (created : (Cluster.createNamespace name).run site t.world = (.ok made, w)) (e : Event τ)
    (everyday : e.IsEveryday) :
    Interlude names t (((t.moved w kept).recorded e).putOff
      (.deleteTestNamespace made.metadata.name)) := by
  have grown := (sparing_grows names).createNamespace name site t.world
  rw [created] at grown
  have told := (sparing_grows names).recorded w e everyday
  have makes := (Cluster.makes_of_createNamespace created).recorded e
  exact .made (w := w.recorded e) kept ((sparing_grows names).trans grown told) makes

/-- A test namespace that could not be made leaves nothing to be put off. -/
theorem of_noTestNamespace {name : Json} {f : Fault}
    (failed : (Cluster.createNamespace name).run site t.world = (.error f, w)) :
    Interlude names t (t.moved w kept) := by
  have grown := (sparing_grows names).createNamespace name site t.world
  rw [failed] at grown
  exact .moved kept grown

end Interlude

/-! ## From turn to turn -/

/-- It is the turn of the deletion of a test namespace, which leads to another account. -/
inductive Turn (site : Site τ σ) (name : Json) : Account τ σ → Account τ σ → Prop where
  | intro {t : Account τ σ} {number : Nat} {rest : List (Nat × Step τ)} {w : World τ σ}
      {remarks looked : List (Event τ)} {outcome : Outcome Json}
      (last : t.pending = (number, .deleteTestNamespace name) :: rest)
      (ran : ((Trial.deleteTestNamespace name).run site
        (t.begun number (.deleteTestNamespace name) rest).world).2 = w)
      (deletion : Trial.Deletion site name
        (t.begun number (.deleteTestNamespace name) rest).world remarks outcome looked)
      (kept : w.trial.pending = rest.map Prod.snd) :
      Turn site name t ((t.begun number (.deleteTestNamespace name) rest).moved w kept)

namespace Turn

variable {name : Json} {t t₁ : Account τ σ}

/-- One namespace is deleted in a turn. -/
theorem record (turn : Turn site name t t₁) : ∃ during,
    t₁.world.record = during ++ t.world.record ∧
      during.filterMap Event.deletes? = [.ofNamespace name] := by
  obtain ⟨last, rfl, deletion, kept⟩ := turn
  refine ⟨_, ?_, deletion.deletes⟩
  rw [List.append_assoc]
  exact deletion.record

/-- Its deletion is no longer put off. -/
theorem namespaces (turn : Turn site name t t₁) : t.namespaces = name :: t₁.namespaces := by
  cases turn with
  | intro last ran deletion kept => exact Account.namespaces_of_cons last

/-- Nothing new is put off in a turn. -/
theorem story (turn : Turn site name t t₁) :
    Deferral.namespaces t₁.story = Deferral.namespaces t.story := by
  cases turn with
  | intro last ran deletion kept => rfl

/-- What stays put off is as it was. -/
theorem spared (turn : Turn site name t t₁) (spared : t.Spared names) : t₁.Spared names := by
  cases turn with
  | intro last ran deletion kept => exact spared.begun last

end Turn

/-- A way from one account to another on which the deletions of some test namespaces are done as
soon as it is their turn, with interludes between them. -/
inductive Clearing (site : Site τ σ) (names : Json → Prop) (reached : Account τ σ → Prop) :
    Account τ σ → List Json → Account τ σ → Prop where
  | done (t : Account τ σ) : Clearing site names reached t [] t
  | passing {t t₁ t' : Account τ σ} {deleted : List Json} (interlude : Interlude names t t₁)
      (others : Clearing site names reached t₁ deleted t') :
      Clearing site names reached t deleted t'
  | deleted {t t₁ t' : Account τ σ} {name : Json} {deleted : List Json} (now : reached t)
      (turn : Turn site name t t₁) (others : Clearing site names reached t₁ deleted t') :
      Clearing site names reached t (name :: deleted) t'

namespace Clearing

variable {reached : Account τ σ → Prop} {t t₁ t' : Account τ σ} {deleted later : List Json}

/-- An interlude is a way without turns. -/
theorem of_interlude (interlude : Interlude names t t') :
    Clearing site names reached t [] t' := .passing interlude (.done t')

/-- Two ways in a row. -/
theorem trans (first : Clearing site names reached t deleted t₁)
    (second : Clearing site names reached t₁ later t') :
    Clearing site names reached t (deleted ++ later) t' := by
  induction first with
  | done t => exact second
  | passing interlude others ih => exact .passing interlude (ih second)
  | deleted now turn others ih => exact .deleted now turn (ih second)

/-- What is put off at the end of a way is of one of the two kinds, as at its beginning. -/
theorem spared (clearing : Clearing site names reached t deleted t') (spared : t.Spared names) :
    t'.Spared names := by
  induction clearing with
  | done t => exact spared
  | passing interlude others ih => exact ih (interlude.spared spared)
  | deleted now turn others ih => exact ih (turn.spared spared)

end Clearing

/-! ## What is done is a clearing -/

namespace Does

variable {reached : Account τ σ → Prop} {task : Task τ} {t t' : Account τ σ}
  {r : Except Fault Unit}

/-- Diagnostics are ended before their end only by a fault that nothing may deal with. -/
theorem end_of_diagnose (h : Does site task t r t') {diagnostics : List (Step τ)}
    (diagnoses : task = .diagnose diagnostics) {f : Fault} (ended : r = .error f) :
    f.isOrdinary = false := by
  induction h generalizing diagnostics with
  | diagnoseEnd t => cases ended
  | diagnoseNext done goesOn others _ ih => exact ih rfl ended
  | diagnoseStop failed strange _ =>
    cases ended
    exact strange
  | _ => cases diagnoses

/-- What a task does that ends well, or with an ordinary fault, is a clearing. -/
theorem clearing (h : Does site task t r t') (spares : task.Spares names)
    (spared : t.Spared names) (calm : tolerable r = true) (single : ∀ steps, task ≠ .session steps)
    (reach : ∀ u, ReachedFrom site .drain u task t → reached u) :
    ∃ deleted, Clearing site names reached t deleted t' := by
  -- what ends with a strange fault is no calm end, so only the calm rules are left to look at
  induction h with
  | alone alone ran kept => exact ⟨[], .of_interlude (.of_alone kept spares alone ran)⟩
  | defer step t =>
    have inside : step.Spares names := spares
    exact ⟨[], .of_interlude (.putOff inside)⟩
  | newTestNamespace created kept =>
    exact ⟨[], .of_interlude (.of_newTestNamespace kept created _ trivial)⟩
  | noTestNamespace failed kept =>
    exact ⟨[], .of_interlude (.of_noTestNamespace kept failed)⟩
  | cleaned drained ih =>
    obtain ⟨deleted, clearing⟩ :=
      ih trivial spared rfl (fun _ => nofun) fun u later => reach u (.cleanup later)
    exact ⟨_, clearing.trans (.of_interlude .cleaned)⟩
  | brokenOff stopped ih =>
    have strange := (stopped.end_of_drain rfl).2 _ rfl
    exact absurd (strange.symm.trans calm) nofun
  | passed done ih =>
    exact ih spares.1 spared rfl (fun _ => nofun) fun u later => reach u (.body later)
  | @diagnosed body diagnostics t t₁ t' f failed told first second =>
    obtain ⟨deleted, clearing⟩ :=
      first spares.1 spared calm (fun _ => nofun) fun u later => reach u (.body later)
    obtain ⟨deleted', clearing'⟩ := second spares.2 (clearing.spared spared) rfl (fun _ => nofun)
      fun u later => reach u (.diagnostics failed later)
    exact ⟨_, clearing.trans (.passing (.failing _) clearing')⟩
  | undiagnosed failed stopped first second =>
    have strange := stopped.end_of_diagnose rfl rfl
    exact absurd (strange.symm.trans calm) nofun
  | nothingLeft nothing => exact ⟨[], .done _⟩
  | @next t t₁ t' number step rest r₁ r last done goesOn others first second =>
    have later := fun u later => reach u (.others last done goesOn later)
    have waits := spared.waits last
    have left := spared.begun last
    -- a step that deletes no test namespace is one of those that spare them all
    cases which : step.testNamespace? with
    | none =>
      have plain : step.Spares names := by
        rw [which] at waits
        exact waits.resolve_left nofun
      obtain ⟨deleted, clearing⟩ := first plain left goesOn (fun _ => nofun)
        fun u later => reach u (.next last later)
      obtain ⟨deleted', clearing'⟩ :=
        second trivial (clearing.spared left) calm (fun _ => nofun) later
      have warned := Clearing.passing (.warned t₁ _ _) clearing'
      exact ⟨_, .passing (.begun last which) (clearing.trans warned)⟩
    | some name =>
      obtain rfl := Step.eq_of_testNamespace? which
      cases done with
      | @alone step t r w alone ran kept =>
        obtain ⟨reached, remarks, outcome, looked, deletion⟩ := Step.deletion_of_exec ran goesOn
        obtain ⟨deleted', clearing'⟩ := second trivial left calm (fun _ => nofun) later
        have turn := Turn.intro last reached deletion kept
        exact ⟨_, .deleted (reach _ .here) turn (.passing (.warned _ _ _) clearing')⟩
  | stopped last failed strange ih => exact absurd (strange.symm.trans calm) nofun
  | sequenceEnd t => exact ⟨[], .done _⟩
  | sequenceNext done others first second =>
    obtain ⟨deleted, clearing⟩ :=
      first spares.1 spared rfl (fun _ => nofun) fun u later => reach u (.sequenceFirst later)
    obtain ⟨deleted', clearing'⟩ := second spares.2 (clearing.spared spared) calm (fun _ => nofun)
      fun u later => reach u (.sequenceNext done later)
    exact ⟨_, clearing.trans clearing'⟩
  | sequenceStop failed ih =>
    exact ih spares.1 spared calm (fun _ => nofun) fun u later => reach u (.sequenceFirst later)
  | diagnoseEnd t => exact ⟨[], .done _⟩
  | @diagnoseNext step rest t t₁ t' r₁ r done goesOn others first second =>
    obtain ⟨deleted, clearing⟩ :=
      first spares.1 spared goesOn (fun _ => nofun) fun u later => reach u (.diagnoseFirst later)
    obtain ⟨deleted', clearing'⟩ := second spares.2 (clearing.spared spared) calm (fun _ => nofun)
      fun u later => reach u (.diagnoseNext done goesOn later)
    exact ⟨_, clearing.trans (.passing (.warned _ _ _) clearing')⟩
  | diagnoseStop failed strange ih => exact absurd (strange.symm.trans calm) nofun
  | sessionEnd t => exact absurd rfl (single _)
  | sessionNext done others first second => exact absurd rfl (single _)

end Does

/-! ## What a clearing comes to -/

namespace Clearing

variable {reached : Account τ σ → Prop} {t t' : Account τ σ} {deleted : List Json}

/-- If nothing is left, then all that was put off before is deleted, from the last one on. -/
theorem order (clearing : Clearing site names reached t deleted t') (nothing : t'.namespaces = []) :
    t.namespaces.Sublist deleted := by
  induction clearing with
  | done t => exact List.sublist_nil.mpr nothing
  | passing interlude others ih =>
    obtain ⟨new, pending, -⟩ := interlude.exists_new
    have before := ih nothing
    rw [pending] at before
    exact (List.sublist_append_right new _).trans before
  | deleted now turn others ih =>
    rw [turn.namespaces]
    exact (ih nothing).cons_cons _

/-- There is a moment for each deletion. -/
theorem split {name : Json} (clearing : Clearing site names reached t deleted t')
    (member : name ∈ deleted) : ∃ before after u v, deleted = before ++ name :: after ∧
      Clearing site names reached t before u ∧ reached u ∧ Turn site name u v ∧
      Clearing site names reached v after t' := by
  induction clearing with
  | done t => cases member
  | passing interlude others ih =>
    obtain ⟨before, after, u, v, same, first, now, turn, second⟩ := ih member
    exact ⟨before, after, u, v, same, .passing interlude first, now, turn, second⟩
  | deleted now turn others ih =>
    rcases List.mem_cons.mp member with rfl | member
    · exact ⟨[], _, _, _, rfl, .done _, now, turn, others⟩
    · obtain ⟨before, after, u, v, same, first, now', turn', second⟩ := ih member
      exact ⟨_ :: before, after, u, v, congrArg (_ :: ·) same, .deleted now turn first, now', turn',
        second⟩

end Clearing

end TrialRun
