import TrialRun.Proofs.Trial.Rules

/-!
# Guarded bodies

A guarded body is one with diagnostics for the case that it fails.  Guards may be nested, and
between them something may be done before and after what is inside (`Guard`, `guarded`).

If what is innermost fails, its fault is the one that leaves all guards, whatever goes wrong with
the diagnostics: these are done guard by guard, from the innermost one to the outermost one, each
once and in order, and the trial has failed before the first of them (`Handled`).  If nothing
fails, the guards do nothing.  And nothing that a trial does takes back that it has failed.
-/

set_option autoImplicit false

namespace TrialRun

variable {τ σ α : Type}

/-! ## Diagnostics -/

/-- Diagnostics are done one after the other, each once; an ordinary fault of one is logged. -/
inductive Diagnosed (site : Site τ σ) :
    List (Act τ σ Unit) → World τ σ → World τ σ → Prop where
  | none (w : World τ σ) : Diagnosed site [] w w
  | next {diagnostic : Act τ σ Unit} {rest : List (Act τ σ Unit)} {w w₁ w' : World τ σ}
      {r : Except Fault Unit} (done : diagnostic.run site w = (r, w₁))
      (goesOn : tolerable r = true)
      (others : Diagnosed site rest (w₁.warned "Troubleshooting of test " r) w') :
      Diagnosed site (diagnostic :: rest) w w'

/-- The act ends well, or with an ordinary fault. -/
def Act.IsHarmless (site : Site τ σ) (a : Act τ σ α) : Prop :=
  ∀ w f, (a.run site w).1 = .error f → f.isOrdinary = true

/-- Harmless diagnostics are all done, in their order, and their faults are only logged. -/
theorem Trial.run_diagnostics {site : Site τ σ} {diagnostics : List (Act τ σ Unit)}
    (harmless : ∀ diagnostic ∈ diagnostics, diagnostic.IsHarmless site) (w : World τ σ) :
    ∃ w', Diagnosed site diagnostics w w' ∧
      (Act.forEach Trial.diagnose diagnostics).run site w = (.ok (), w') := by
  induction diagnostics generalizing w with
  | nil => exact ⟨w, .none w, rfl⟩
  | cons diagnostic rest ih =>
    rcases done : diagnostic.run site w with ⟨r, w₁⟩
    have goesOn : tolerable r = true := by
      cases r with
      | ok _ => rfl
      | error f =>
        apply harmless diagnostic List.mem_cons_self w f
        rw [done]
    have harmless := fun other member => harmless other (List.mem_cons_of_mem _ member)
    obtain ⟨w', others, ran⟩ := ih harmless (w₁.warned "Troubleshooting of test " r)
    refine ⟨w', .next done goesOn others, ?_⟩
    rw [Act.forEach, Act.run_bind, Trial.run_diagnose, done, if_pos goesOn]
    exact ran

/-! ## Nested guards -/

/-- A guard, with what is done in it before and after what is inside. -/
structure Guard (τ σ : Type) where
  diagnostics : List (Act τ σ Unit)
  before : Act τ σ Unit := pure ()
  after : Act τ σ Unit := pure ()

/-- A body in guards, of which the outermost stands first. -/
def guarded : List (Guard τ σ) → Act τ σ α → Act τ σ α
  | [], body => body
  | g :: inner, body => Trial.onFailure g.diagnostics do
    g.before
    let v ← guarded inner body
    g.after
    pure v

/-- The same without any diagnostics. -/
def unguarded : List (Guard τ σ) → Act τ σ α → Act τ σ α
  | [], body => body
  | g :: inner, body => do
    g.before
    let v ← unguarded inner body
    g.after
    pure v

/-- What is done in the guards before the body ends well. -/
def Entered (site : Site τ σ) : List (Guard τ σ) → World τ σ → World τ σ → Prop
  | [], w, w' => w' = w
  | g :: inner, w, w' => ∃ w₁, g.before.run site w = (.ok (), w₁) ∧ Entered site inner w₁ w'

/-- A fault passes the guards, from the innermost one to the outermost one: at each of them the
trial has failed, and then its diagnostics are done. -/
def Handled (site : Site τ σ) : List (Guard τ σ) → World τ σ → World τ σ → Prop
  | [], w, w' => w' = w
  | g :: inner, w, w' => ∃ w₁, Handled site inner w w₁ ∧
    Diagnosed site g.diagnostics (w₁.noted fun own => { own with failed := true }) w'

variable {site : Site τ σ} {guards : List (Guard τ σ)} {body : Act τ σ α}

/-- The fault of the body leaves all guards, once the diagnostics are done. -/
theorem run_guarded_of_error {e : Fault} {w w₁ w₂ : World τ σ}
    (harmless : ∀ g ∈ guards, ∀ diagnostic ∈ g.diagnostics, diagnostic.IsHarmless site)
    (entered : Entered site guards w w₁) (failed : body.run site w₁ = (.error e, w₂)) :
    ∃ w', Handled site guards w₂ w' ∧ (guarded guards body).run site w = (.error e, w') := by
  induction guards generalizing w with
  | nil =>
    obtain rfl : w₁ = w := entered
    exact ⟨w₂, rfl, failed⟩
  | cons g inner ih =>
    obtain ⟨w₀, before, entered⟩ := entered
    obtain ⟨w₃, handled, left⟩ :=
      ih (fun other member => harmless other (List.mem_cons_of_mem _ member)) entered
    obtain ⟨w', diagnosed, told⟩ := Trial.run_diagnostics (harmless g List.mem_cons_self)
      (w₃.noted fun own => { own with failed := true })
    refine ⟨w', ⟨w₃, handled, diagnosed⟩, ?_⟩
    have inside : (do
        g.before
        let v ← guarded inner body
        g.after
        pure v : Act τ σ α).run site w = (.error e, w₃) := by
      rw [Act.run_bind_of_ok _ before, Act.run_bind, left]
    rw [guarded, Trial.run_onFailure_of_error inside told]
    rfl

/-- If nothing fails, the guards do nothing. -/
theorem run_guarded_of_ok {v : α} {w w' : World τ σ}
    (done : (unguarded guards body).run site w = (.ok v, w')) :
    (guarded guards body).run site w = (.ok v, w') := by
  induction guards generalizing w w' v with
  | nil => exact done
  | cons g inner ih =>
    obtain ⟨_, w₁, before, rest⟩ := Act.ok_of_run_bind done
    obtain ⟨u, w₂, inside, after⟩ := Act.ok_of_run_bind rest
    refine Trial.run_onFailure_of_ok ?_
    rw [Act.run_bind_of_ok _ before, Act.run_bind_of_ok _ (ih inside)]
    exact after

/-! ## Failure -/

namespace Step

mutual

/-- The step does not take back by itself that the trial has failed, nor do the steps in it. -/
def KeepsFailure : Step τ → Prop
  | .setFailed failed => failed = true
  | .defer step => step.KeepsFailure
  | .onFailure body diagnostics => AllKeepFailure body ∧ AllKeepFailure diagnostics
  | _ => True

def AllKeepFailure : List (Step τ) → Prop
  | [] => True
  | step :: rest => step.KeepsFailure ∧ AllKeepFailure rest

end

end Step

/-- No step of the task takes back that the trial has failed. -/
def Task.KeepsFailure : Task τ → Prop
  | .step s => s.KeepsFailure
  | .drain => True
  | .sequence steps | .diagnose steps | .session steps => Step.AllKeepFailure steps

/-- What does not take back that the trial has failed may do everything else. -/
theorem tolerant_keepsFailure : Tolerant fun w w' : World τ σ =>
    w.trial.failed = true → w'.trial.failed = true where
  refl _ := id
  trans first second failed := second (first failed)
  clock _ _ := id
  outside _ _ := id
  passing _ _ _ := id
  volume _ _ _ := id
  directory _ _ _ := id
  wrote _ _ _ := id
  failed _ _ := rfl
  events _ _ := id
  name _ _ := id
  pollingInterval _ _ := id
  dashboard _ _ := id

/-- From one account to another, the trial stays failed once it has failed, and nothing is put off
that would take this back, if nothing was before. -/
def Account.KeepsFailure (t t' : Account τ σ) : Prop :=
  Step.AllKeepFailure t.world.trial.pending →
    (t.world.trial.failed = true → t'.world.trial.failed = true) ∧
      Step.AllKeepFailure t'.world.trial.pending

namespace Account.KeepsFailure

variable {t t₁ t' : Account τ σ}

theorem trans (first : t.KeepsFailure t₁) (second : t₁.KeepsFailure t') : t.KeepsFailure t' := by
  intro pending
  obtain ⟨failed, pending⟩ := first pending
  obtain ⟨stays, pending⟩ := second pending
  exact ⟨stays ∘ failed, pending⟩

theorem refl (t : Account τ σ) : t.KeepsFailure t := fun pending => ⟨id, pending⟩

/-- The failure is kept by what keeps it in the world. -/
theorem moved {w : World τ σ} (kept : w.trial.pending = t.world.trial.pending)
    (failed : t.world.trial.failed = true → w.trial.failed = true) :
    t.KeepsFailure (t.moved w kept) := by
  intro pending
  refine ⟨failed, ?_⟩
  change Step.AllKeepFailure w.trial.pending
  rw [kept]
  exact pending

theorem failing (t : Account τ σ) : t.KeepsFailure t.failing :=
  moved (w := t.world.noted fun own => { own with failed := true }) rfl fun _ => rfl

theorem warned (t : Account τ σ) (beginning : String) (ended : Except Fault Unit) :
    t.KeepsFailure (t.warned beginning ended) := by
  apply moved
  rw [World.warned_trial]
  exact id

/-- A step that keeps the failure may be put off. -/
theorem putOff {step : Step τ} (keeps : step.KeepsFailure) : t.KeepsFailure (t.putOff step) :=
  fun pending => ⟨id, keeps, pending⟩

/-- What is begun was put off, so that it takes nothing back either. -/
theorem begun {number : Nat} {step : Step τ} {rest : List (Nat × Step τ)}
    (last : t.pending = (number, step) :: rest)
    (done : step.KeepsFailure → (t.begun number step rest).KeepsFailure t') :
    t.KeepsFailure t' := by
  intro pending
  rw [pending_of_cons last] at pending
  exact done pending.1 pending.2

end Account.KeepsFailure

namespace Does

variable [Timescale τ] {task : Task τ} {t t' : Account τ σ} {r : Except Fault Unit}

open Account (KeepsFailure)

/-- Nothing that is done takes back that the trial has failed, unless a step says so. -/
theorem keepsFailure (h : Does site task t r t') (keeps : task.KeepsFailure) :
    t.KeepsFailure t' := by
  -- the failure is kept by every part; in between a guard notes it and what was put off is begun
  induction h with
  | @alone step t r w alone ran kept =>
    have moved : t.world.trial.failed = true →
        ((step.exec 1).run site t.world).2.trial.failed = true := by
      refine tolerant_keepsFailure.exec_alone alone (fun failed same w _ => ?_) 0 site t.world
      subst same
      exact keeps
    rw [ran] at moved
    exact .moved kept moved
  | defer step t => exact .putOff keeps
  | @newTestNamespace name t made w created kept =>
    have moved := tolerant_keepsFailure.createNamespace name site t.world
    rw [created] at moved
    exact (KeepsFailure.moved kept moved).trans (.putOff trivial)
  | @noTestNamespace name t f w failed kept =>
    have moved := tolerant_keepsFailure.createNamespace name site t.world
    rw [failed] at moved
    exact .moved kept moved
  | cleaned drained ih => exact ih trivial
  | brokenOff stopped ih => exact ih trivial
  | passed done ih => exact ih keeps.1
  | diagnosed failed told first second =>
    exact ((first keeps.1).trans (.failing _)).trans (second keeps.2)
  | undiagnosed failed stopped first second =>
    exact ((first keeps.1).trans (.failing _)).trans (second keeps.2)
  | nothingLeft nothing => exact .refl _
  | next last done goesOn others first second =>
    exact .begun last fun keeps => ((first keeps).trans (.warned _ _ _)).trans (second trivial)
  | stopped last failed strange ih => exact .begun last ih
  | sequenceEnd t => exact .refl _
  | sequenceNext done others first second => exact (first keeps.1).trans (second keeps.2)
  | sequenceStop failed ih => exact ih keeps.1
  | diagnoseEnd t => exact .refl _
  | diagnoseNext done goesOn others first second =>
    exact ((first keeps.1).trans (.warned _ _ _)).trans (second keeps.2)
  | diagnoseStop failed strange ih => exact ih keeps.1
  | sessionEnd t => exact .refl _
  | sessionNext done others first second => exact (first keeps.1).trans (second keeps.2)

end Does

namespace Trial

variable [Timescale τ]

/-- **Guards mask nothing, and a failure is never forgotten.**  If a body in guards fails, its own
fault leaves all of them, once the diagnostics of each guard are done, each once and in order, from
the innermost guard to the outermost one, in a trial that has failed before the first of them.  If
nothing fails, the guards do nothing.  No part of what a trial does, nor any session, takes back
that the trial has failed, unless a step says so. -/
theorem guards_maskNothing (site : Site τ σ) (guards : List (Guard τ σ)) (body : Act τ σ α)
    (w : World τ σ)
    (harmless : ∀ g ∈ guards, ∀ diagnostic ∈ g.diagnostics, diagnostic.IsHarmless site) :
    (∀ w₁ w₂ e, Entered site guards w w₁ → body.run site w₁ = (.error e, w₂) →
      ∃ w', Handled site guards w₂ w' ∧ (guarded guards body).run site w = (.error e, w')) ∧
    (∀ v w', (unguarded guards body).run site w = (.ok v, w') →
      (guarded guards body).run site w = (.ok v, w')) ∧
    (∀ task t r t', Does site task t r t' → task.KeepsFailure → t.KeepsFailure t') ∧
    ∀ steps, Step.AllKeepFailure steps → Step.AllKeepFailure w.trial.pending →
      w.trial.failed = true → ((session steps).run site w).2.trial.failed = true := by
  refine ⟨fun w₁ w₂ e => run_guarded_of_error harmless, fun v w' => run_guarded_of_ok,
    fun task t r t' does => does.keepsFailure, fun steps keep pending failed => ?_⟩
  obtain ⟨t, does, ran⟩ := does_session site (Account.start w) steps
  have stays := (does.keepsFailure keep pending).1 failed
  change (session steps).run site w = _ at ran
  rw [ran]
  exact stays

/-- A guard with a diagnostic that fails and one that is itself guarded, in another guard. -/
def watchfulGuards : List (Guard Number Unit) :=
  [{ diagnostics := [Act.record (.marked "outer")]
     before := Act.record (.marked "entered") },
    { diagnostics :=
        [Act.fail (.plain .general "no cluster"),
          onFailure [Act.record (.marked "inner")] (Act.fail (.plain .general "no pods"))] }]

theorem guards_maskNothing_watchful :
    (∀ g ∈ watchfulGuards, ∀ diagnostic ∈ g.diagnostics,
      diagnostic.IsHarmless Cluster.silentSite) ∧
      ((guarded watchfulGuards (Act.fail (.plain .interrupt "") : Act Number Unit Unit)).run
        Cluster.silentSite Cluster.silentWorld).1 = .error (.plain .interrupt "") ∧
      (guarded watchfulGuards (pure ())).run Cluster.silentSite Cluster.silentWorld =
        (.ok (), Cluster.silentWorld.recorded (.marked "entered")) ∧
      ((session [.onFailure [.raise (.plain .exit "")] [.cleanup], .cleanup]).run
        Cluster.silentSite (Cluster.silentWorld.noted fun own => { own with failed := true })
        ).2.trial.failed = true := by
  have harmless : ∀ g ∈ watchfulGuards, ∀ diagnostic ∈ g.diagnostics,
      diagnostic.IsHarmless Cluster.silentSite := by
    simp only [watchfulGuards, List.forall_mem_cons, List.not_mem_nil, false_implies, implies_true,
      and_true]
    refine ⟨fun w f told => ?_, fun w f told => ?_, fun w f told => ?_⟩
    · cases told
    · cases told
      rfl
    · cases told
      rfl
  obtain ⟨masked, -⟩ := guards_maskNothing Cluster.silentSite watchfulGuards
    (Act.fail (.plain .interrupt "") : Act Number Unit Unit) Cluster.silentWorld harmless
  obtain ⟨w', -, ran⟩ := masked _ _ _ ⟨_, rfl, _, rfl, rfl⟩ rfl
  obtain ⟨-, idle, -⟩ := guards_maskNothing Cluster.silentSite watchfulGuards
    (pure () : Act Number Unit Unit) Cluster.silentWorld harmless
  obtain ⟨-, -, -, stays⟩ := guards_maskNothing Cluster.silentSite watchfulGuards
    (pure () : Act Number Unit Unit)
    (Cluster.silentWorld.noted fun own => { own with failed := true }) harmless
  refine ⟨harmless, congrArg Prod.fst ran, idle _ _ rfl, ?_⟩
  exact stays _ ⟨⟨⟨trivial, trivial⟩, trivial, trivial⟩, trivial, trivial⟩ trivial rfl

end Trial

end TrialRun
