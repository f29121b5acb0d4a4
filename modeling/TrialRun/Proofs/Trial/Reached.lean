import TrialRun.Proofs.Trial.Deferral

/-!
# What is done in the course of a task

A task consists of others: a step may lead to steps that are in it or were put off before, and a
session does one step after the other.  A task is *reached* from another one if it is a part of it
and everything before it has come to the account in which it is done (`ReachedFrom`).

What a trial does is determined by the task and the account (`Does.unique`).  So whatever is reached
from a task is done when the task is, and what is told of it stays told (`ReachedFrom.does`).  And
what is kept by every step is kept at all that is reached (`Lenient.reached`).
-/

set_option autoImplicit false

namespace TrialRun

variable {τ σ : Type} [Timescale τ] {site : Site τ σ}

/-- What a trial does is determined: a task leads from an account to one other, and ends in one
way. -/
theorem Does.unique {task : Task τ} {t t₁ t₂ : Account τ σ} {r₁ r₂ : Except Fault Unit}
    (h : Does site task t r₁ t₁) (other : Does site task t r₂ t₂) : r₂ = r₁ ∧ t₂ = t₁ := by
  -- one case for each rule; another rule for the same task would need a part to end in another way
  induction h generalizing r₂ t₂ with
  | alone alone ran kept =>
    cases other with
    | alone alone' ran' kept' =>
      obtain ⟨rfl, rfl⟩ := Prod.mk.inj (ran.symm.trans ran')
      exact ⟨rfl, rfl⟩
    | _ => exact alone.elim
  | defer step t =>
    cases other with
    | alone alone ran kept => exact alone.elim
    | defer => exact ⟨rfl, rfl⟩
  | newTestNamespace created kept =>
    cases other with
    | alone alone ran kept => exact alone.elim
    | newTestNamespace created' kept' =>
      cases created.symm.trans created'
      exact ⟨rfl, rfl⟩
    | noTestNamespace failed kept' => cases created.symm.trans failed
  | noTestNamespace failed kept =>
    cases other with
    | alone alone ran kept => exact alone.elim
    | newTestNamespace created kept' => cases failed.symm.trans created
    | noTestNamespace failed' kept' =>
      cases failed.symm.trans failed'
      exact ⟨rfl, rfl⟩
  | cleaned drained ih =>
    cases other with
    | alone alone ran kept => exact alone.elim
    | cleaned drained' =>
      obtain ⟨-, rfl⟩ := ih drained'
      exact ⟨rfl, rfl⟩
    | brokenOff stopped => exact nomatch (ih stopped).1
  | brokenOff stopped ih =>
    cases other with
    | alone alone ran kept => exact alone.elim
    | cleaned drained => exact nomatch (ih drained).1
    | brokenOff stopped' =>
      obtain ⟨same, rfl⟩ := ih stopped'
      cases same
      exact ⟨rfl, rfl⟩
  | passed done ih =>
    cases other with
    | alone alone ran kept => exact alone.elim
    | passed done' => exact ih done'
    | diagnosed failed told => exact nomatch (ih failed).1
    | undiagnosed failed stopped => exact nomatch (ih failed).1
  | diagnosed failed told first second =>
    cases other with
    | alone alone ran kept => exact alone.elim
    | passed done => exact nomatch (first done).1
    | diagnosed failed' told' =>
      obtain ⟨same, rfl⟩ := first failed'
      cases same
      exact ⟨rfl, (second told').2⟩
    | undiagnosed failed' stopped =>
      obtain ⟨-, rfl⟩ := first failed'
      exact nomatch (second stopped).1
  | undiagnosed failed stopped first second =>
    cases other with
    | alone alone ran kept => exact alone.elim
    | passed done => exact nomatch (first done).1
    | diagnosed failed' told =>
      obtain ⟨-, rfl⟩ := first failed'
      exact nomatch (second told).1
    | undiagnosed failed' stopped' =>
      obtain ⟨-, rfl⟩ := first failed'
      exact second stopped'
  | nothingLeft nothing =>
    cases other with
    | nothingLeft => exact ⟨rfl, rfl⟩
    | next last _ _ _ => cases nothing.symm.trans last
    | stopped last _ _ => cases nothing.symm.trans last
  | next last done goesOn others first second =>
    cases other with
    | nothingLeft nothing => cases last.symm.trans nothing
    | next last' done' goesOn' others' =>
      cases last.symm.trans last'
      obtain ⟨rfl, rfl⟩ := first done'
      exact second others'
    | stopped last' failed strange =>
      cases last.symm.trans last'
      obtain ⟨rfl, rfl⟩ := first failed
      exact absurd (strange.symm.trans goesOn) nofun
  | stopped last failed strange ih =>
    cases other with
    | nothingLeft nothing => cases last.symm.trans nothing
    | next last' done goesOn others =>
      cases last.symm.trans last'
      obtain ⟨rfl, rfl⟩ := ih done
      exact absurd (strange.symm.trans goesOn) nofun
    | stopped last' failed' strange' =>
      cases last.symm.trans last'
      exact ih failed'
  | sequenceEnd t =>
    cases other
    exact ⟨rfl, rfl⟩
  | sequenceNext done others first second =>
    cases other with
    | sequenceNext done' others' =>
      obtain ⟨-, rfl⟩ := first done'
      exact second others'
    | sequenceStop failed => exact nomatch (first failed).1
  | sequenceStop failed ih =>
    cases other with
    | sequenceNext done others => exact nomatch (ih done).1
    | sequenceStop failed' => exact ih failed'
  | diagnoseEnd t =>
    cases other
    exact ⟨rfl, rfl⟩
  | diagnoseNext done goesOn others first second =>
    cases other with
    | diagnoseNext done' goesOn' others' =>
      obtain ⟨rfl, rfl⟩ := first done'
      exact second others'
    | diagnoseStop failed strange =>
      obtain ⟨rfl, rfl⟩ := first failed
      exact absurd (strange.symm.trans goesOn) nofun
  | diagnoseStop failed strange ih =>
    cases other with
    | diagnoseNext done goesOn others =>
      obtain ⟨rfl, rfl⟩ := ih done
      exact absurd (strange.symm.trans goesOn) nofun
    | diagnoseStop failed' strange' => exact ih failed'
  | sessionEnd t =>
    cases other
    exact ⟨rfl, rfl⟩
  | sessionNext done others first second =>
    cases other with
    | sessionNext done' others' =>
      obtain ⟨-, rfl⟩ := first done'
      exact second others'

/-- A task is done from an account in the course of another one: it is this one itself, or a part
of it, and the parts before it have come to this account. -/
inductive ReachedFrom (site : Site τ σ) (goal : Task τ) (u : Account τ σ) :
    Task τ → Account τ σ → Prop where
  | here : ReachedFrom site goal u goal u
  | cleanup {t : Account τ σ} (later : ReachedFrom site goal u .drain t) :
      ReachedFrom site goal u (.step .cleanup) t
  | body {body diagnostics : List (Step τ)} {t : Account τ σ}
      (later : ReachedFrom site goal u (.sequence body) t) :
      ReachedFrom site goal u (.step (.onFailure body diagnostics)) t
  | diagnostics {body diagnostics : List (Step τ)} {t t₁ : Account τ σ} {f : Fault}
      (failed : Does site (.sequence body) t (.error f) t₁)
      (later : ReachedFrom site goal u (.diagnose diagnostics) t₁.failing) :
      ReachedFrom site goal u (.step (.onFailure body diagnostics)) t
  | next {t : Account τ σ} {number : Nat} {step : Step τ} {rest : List (Nat × Step τ)}
      (last : t.pending = (number, step) :: rest)
      (later : ReachedFrom site goal u (.step step) (t.begun number step rest)) :
      ReachedFrom site goal u .drain t
  | others {t t₁ : Account τ σ} {number : Nat} {step : Step τ} {rest : List (Nat × Step τ)}
      {r : Except Fault Unit} (last : t.pending = (number, step) :: rest)
      (done : Does site (.step step) (t.begun number step rest) r t₁)
      (goesOn : tolerable r = true)
      (later : ReachedFrom site goal u .drain (t₁.warned "Cleanup of test " r)) :
      ReachedFrom site goal u .drain t
  | sequenceFirst {step : Step τ} {rest : List (Step τ)} {t : Account τ σ}
      (later : ReachedFrom site goal u (.step step) t) :
      ReachedFrom site goal u (.sequence (step :: rest)) t
  | sequenceNext {step : Step τ} {rest : List (Step τ)} {t t₁ : Account τ σ}
      (done : Does site (.step step) t (.ok ()) t₁)
      (later : ReachedFrom site goal u (.sequence rest) t₁) :
      ReachedFrom site goal u (.sequence (step :: rest)) t
  | diagnoseFirst {step : Step τ} {rest : List (Step τ)} {t : Account τ σ}
      (later : ReachedFrom site goal u (.step step) t) :
      ReachedFrom site goal u (.diagnose (step :: rest)) t
  | diagnoseNext {step : Step τ} {rest : List (Step τ)} {t t₁ : Account τ σ}
      {r : Except Fault Unit} (done : Does site (.step step) t r t₁) (goesOn : tolerable r = true)
      (later : ReachedFrom site goal u (.diagnose rest)
        (t₁.warned "Troubleshooting of test " r)) :
      ReachedFrom site goal u (.diagnose (step :: rest)) t
  | sessionFirst {step : Step τ} {rest : List (Step τ)} {t : Account τ σ}
      (later : ReachedFrom site goal u (.step step) t) :
      ReachedFrom site goal u (.session (step :: rest)) t
  | sessionNext {step : Step τ} {rest : List (Step τ)} {t t₁ : Account τ σ}
      {r : Except Fault Unit} (done : Does site (.step step) t r t₁)
      (later : ReachedFrom site goal u (.session rest) t₁) :
      ReachedFrom site goal u (.session (step :: rest)) t

/-- The task was done from an account, and what is told of it is still told. -/
def WasDone (site : Site τ σ) (goal : Task τ) (u t' : Account τ σ) : Prop :=
  ∃ r u', Does site goal u r u' ∧ u'.story <:+ t'.story

theorem WasDone.later {goal : Task τ} {u t t' : Account τ σ} (h : WasDone site goal u t)
    (told : t.story <:+ t'.story) : WasDone site goal u t' := by
  obtain ⟨r, u', done, before⟩ := h
  exact ⟨r, u', done, before.trans told⟩

/-- What is reached from a task is done with it, and nothing takes back what is told of it. -/
theorem ReachedFrom.does {goal task : Task τ} {u t t' : Account τ σ} {r : Except Fault Unit}
    (h : ReachedFrom site goal u task t) (does : Does site task t r t') :
    WasDone site goal u t' := by
  -- what is done before the part on the way to the goal is done alike in both, since it is
  -- determined
  induction h generalizing r t' with
  | here => exact ⟨r, t', does, List.suffix_rfl⟩
  | cleanup later ih =>
    cases does with
    | alone alone ran kept => exact alone.elim
    | cleaned drained => exact (ih drained).later (List.suffix_cons _ _)
    | brokenOff stopped => exact (ih stopped).later (List.suffix_cons _ _)
  | body later ih =>
    cases does with
    | alone alone ran kept => exact alone.elim
    | passed done => exact ih done
    | diagnosed failed looked => exact (ih failed).later looked.story_suffix
    | undiagnosed failed stopped => exact (ih failed).later stopped.story_suffix
  | diagnostics failed later ih =>
    cases does with
    | alone alone ran kept => exact alone.elim
    | passed done => exact nomatch (failed.unique done).1
    | diagnosed failed' looked =>
      obtain ⟨-, rfl⟩ := failed.unique failed'
      exact ih looked
    | undiagnosed failed' stopped =>
      obtain ⟨-, rfl⟩ := failed.unique failed'
      exact ih stopped
  | next last later ih =>
    cases does with
    | nothingLeft nothing => cases last.symm.trans nothing
    | next last' done goesOn others =>
      cases last.symm.trans last'
      exact (ih done).later others.story_suffix
    | stopped last' failed strange =>
      cases last.symm.trans last'
      exact ih failed
  | others last done goesOn later ih =>
    cases does with
    | nothingLeft nothing => cases last.symm.trans nothing
    | next last' done' goesOn' others =>
      cases last.symm.trans last'
      obtain ⟨rfl, rfl⟩ := done.unique done'
      exact ih others
    | stopped last' failed strange =>
      cases last.symm.trans last'
      obtain ⟨rfl, rfl⟩ := done.unique failed
      exact absurd (strange.symm.trans goesOn) nofun
  | sequenceFirst later ih =>
    cases does with
    | sequenceNext done others => exact (ih done).later others.story_suffix
    | sequenceStop failed => exact ih failed
  | sequenceNext done later ih =>
    cases does with
    | sequenceNext done' others =>
      obtain ⟨-, rfl⟩ := done.unique done'
      exact ih others
    | sequenceStop failed => exact nomatch (done.unique failed).1
  | diagnoseFirst later ih =>
    cases does with
    | diagnoseNext done goesOn others => exact (ih done).later others.story_suffix
    | diagnoseStop failed strange => exact ih failed
  | diagnoseNext done goesOn later ih =>
    cases does with
    | diagnoseNext done' goesOn' others =>
      obtain ⟨rfl, rfl⟩ := done.unique done'
      exact ih others
    | diagnoseStop failed strange =>
      obtain ⟨rfl, rfl⟩ := done.unique failed
      exact absurd (strange.symm.trans goesOn) nofun
  | sessionFirst later ih =>
    cases does with
    | sessionNext done others => exact (ih done).later others.story_suffix
  | sessionNext done later ih =>
    cases does with
    | sessionNext done' others =>
      obtain ⟨-, rfl⟩ := done.unique done'
      exact ih others

/-! ## What is kept -/

namespace Lenient

variable {R : World τ σ → World τ σ → Prop} (h : Lenient R)

include h

omit [Timescale τ] in
theorem warned (w : World τ σ) (beginning : String) (ended : Except Fault Unit) :
    R w (w.warned beginning ended) := by
  cases ended with
  | ok _ => exact h.refl w
  | error f => exact h.events _ w

/-- Whatever a trial does leads along a lenient relation. -/
theorem does {task : Task τ} {t t' : Account τ σ} {r : Except Fault Unit}
    (does : Does site task t r t') : R t.world t'.world := by
  induction does with
  | @alone step t r w alone ran kept =>
    have moved := h.exec 1 step site t.world
    rw [ran] at moved
    exact moved
  | defer step t => exact h.defer step site t.world
  | @newTestNamespace name t made w created kept =>
    have moved := h.createNamespace name site t.world
    rw [created] at moved
    exact h.trans moved (h.trans (h.events _ _) (h.pending _ _))
  | @noTestNamespace name t f w failed kept =>
    have moved := h.createNamespace name site t.world
    rw [failed] at moved
    exact moved
  | cleaned _ ih => exact ih
  | brokenOff _ ih => exact ih
  | passed _ ih => exact ih
  | diagnosed _ _ first second => exact h.trans first (h.trans (h.failed _) second)
  | undiagnosed _ _ first second => exact h.trans first (h.trans (h.failed _) second)
  | nothingLeft _ => exact h.refl _
  | next _ _ _ _ first second =>
    exact h.trans (h.pending _ _) (h.trans first (h.trans (h.warned _ _ _) second))
  | stopped _ _ _ ih => exact h.trans (h.pending _ _) ih
  | sequenceEnd t => exact h.refl _
  | sequenceNext _ _ first second => exact h.trans first second
  | sequenceStop _ ih => exact ih
  | diagnoseEnd t => exact h.refl _
  | diagnoseNext _ _ _ first second => exact h.trans first (h.trans (h.warned _ _ _) second)
  | diagnoseStop _ _ ih => exact ih
  | sessionEnd t => exact h.refl _
  | sessionNext _ _ first second => exact h.trans first second

/-- Whatever is reached in the course of a task is reached along a lenient relation. -/
theorem reached {goal task : Task τ} {u t : Account τ σ}
    (reached : ReachedFrom site goal u task t) : R t.world u.world := by
  induction reached with
  | here => exact h.refl _
  | cleanup _ ih => exact ih
  | body _ ih => exact ih
  | diagnostics failed _ ih => exact h.trans (h.does failed) (h.trans (h.failed _) ih)
  | next _ _ ih => exact h.trans (h.pending _ _) ih
  | @others t t₁ number step rest r last done goesOn later ih =>
    have begun : R t.world (t.begun number step rest).world := h.pending _ _
    exact h.trans begun (h.trans (h.does done) (h.trans (h.warned _ _ _) ih))
  | sequenceFirst _ ih => exact ih
  | sequenceNext done _ ih => exact h.trans (h.does done) ih
  | diagnoseFirst _ ih => exact ih
  | diagnoseNext done _ _ ih => exact h.trans (h.does done) (h.trans (h.warned _ _ _) ih)
  | sessionFirst _ ih => exact ih
  | sessionNext done _ ih => exact h.trans (h.does done) ih

theorem answers (steps : List (Step τ)) : (Trial.answers steps : Act τ σ _).Moves R := by
  induction steps with
  | nil => exact h.pure []
  | cons step rest ih =>
    have run : (step.run : Act τ σ Json).Moves R := h.bind h.trial fun _ => h.exec _ _
    exact h.bind (Calm.attempt run) fun _ => h.bind ih fun _ => h.pure _

/-- A session keeps what its steps keep, whether they fail or not. -/
theorem session (steps : List (Step τ)) : (Trial.session steps : Act τ σ Unit).Moves R :=
  h.bind (h.answers steps) fun _ => h.pure ()

end Lenient

end TrialRun
