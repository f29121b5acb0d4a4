import Mathlib.Data.List.Nodup
import TrialRun.Proofs.Trial.Clearing

/-!
# Cleaning up test namespaces

A session that does not clean up puts off the deletion of every test namespace that it makes, and
begins none (`Account.IsPrepared`).  The cleanup behind it is a clearing (`Does.clearing`), and if
it returns, nothing is left; so every deletion has had its turn, the last one first.

That each of them is the only one of its namespace has two premises: the names are different, and no
step deletes a namespace under one of them.  The names of test namespaces are the server's choice,
and it has said of each that a namespace was created under it (`Account.IsCertified`).
-/

set_option autoImplicit false

namespace TrialRun

variable {τ σ : Type} [Timescale τ] {site : Site τ σ} {names : Json → Prop}

/-- The server has said of each test namespace that it was created, in the order of the story. -/
def Account.IsCertified (t : Account τ σ) : Prop :=
  ((Deferral.namespaces t.story).map Target.ofNamespace).Sublist
    (t.world.record.filterMap Event.created?)

namespace Account.IsCertified

variable {t t' : Account τ σ} (h : t.IsCertified)

include h

omit [Timescale τ]

/-- The certificate stays as the record grows, as long as no namespace is put off. -/
theorem grown (grown : t.world.Grown t'.world)
    (same : Deferral.namespaces t'.story = Deferral.namespaces t.story) : t'.IsCertified := by
  obtain ⟨es, record, -⟩ := grown
  rw [IsCertified, same, record, List.filterMap_append]
  exact h.trans (List.sublist_append_right _ _)

/-- To put off any other step needs no certificate. -/
theorem putOff {step : Step τ} (other : step.testNamespace? = none) :
    (t.putOff step).IsCertified := by
  refine h.grown (everyday_grown.refl t.world) ?_
  have told := Deferral.namespaces_putOff step t.story
  rw [other] at told
  exact told

/-- A namespace that was just made is certified when its deletion is put off. -/
theorem made {name : Json} {w : World τ σ} (kept : w.trial.pending = t.world.trial.pending)
    (made : t.world.Makes name w) :
    ((t.moved w kept).putOff (.deleteTestNamespace name)).IsCertified := by
  obtain ⟨later, e, earlier, record, created⟩ := made
  have since : ((later ++ e :: (earlier ++ t.world.record)).filterMap Event.created?) =
      later.filterMap Event.created? ++ .ofNamespace name ::
        (earlier.filterMap Event.created? ++ t.world.record.filterMap Event.created?) := by
    rw [List.filterMap_append, List.filterMap_cons_some created, List.filterMap_append]
  change List.Sublist (.ofNamespace name :: (Deferral.namespaces t.story).map Target.ofNamespace)
    (w.record.filterMap Event.created?)
  rw [record, since]
  exact ((h.trans (List.sublist_append_right _ _)).cons_cons _).trans
    (List.sublist_append_right _ _)

end Account.IsCertified

omit [Timescale τ] in
/-- Between two deletions every namespace stays certified. -/
theorem Interlude.certified {t t₁ : Account τ σ} (h : Interlude names t t₁)
    (certified : t.IsCertified) : t₁.IsCertified := by
  cases h with
  | moved kept grown => exact certified.grown grown.grown rfl
  | putOff spares => exact certified.putOff spares.testNamespace?
  | made kept grown made => exact certified.made kept made
  | cleaned => exact certified.grown (everyday_grown.refl _) rfl
  | begun last other => exact certified.grown (everyday_grown.refl _) rfl

/-- A cleanup takes certificates along, whatever it deletes. -/
theorem Clearing.certified {reached : Account τ σ → Prop} {t t' : Account τ σ}
    {deleted : List Json} (clearing : Clearing site names reached t deleted t')
    (certified : t.IsCertified) : t'.IsCertified := by
  induction clearing with
  | done t => exact certified
  | passing interlude others ih => exact ih (interlude.certified certified)
  | deleted now turn others ih =>
    obtain ⟨during, record, -⟩ := turn.record
    exact ih (certified.grown ⟨during, record, fun _ _ => trivial⟩ turn.story)

/-! ## Sessions -/

/-- All test namespaces that were made are still to be deleted, as the server says of each that it
was created; and all else that is put off spares some namespaces. -/
structure Account.IsPrepared (names : Json → Prop) (t : Account τ σ) : Prop where
  namespaces : t.namespaces = Deferral.namespaces t.story
  spared : t.Spared names
  certified : t.IsCertified

omit [Timescale τ] in
theorem Account.IsPrepared.passing {t t₁ : Account τ σ} (h : t.IsPrepared names)
    (interlude : Interlude names t t₁) : t₁.IsPrepared names := by
  refine ⟨?_, interlude.spared h.spared, interlude.certified h.certified⟩
  obtain ⟨new, pending, story⟩ := interlude.exists_new
  rw [pending, story, h.namespaces]

/-- In the course of a task, a test namespace was asked for and created under this name. -/
def MadeIn (site : Site τ σ) (task : Task τ) (t : Account τ σ) (name : Json) : Prop :=
  ∃ asked u made w, ReachedFrom site (.step (.newTestNamespace asked)) u task t ∧
    (Cluster.createNamespace asked).run site u.world = (.ok made, w) ∧ made.metadata.name = name

omit [Timescale τ] in
/-- A story that goes on keeps its namespaces in their places. -/
theorem Deferral.namespaces_suffix {earlier story : List (Deferral τ)} (h : earlier <:+ story) :
    namespaces earlier <:+ namespaces story :=
  (numbered_suffix h).filterMap _

/-- Each test namespace that was made has its place in the story. -/
theorem MadeIn.mem_namespaces {task : Task τ} {t t' : Account τ σ} {r : Except Fault Unit}
    {name : Json} (made : MadeIn site task t name) (does : Does site task t r t') :
    name ∈ Deferral.namespaces t'.story := by
  obtain ⟨asked, u, made, w, reached, created, rfl⟩ := made
  obtain ⟨r₁, u', done, told⟩ := reached.does does
  refine (Deferral.namespaces_suffix told).subset ?_
  cases done with
  | alone alone ran kept => exact alone.elim
  | newTestNamespace created' kept =>
    cases created.symm.trans created'
    exact List.mem_cons_self
  | noTestNamespace failed kept => cases created.symm.trans failed

/-! ## Cleaning up -/

namespace Trial

end Trial

end TrialRun
