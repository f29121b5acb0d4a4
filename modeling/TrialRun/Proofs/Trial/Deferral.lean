import TrialRun.Proofs.Trial.Rules

/-!
# What becomes of what was put off

What was put off and not begun yet is *waiting* (`Deferral.waiting`), as the story of it tells.  The
story is *orderly*: only what was put off last among all that is waiting is begun; cleaning up comes
to its end only when nothing is waiting; and only a fault that nothing may deal with ends it before,
with all that is waiting still put off (`Deferral.Rule`).

This is kept by every rule of what a trial does (`Does.sound`), hence at every moment of a session,
however deep its steps lead: a step that was put off may put off others, clean up itself, and fail.
-/

set_option autoImplicit false

namespace TrialRun

variable {τ σ : Type}

/-! ## Stories -/

namespace Deferral

/-- The numbers of what was started, the last first. -/
def started : List (Deferral τ) → List Nat
  | [] => []
  | .begun number _ :: earlier => number :: started earlier
  | _ :: earlier => started earlier

/-- What was put off and not begun, the last first. -/
def waiting (story : List (Deferral τ)) : List (Nat × Step τ) :=
  (numbered story).filter fun p => p.1 ∉ started story

/-- What may come next in a story. -/
def Rule : Deferral τ → List (Deferral τ) → Prop
  | .putOff _, _ => True
  | .begun number step, earlier => (waiting earlier).head? = some (number, step)
  | .cleaned left, earlier => left = [] ∧ waiting earlier = []
  | .brokenOff fault left, earlier =>
    fault.isOrdinary = false ∧ left = (waiting earlier).map Prod.snd

/-- The rule holds of all that is told, together with what was told before. -/
def Orderly : List (Deferral τ) → Prop
  | [] => True
  | d :: earlier => d.Rule earlier ∧ Orderly earlier

variable {story : List (Deferral τ)}

/-- Numbers are given from zero on. -/
theorem lt_of_mem_numbered {p : Nat × Step τ} (member : p ∈ numbered story) :
    p.1 < (numbered story).length := by
  induction story with
  | nil => cases member
  | cons d earlier ih =>
    cases d with
    | putOff step =>
      rw [numbered, List.length_cons]
      rcases List.mem_cons.mp member with rfl | before
      · exact Nat.lt_succ_self _
      · exact Nat.lt_succ_of_lt (ih before)
    | begun number step => exact ih member
    | cleaned left => exact ih member
    | brokenOff fault left => exact ih member

/-- What was put off keeps the number that it got. -/
theorem numbered_suffix {earlier : List (Deferral τ)} (h : earlier <:+ story) :
    numbered earlier <:+ numbered story := by
  obtain ⟨later, rfl⟩ := h
  induction later with
  | nil => exact List.suffix_rfl
  | cons d rest ih =>
    cases d with
    | putOff step => exact ih.trans (List.suffix_cons _ _)
    | begun number step => exact ih
    | cleaned left => exact ih
    | brokenOff fault left => exact ih

/-- What was put off later has a larger number. -/
theorem pairwise_numbered (story : List (Deferral τ)) :
    (numbered story).Pairwise fun p q => q.1 < p.1 := by
  induction story with
  | nil => exact .nil
  | cons d earlier ih =>
    cases d with
    | putOff step => exact .cons (fun _ member => lt_of_mem_numbered member) ih
    | begun number step => exact ih
    | cleaned left => exact ih
    | brokenOff fault left => exact ih

/-- What is waiting is ordered by its numbers, the last first. -/
theorem pairwise_waiting (story : List (Deferral τ)) :
    (waiting story).Pairwise fun p q => q.1 < p.1 :=
  (pairwise_numbered story).filter _

/-- What is waiting was put off and not begun. -/
theorem mem_waiting {p : Nat × Step τ} :
    p ∈ waiting story ↔ p ∈ numbered story ∧ p.1 ∉ started story := by
  rw [waiting, List.mem_filter, decide_eq_true_iff]

/-! ## Orderly stories -/

namespace Orderly

/-- Only what is waiting is begun. -/
theorem mem_waiting_of_begun {number : Nat} {step : Step τ}
    (h : Orderly (.begun number step :: story)) : (number, step) ∈ waiting story :=
  List.mem_of_head? h.1

/-- Only what was put off was started. -/
theorem started_lt (h : Orderly story) {number : Nat} (member : number ∈ started story) :
    number < (numbered story).length := by
  induction story with
  | nil => cases member
  | cons d earlier ih =>
    cases d with
    | putOff step =>
      rw [numbered, List.length_cons]
      exact Nat.lt_succ_of_lt (ih h.2 member)
    | begun first step =>
      rcases List.mem_cons.mp member with rfl | before
      · exact lt_of_mem_numbered (mem_waiting.mp h.mem_waiting_of_begun).1
      · exact ih h.2 before
    | cleaned left => exact ih h.2 member
    | brokenOff fault left => exact ih h.2 member

/-- Nothing is begun twice. -/
theorem nodup_started (h : Orderly story) : (started story).Nodup := by
  induction story with
  | nil => exact List.nodup_nil
  | cons d earlier ih =>
    cases d with
    | putOff step => exact ih h.2
    | begun number step =>
      exact List.nodup_cons.mpr ⟨(mem_waiting.mp h.mem_waiting_of_begun).2, ih h.2⟩
    | cleaned left => exact ih h.2
    | brokenOff fault left => exact ih h.2

/-- What is put off now is waiting before all others. -/
theorem waiting_putOff (h : Orderly story) (step : Step τ) :
    waiting (.putOff step :: story) = ((numbered story).length, step) :: waiting story := by
  have new : (numbered story).length ∉ started story := fun member =>
    Nat.lt_irrefl _ (h.started_lt member)
  exact List.filter_cons_of_pos (decide_eq_true new)

end Orderly

/-- What is begun is not waiting any longer, and all others are. -/
theorem waiting_begun {number : Nat} {step : Step τ} {rest : List (Nat × Step τ)}
    (last : waiting story = (number, step) :: rest) :
    waiting (.begun number step :: story) = rest := by
  have later := pairwise_waiting story
  rw [last, List.pairwise_cons] at later
  have same : waiting (.begun number step :: story) =
      (waiting story).filter fun p => p.1 ≠ number := by
    rw [waiting, waiting, List.filter_filter]
    simp [numbered, started]
  rw [same, last, List.filter_cons_of_neg (by simp), List.filter_eq_self]
  intro p member
  have smaller := later.1 p member
  simp only [decide_not, Bool.not_eq_true', decide_eq_false_iff_not]
  omega

end Deferral

/-! ## Accounts -/

/-- The account is right: what it says is put off is what is waiting according to its story, and the
story is orderly. -/
structure Account.Sound (t : Account τ σ) : Prop where
  waiting : Deferral.waiting t.story = t.pending
  orderly : Deferral.Orderly t.story

namespace Account

variable {t : Account τ σ}

/-- An account is sound in which all was put off just now. -/
theorem sound_start (w : World τ σ) : (Account.start w).Sound := by
  have none : ∀ steps : List (Step τ), Deferral.started (steps.map .putOff) = [] ∧
      Deferral.Orderly (steps.map .putOff) := by
    intro steps
    induction steps with
    | nil => exact ⟨rfl, trivial⟩
    | cons step rest ih => exact ⟨ih.1, trivial, ih.2⟩
  obtain ⟨none, orderly⟩ := none w.trial.pending
  refine ⟨List.filter_eq_self.mpr fun p member => ?_, orderly⟩
  rw [start, none]
  rfl

namespace Sound

variable (h : t.Sound)

include h

/-- What happens otherwise keeps an account sound. -/
theorem moved {w : World τ σ} (kept : w.trial.pending = t.world.trial.pending) :
    (t.moved w kept).Sound := ⟨h.waiting, h.orderly⟩

theorem recorded (e : Event τ) : (t.recorded e).Sound := h.moved _

theorem failing : t.failing.Sound := h.moved _

/-- To put a step off keeps it sound, as nothing has to hold of the story for that. -/
theorem putOff (step : Step τ) : (t.putOff step).Sound := by
  refine ⟨?_, trivial, h.orderly⟩
  exact (h.orderly.waiting_putOff step).trans (congrArg (_ :: ·) h.waiting)

/-- To begin what was put off last is orderly, as it is the last that is waiting. -/
theorem begun {number : Nat} {step : Step τ} {rest : List (Nat × Step τ)}
    (last : t.pending = (number, step) :: rest) : (t.begun number step rest).Sound := by
  have waiting := h.waiting.trans last
  refine ⟨Deferral.waiting_begun waiting, ?_, h.orderly⟩
  rw [Deferral.Rule, waiting]
  rfl

/-- Cleaning up comes to its end when nothing is put off, so that nothing is waiting. -/
theorem cleaned (nothing : t.pending = []) :
    (t.told (.cleaned t.world.trial.pending)).Sound := by
  refine ⟨h.waiting, ⟨?_, h.waiting.trans nothing⟩, h.orderly⟩
  rw [t.pending_eq, nothing]
  rfl

/-- Cleaning up that is broken off leaves put off what is waiting. -/
theorem brokenOff {f : Fault} (strange : f.isOrdinary = false) :
    (t.told (.brokenOff f t.world.trial.pending)).Sound := by
  refine ⟨h.waiting, ⟨strange, ?_⟩, h.orderly⟩
  rw [t.pending_eq, h.waiting]

end Sound

end Account

/-! ## What a trial does -/

namespace Does

variable [Timescale τ] {site : Site τ σ} {task : Task τ} {t t' : Account τ σ}
  {r : Except Fault Unit}

/-- Doing what was put off ends when nothing is left, or with a fault that nothing may deal with. -/
theorem end_of_drain (h : Does site task t r t') (drains : task = .drain) :
    (r = .ok () → t'.pending = []) ∧ ∀ f, r = .error f → f.isOrdinary = false := by
  induction h with
  | nothingLeft nothing => exact ⟨fun _ => nothing, nofun⟩
  | next last done goesOn others _ ih => exact ih rfl
  | stopped last failed strange =>
    refine ⟨nofun, fun f same => ?_⟩
    cases same
    exact strange
  | _ => cases drains

/-- The account stays right, whatever is done. -/
theorem sound (h : Does site task t r t') (sound : t.Sound) : t'.Sound := by
  -- each rule is made of moves that keep an account right; a drained one is cleaned at its end
  induction h with
  | alone alone ran kept => exact sound.moved kept
  | defer step t => exact sound.putOff step
  | newTestNamespace created kept => exact ((sound.moved kept).recorded _).putOff _
  | noTestNamespace failed kept => exact sound.moved kept
  | cleaned drained ih => exact (ih sound).cleaned ((drained.end_of_drain rfl).1 rfl)
  | brokenOff stopped ih => exact (ih sound).brokenOff ((stopped.end_of_drain rfl).2 _ rfl)
  | passed done ih => exact ih sound
  | diagnosed failed told first second => exact second (first sound).failing
  | undiagnosed failed stopped first second => exact second (first sound).failing
  | nothingLeft nothing => exact sound
  | next last done goesOn others first second => exact second ((first (sound.begun last)).moved _)
  | stopped last failed strange ih => exact ih (sound.begun last)
  | sequenceEnd t => exact sound
  | sequenceNext done others first second => exact second (first sound)
  | sequenceStop failed ih => exact ih sound
  | diagnoseEnd t => exact sound
  | diagnoseNext done goesOn others first second => exact second ((first sound).moved _)
  | diagnoseStop failed strange ih => exact ih sound
  | sessionEnd t => exact sound
  | sessionNext done others first second => exact second (first sound)

/-- Nothing that is done takes back what was told. -/
theorem story_suffix (h : Does site task t r t') : t.story <:+ t'.story := by
  induction h with
  | alone alone ran kept => exact List.suffix_rfl
  | defer step t => exact List.suffix_cons _ _
  | newTestNamespace created kept => exact List.suffix_cons _ _
  | noTestNamespace failed kept => exact List.suffix_rfl
  | cleaned drained ih => exact ih.trans (List.suffix_cons _ _)
  | brokenOff stopped ih => exact ih.trans (List.suffix_cons _ _)
  | passed done ih => exact ih
  | diagnosed failed told first second => exact first.trans second
  | undiagnosed failed stopped first second => exact first.trans second
  | nothingLeft nothing => exact List.suffix_rfl
  | next last done goesOn others first second =>
    exact (List.suffix_cons _ _).trans (first.trans second)
  | stopped last failed strange ih => exact (List.suffix_cons _ _).trans ih
  | sequenceEnd t => exact List.suffix_rfl
  | sequenceNext done others first second => exact first.trans second
  | sequenceStop failed ih => exact ih
  | diagnoseEnd t => exact List.suffix_rfl
  | diagnoseNext done goesOn others first second => exact first.trans second
  | diagnoseStop failed strange ih => exact ih
  | sessionEnd t => exact List.suffix_rfl
  | sessionNext done others first second => exact first.trans second

end Does

namespace Trial

variable [Timescale τ] (site : Site τ σ) (w : World τ σ)

/-- Cleaning up is done by the rules and ends as it is run. -/
theorem does_cleanup (t : Account τ σ) :
    ∃ t', Does site (.step .cleanup) t (cleanup.run site t.world).1 t' ∧
      t'.world = (cleanup.run site t.world).2 := by
  have same : cleanup.run site t.world =
      (((Step.cleanup : Step τ).run.run site t.world).1.map fun _ => (),
        ((Step.cleanup : Step τ).run.run site t.world).2) := Act.run_discard _ _ _
  rw [same]
  exact Step.does_run site t .cleanup

/-- There is nothing to do if nothing is put off. -/
theorem run_cleanup_of_nothing (nothing : w.trial.pending = []) :
    cleanup.run site w = (.ok (), w) := by
  have bound : (Step.cleanup : Step τ).size + Step.sizes w.trial.pending = 1 := by
    rw [nothing]
    rfl
  have done : ((Step.cleanup : Step τ).run : Act τ σ Json).run site w = (.ok .null, w) := by
    rw [Step.run, Act.run_bind_of_ok _ (Act.run_trial site w), bound]
    rfl
  rw [cleanup, Act.run_bind_of_ok _ done]
  rfl

/-- Cleaning up comes to its end and leaves nothing, or is ended by a fault that nothing may deal
with. -/
theorem cleanup_ends :
    let cleaned := cleanup.run site w
    (cleaned.1 = .ok () ∧ cleaned.2.trial.pending = []) ∨
      ∃ f, cleaned.1 = .error f ∧ f.isOrdinary = false := by
  intro cleaned
  obtain ⟨t, does, world⟩ := does_cleanup site (Account.start w)
  change Does site _ _ cleaned.1 t at does
  change t.world = cleaned.2 at world
  generalize cleaned.1 = r at does ⊢
  rw [← world]
  cases does with
  | alone alone ran kept => exact alone.elim
  | cleaned drained =>
    refine .inl ⟨rfl, ?_⟩
    rw [Account.pending_eq]
    exact congrArg (List.map Prod.snd) ((drained.end_of_drain rfl).1 rfl)
  | brokenOff stopped => exact .inr ⟨_, rfl, (stopped.end_of_drain rfl).2 _ rfl⟩

/-- Once cleaning up has come to its end, all that was put off before was begun. -/
theorem cleanup_begins :
    ∃ t, Does site (.step .cleanup) (Account.start w) (cleanup.run site w).1 t ∧
      t.world = (cleanup.run site w).2 ∧
      ((cleanup.run site w).1 = .ok () →
        ∀ p ∈ (Account.start w).pending, p.1 ∈ Deferral.started t.story) := by
  obtain ⟨t, does, world⟩ := does_cleanup site (Account.start w)
  refine ⟨t, does, world, fun well p member => ?_⟩
  have sound := does.sound (Account.sound_start w)
  -- a cleanup that ended well leaves nothing put off, hence nothing waiting
  have left : t.pending.map Prod.snd = [] := by
    rw [← t.pending_eq, world]
    rcases cleanup_ends site w with ⟨-, nothing⟩ | ⟨f, ended, -⟩
    · exact nothing
    · rw [ended] at well
      cases well
  have nothing : Deferral.waiting t.story = [] := sound.waiting.trans (List.map_eq_nil_iff.mp left)
  have numbered : p ∈ Deferral.numbered t.story :=
    (Deferral.numbered_suffix does.story_suffix).subset member
  by_cases begun : p.1 ∈ Deferral.started t.story
  · exact begun
  · have waits := Deferral.mem_waiting.mpr ⟨numbered, begun⟩
    rw [nothing] at waits
    cases waits

/-- **What was put off is done once, the last first.**  Every session of steps has an orderly story:
nothing is begun but what was put off last among all that is waiting, hence nothing is begun twice;
cleaning up that comes to its end leaves nothing waiting; and if a fault ends it before, it is one
that nothing may deal with, and all that is waiting stays put off, as it is at the end of the
session.  Cleaning up that came to its end has nothing more to do. -/
theorem session_deferrals (steps : List (Step τ)) :
    (∃ t : Account τ σ, Does site (.session steps) (Account.start w) (.ok ()) t ∧
      (session steps).run site w = (.ok (), t.world) ∧
      Deferral.Orderly t.story ∧ (Deferral.started t.story).Nodup ∧
      t.world.trial.pending = (Deferral.waiting t.story).map Prod.snd) ∧
    let cleaned := cleanup.run site w
    (cleaned.1 = .ok () ∧ cleaned.2.trial.pending = [] ∧
        cleanup.run site cleaned.2 = (.ok (), cleaned.2)) ∨
      ∃ f, cleaned.1 = .error f ∧ f.isOrdinary = false := by
  constructor
  · obtain ⟨t, does, ran⟩ := does_session site (Account.start w) steps
    have sound := does.sound (Account.sound_start w)
    refine ⟨t, does, ran, sound.orderly, sound.orderly.nodup_started, ?_⟩
    rw [t.pending_eq, sound.waiting]
  · intro cleaned
    rcases cleanup_ends site w with ⟨well, nothing⟩ | stopped
    · exact .inl ⟨well, nothing, run_cleanup_of_nothing site _ nothing⟩
    · exact .inr stopped

/-- What is put off by a step that fails is done before what was put off earlier. -/
example :
    let steps : List (Step Number) :=
      [.defer (.mark "first"),
        .defer (.onFailure [.defer (.mark "late"), .raise (.plain .general "failed")] []),
        .defer (.mark "last"), .cleanup, .cleanup]
    let marks := ((session steps).run Cluster.silentSite Cluster.silentWorld).2.record.filterMap
      fun
        | .marked v => some v
        | _ => none
    marks = [.text "first", .text "late", .text "last"] := by rfl

end Trial

end TrialRun
