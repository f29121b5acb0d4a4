import TrialRun.Proofs.Trial.Faults

/-!
# What is still to be deleted

A namespace takes with it what is in it, so that a trial has to delete only what belongs to the
whole cluster: its namespace, its resource flavor and its cluster queue.  The record says which of
these were created and deleted, and what was put off says which are still to be deleted.  Between
the steps of a scenario the two agree (`Booked`): what was put off is to undo all that was created,
the last first.

They differ only for a moment, between the reply that confirms something and the note that it is to
be deleted (`Unbooked`).  Nothing can come between the two except that the reply does not name what
was created; then the record is spoiled, and nothing more is claimed.

Along with this it is kept account of the kinds of all that was to be created so far (`Stage`).  A
scenario creates by a plan, so at each stage they are those at the end of it.
-/

set_option autoImplicit false

namespace TrialRun

variable {τ σ α β : Type}

/-! ## The books -/

/-- Whether things of the kind belong to the whole cluster. -/
def Kind.isWide : Kind → Bool
  | .namespace => true
  | .configMap => false
  | .object type => type = .resourceFlavor || type = .clusterQueue

/-- The step that deletes something of the whole cluster. -/
def Target.undo (t : Target) : Step τ :=
  match t.kind with
  | .object type => .cluster (.delete type t.ns t.name)
  | _ => .deleteTestNamespace t.name

/-- The kinds of all that was to be created, the last first. -/
def kindsAsked (record : List (Event τ)) : List Kind :=
  record.filterMap fun e => e.creates?.map Prod.fst

/-- What was created for the whole cluster, the last first. -/
def wideCreated (record : List (Event τ)) : List Target :=
  (record.filterMap Event.created?).filter (·.kind.isWide)

/-- What was to be deleted from the whole cluster, the last first. -/
def wideDeleted (record : List (Event τ)) : List Target :=
  (record.filterMap Event.deletes?).filter (·.kind.isWide)

/-- What was to be created is listed event by event, and the same goes for what was created and
deleted. -/
theorem kindsAsked_append (later earlier : List (Event τ)) :
    kindsAsked (later ++ earlier) = kindsAsked later ++ kindsAsked earlier :=
  List.filterMap_append

theorem wideCreated_append (later earlier : List (Event τ)) :
    wideCreated (later ++ earlier) = wideCreated later ++ wideCreated earlier := by
  rw [wideCreated, List.filterMap_append, List.filter_append]
  rfl

theorem wideDeleted_append (later earlier : List (Event τ)) :
    wideDeleted (later ++ earlier) = wideDeleted later ++ wideDeleted earlier := by
  rw [wideDeleted, List.filterMap_append, List.filter_append]
  rfl

/-- The event neither creates nor deletes. -/
def Event.IsSilent (e : Event τ) : Prop := e.creates? = none ∧ e.deletes? = none

/-- Everyday business creates and deletes nothing. -/
theorem Event.IsEveryday.isSilent {e : Event τ} (h : e.IsEveryday) : e.IsSilent :=
  ⟨h.creates?, h.deletes?⟩

/-- The event creates nothing, and deletes nothing from the whole cluster. -/
def Event.IsNarrow (e : Event τ) : Prop :=
  e.creates? = none ∧ ∀ t, e.deletes? = some t → t.kind.isWide = false

/-- What creates and deletes nothing does neither for the whole cluster. -/
theorem Event.IsSilent.isNarrow {e : Event τ} (h : e.IsSilent) : e.IsNarrow := by
  refine ⟨h.1, fun t deletes => ?_⟩
  rw [h.2] at deletes
  cases deletes

section Narrow

variable {es : List (Event τ)}

/-- Narrow events leave the books as they are. -/
theorem kindsAsked_eq_nil (h : ∀ e ∈ es, e.IsNarrow) : kindsAsked es = [] := by
  apply List.filterMap_eq_nil_iff.mpr
  intro e member
  rw [(h e member).1]
  rfl

/-- What was created was to be created before. -/
theorem created?_eq_none {e : Event τ} (h : e.creates? = none) : e.created? = none := by
  cases created : e.created? with
  | none => rfl
  | some t =>
    rw [Event.creates?_of_created? created] at h
    cases h

/-- They create nothing for the whole cluster. -/
theorem wideCreated_eq_nil (h : ∀ e ∈ es, e.IsNarrow) : wideCreated es = [] := by
  have nothing : es.filterMap Event.created? = [] :=
    List.filterMap_eq_nil_iff.mpr fun e member => created?_eq_none (h e member).1
  rw [wideCreated, nothing]
  rfl

/-- Nor do they delete anything of it. -/
theorem wideDeleted_eq_nil (h : ∀ e ∈ es, e.IsNarrow) : wideDeleted es = [] := by
  apply List.filter_eq_nil_iff.mpr
  intro t member
  obtain ⟨e, there, deletes⟩ := List.mem_filterMap.mp member
  rw [(h e there).2 t deletes]
  exact Bool.false_ne_true

end Narrow

/-- What was put off is to undo all that was created for the whole cluster, and nothing was undone
yet. -/
structure Booked (w : World τ σ) : Prop where
  pending : w.trial.pending = (wideCreated w.record).map Target.undo
  nothing : wideDeleted w.record = []

/-- The same, except that what was created last is not among what was put off. -/
structure Pending (t : Target) (w : World τ σ) : Prop where
  pending : ∃ others, wideCreated w.record = t :: others ∧
    w.trial.pending = others.map Target.undo
  nothing : wideDeleted w.record = []

/-- What the books are while a scenario is at a stage, where it was to create things of these
kinds. -/
structure Stage (kinds : List Kind) (w : World τ σ) : Prop where
  asked : kindsAsked w.record = kinds
  booked : Booked w ∨ Spoiled w.record

/-- What the books are when something was created that is not booked yet.  It may also be that its
name is not known. -/
structure Unbooked (kinds : List Kind) (named : Except Fault Target) (w : World τ σ) : Prop where
  asked : kindsAsked w.record = kinds
  pending : (∃ t, named = .ok t ∧ Pending t w) ∨ Spoiled w.record

/-- What is put off stays, and the record grows by such events. -/
def World.Idles (P : Event τ → Prop) (w w' : World τ σ) : Prop :=
  w'.trial.pending = w.trial.pending ∧ w.Grows P w'

/-- Idling allows everyday business if its events include that. -/
theorem everyday_idles {P : Event τ → Prop} (h : ∀ e, Event.IsEveryday e → P e) :
    Everyday (World.Idles (σ := σ) P) where
  refl w := ⟨rfl, (everyday_grows h).refl w⟩
  trans := fun ⟨first, grows⟩ ⟨second, grows'⟩ =>
    ⟨second.trans first, (everyday_grows h).trans grows grows'⟩
  clock w t := ⟨rfl, (everyday_grows h).clock w t⟩
  outside w s := ⟨rfl, (everyday_grows h).outside w s⟩
  passing w e passing := ⟨rfl, (everyday_grows h).passing w e passing⟩
  volume w v changed := ⟨rfl, (everyday_grows h).volume w v changed⟩
  directory w p unnoted := ⟨rfl, (everyday_grows h).directory w p unnoted⟩
  wrote w p contents := ⟨rfl, (everyday_grows h).wrote w p contents⟩

/-- One of its events may be recorded. -/
theorem World.Idles.of_recorded {P : Event τ → Prop} {e : Event τ} (h : P e) :
    Allows (World.Idles (σ := σ) P) e := fun w => ⟨rfl, World.Grows.of_recorded h w⟩

/-- Idling is observant if its events include silent ones. -/
theorem observant_idling {P : Event τ → Prop} (silent : ∀ e, Event.IsSilent e → P e) :
    Observant (World.Idles (σ := σ) P) where
  toEveryday := everyday_idles fun e everyday => silent e everyday.isSilent
  glances _ _ nothing kept _ := World.Idles.of_recorded (silent _ ⟨nothing, kept⟩)
  probes _ _ _ _ := World.Idles.of_recorded (silent _ ⟨rfl, rfl⟩)
  inspects _ _ nothing kept _ := World.Idles.of_recorded (silent _ ⟨nothing, kept⟩)
  failed w := ⟨rfl, (everyday_grows fun e everyday => silent e everyday.isSilent).refl w⟩

/-- Looking at the cluster is idle. -/
theorem observant_idles : Observant (World.Idles (τ := τ) (σ := σ) Event.IsNarrow) :=
  observant_idling fun _ => Event.IsSilent.isNarrow

/-- It is silent too, as it neither creates nor deletes. -/
theorem observant_silent : Observant (World.Idles (τ := τ) (σ := σ) Event.IsSilent) :=
  observant_idling fun _ => id

section Idling

variable {w w' : World τ σ} (h : w.Idles Event.IsNarrow w') {kinds : List Kind}

include h

/-- Idling leaves the books as they are. -/
theorem World.Idles.books : kindsAsked w'.record = kindsAsked w.record ∧
    wideCreated w'.record = wideCreated w.record ∧
    wideDeleted w'.record = wideDeleted w.record ∧
    (Spoiled w.record → Spoiled w'.record) := by
  obtain ⟨-, es, record, narrow⟩ := h
  rw [record, kindsAsked_append, wideCreated_append, wideDeleted_append, kindsAsked_eq_nil narrow,
    wideCreated_eq_nil narrow, wideDeleted_eq_nil narrow]
  exact ⟨rfl, rfl, rfl, fun spoiled => spoiled.append es⟩

/-- What idles leaves the stage as it is. -/
theorem Stage.idles (stage : Stage kinds w) : Stage kinds w' := by
  obtain ⟨asked, created, deleted, spoiled⟩ := h.books
  refine ⟨asked.trans stage.asked, stage.booked.imp (fun booked => ?_) spoiled⟩
  exact ⟨by rw [h.1, created, booked.pending], deleted.trans booked.nothing⟩

/-- It may also come between creating and booking. -/
theorem Unbooked.idles {named : Except Fault Target} (unbooked : Unbooked kinds named w) :
    Unbooked kinds named w' := by
  obtain ⟨asked, created, deleted, spoiled⟩ := h.books
  refine ⟨asked.trans unbooked.asked, unbooked.pending.imp ?_ spoiled⟩
  rintro ⟨t, known, ⟨others, head, pending⟩, nothing⟩
  exact ⟨t, known, ⟨others, created.trans head, h.1.trans pending⟩, deleted.trans nothing⟩

end Idling

end TrialRun
