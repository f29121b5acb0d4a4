import TrialRun.Proofs.Act.Ensures
import TrialRun.Proofs.Record

/-!
# Acts that pass milestones

An act *marks* a milestone if it ends with a value only after an event that meets the milestone,
which may depend on the value (`Act.Marks`).  Whatever is done before and behind that event does not
matter, since records only grow.

A law and the milestones passed so far are carried through an act together, from the beginning of
the record (`Kept`) or from some point of it (`KeptSince`).  What the act may do is told by what the
law permits once the milestones are passed (`Permitted`); an act that marks a milestone adds it to
them if it ends with a value, and keeps the law in any case.
-/

set_option autoImplicit false

namespace TrialRun

variable {τ σ α β : Type}

/-- The record has grown. -/
def World.Grown : World τ σ → World τ σ → Prop := World.Grows fun _ => True

/-- Growth by some events is growth. -/
theorem World.Grows.grown {P : Event τ → Prop} {w w' : World τ σ} (h : w.Grows P w') :
    w.Grown w' := by
  obtain ⟨es, record, -⟩ := h
  exact ⟨es, record, fun _ _ => trivial⟩

/-- Growth allows everything that may happen. -/
theorem everyday_grown : Everyday (World.Grown (τ := τ) (σ := σ)) :=
  everyday_grows fun _ _ => trivial

namespace Act

/-- Whenever the act ends with a value, it has met the milestone. -/
def Marks (m : α → Event τ → Prop) (a : Act τ σ α) : Prop :=
  ∀ site w v w', a.run site w = (.ok v, w') →
    ∃ later e earlier, w'.record = later ++ e :: (earlier ++ w.record) ∧ m v e

namespace Marks

variable {m : α → Event τ → Prop} {m' : β → Event τ → Prop}

/-- A milestone that is weaker. -/
theorem mono {a : Act τ σ α} {m' : α → Event τ → Prop} (h : a.Marks m)
    (weaker : ∀ v e, m v e → m' v e) : a.Marks m' := by
  intro site w v w' run
  obtain ⟨later, e, earlier, record, met⟩ := h site w v w' run
  exact ⟨later, e, earlier, record, weaker v e met⟩

/-- The milestone is met by the first of two acts. -/
theorem bind {a : Act τ σ α} {next : α → Act τ σ β} (first : a.Marks m)
    (grows : ∀ v, (next v).Moves World.Grown)
    (link : ∀ v u site w w', (next v).run site w = (.ok u, w') → ∀ e, m v e → m' u e) :
    (a >>= next).Marks m' := by
  intro site w u w' run
  obtain ⟨v, w₁, begun, ended⟩ := ok_of_run_bind run
  obtain ⟨later, e, earlier, record, met⟩ := first site w v w₁ begun
  obtain ⟨es, grown, -⟩ := grows v site w₁
  rw [ended] at grown
  refine ⟨es ++ later, e, earlier, ?_, link v u site w₁ w' ended e met⟩
  rw [grown, record, List.append_assoc]

/-- The milestone is met by the second of two acts. -/
theorem after {a : Act τ σ α} {next : α → Act τ σ β} (grows : a.Moves World.Grown)
    (second : ∀ v, (next v).Marks m') : (a >>= next).Marks m' := by
  intro site w u w' run
  obtain ⟨v, w₁, begun, ended⟩ := ok_of_run_bind run
  obtain ⟨later, e, earlier, record, met⟩ := second v site w₁ u w' ended
  obtain ⟨es, grown, -⟩ := grows site w
  rw [begun] at grown
  refine ⟨later, e, earlier ++ es, ?_, met⟩
  rw [record, grown, List.append_assoc]

/-- A milestone may also depend on a computation that the act ends with. -/
theorem lift {a : Act τ σ α} {r : α → Except Fault β} (first : a.Marks m)
    (link : ∀ v u, r v = .ok u → ∀ e, m v e → m' u e) :
    (a >>= fun v => liftM (r v)).Marks m' := by
  apply first.bind (fun v => everyday_grown.lift (r v))
  intro v u site w w' run
  rw [run_liftM] at run
  exact link v u (Prod.mk.inj run).1

/-- What follows a computation is done only with its value. -/
theorem lift_bind {r : Except Fault α} {next : α → Act τ σ β}
    (second : ∀ v, r = .ok v → (next v).Marks m') :
    ((liftM r : Act τ σ α) >>= next).Marks m' := by
  intro site w u w' run
  obtain ⟨v, w₁, computed, run⟩ := ok_of_run_bind run
  rw [run_liftM] at computed
  obtain ⟨value, rfl⟩ := Prod.mk.inj computed
  exact second v value site w u w' run

/-- What ends with a fault need not have met any milestone. -/
theorem fail (f : Fault) : (Act.fail f : Act τ σ α).Marks m := by
  intro site w v w' run
  cases run

/-- What is recorded is met. -/
theorem record (e : Event τ) : (Act.record e : Act τ σ Unit).Marks fun _ e' => e' = e := by
  intro site w v w' run
  cases run
  exact ⟨[], e, [], rfl, rfl⟩

/-- A fault that only leads to another one does not matter. -/
theorem rescue {a : Act τ σ α} (h : a.Marks m) (f : Fault → Fault) :
    (a.rescue fun fault => Act.fail (f fault)).Marks m := by
  intro site w v w' run
  rw [run_rescue] at run
  rcases ended : a.run site w with ⟨fault | u, w₁⟩
  · rw [ended] at run
    dsimp only at run
    split at run <;> cases run
  · rw [ended] at run
    cases run
    exact h site w v w' ended

/-- A request is met with the exchange that it gives. -/
theorem request [Timescale τ] (r : Dashboard.Request) :
    (request r : Act τ σ Exchange).Marks fun x e => e = .requested r x := by
  intro site w x w' run
  rw [run_request] at run
  cases run
  exact ⟨[], _, [], rfl, rfl⟩

/-- A text that was written is met. -/
theorem writeFile (p : Path) (contents : String) :
    (writeFile p contents : Act τ σ Unit).Marks fun _ e => e = .wrote p contents :=
  after (everyday_grown.disk _ (everyday_grown.settle p fun _ _ wrote => .inr ⟨_, _, wrote⟩))
    fun _ => record _

end Marks

end Act

/-! ## Laws and milestones -/

section Laws

variable {rule : Event τ → List (Event τ) → Prop} {ms : List (Event τ → Prop)} {site : Site τ σ}
  {base : List (Event τ)}

/-- The record is lawful and has passed the milestones. -/
def Kept (rule : Event τ → List (Event τ) → Prop) (ms : List (Event τ → Prop))
    (w : World τ σ) : Prop :=
  Lawful rule w.record ∧ Passed ms w.record

/-- What was recorded behind a base is lawful and has passed the milestones. -/
def KeptSince (base : List (Event τ)) (rule : Event τ → List (Event τ) → Prop)
    (ms : List (Event τ → Prop)) (w : World τ σ) : Prop :=
  ∃ es, w.record = es ++ base ∧ Lawful rule es ∧ Passed ms es

/-- The rule has nothing against the event once the milestones are passed. -/
def Permitted (rule : Event τ → List (Event τ) → Prop) (ms : List (Event τ → Prop))
    (e : Event τ) : Prop :=
  ∀ earlier, Passed ms earlier → rule e earlier

namespace KeptSince

variable {w w' : World τ σ}

/-- No milestones have been passed at first. -/
theorem start (rule : Event τ → List (Event τ) → Prop) (w : World τ σ) :
    KeptSince w.record rule [] w := ⟨[], rfl, trivial, .start []⟩

/-- Milestones may be forgotten, but for the law. -/
theorem lawful (h : KeptSince base rule ms w) : KeptSince base rule [] w := by
  obtain ⟨es, record, lawful, -⟩ := h
  exact ⟨es, record, lawful, .start es⟩

/-- The last milestone may be told less of. -/
theorem mono_head {m m' : Event τ → Prop} (h : KeptSince base rule (m :: ms) w)
    (weaker : ∀ e, m e → m' e) : KeptSince base rule (m' :: ms) w := by
  obtain ⟨es, record, lawful, passed⟩ := h
  exact ⟨es, record, lawful, passed.mono_head weaker⟩

/-- What the law permits at some milestones keeps them passed. -/
theorem grows (h : KeptSince base rule ms w) (grown : w.Grows (Permitted rule ms) w') :
    KeptSince base rule ms w' := by
  obtain ⟨es, record, lawful, passed⟩ := h
  obtain ⟨new, record', permitted⟩ := grown
  refine ⟨new ++ es, ?_, lawful.append new fun e member since => ?_, passed.append new⟩
  · rw [record', record, List.append_assoc]
  · exact permitted e member _ (passed.append since)

/-- A further milestone is passed when an event meets it behind the others. -/
theorem mark {m : Event τ → Prop} {later earlier : List (Event τ)} {e : Event τ}
    (h : KeptSince base rule ms w) (h' : KeptSince base rule ms w')
    (record : w'.record = later ++ e :: (earlier ++ w.record)) (met : m e) :
    KeptSince base rule (m :: ms) w' := by
  obtain ⟨es, since, -, passed⟩ := h
  obtain ⟨es', since', lawful, -⟩ := h'
  have same : es' = later ++ e :: (earlier ++ es) := by
    rw [since', since] at record
    exact (List.append_left_inj base).mp (by simpa using record)
  refine ⟨es', since', lawful, ?_⟩
  rw [same]
  exact (Passed.mark met (passed.append earlier)).append later

end KeptSince

/-- An act that does only what is permitted keeps the law and the milestones. -/
theorem Act.Moves.keptSince {a : Act τ σ α} (h : a.Moves (World.Grows (Permitted rule ms))) :
    a.Ensures site (KeptSince base rule ms) (fun _ => KeptSince base rule ms)
      fun _ => KeptSince base rule [] :=
  (h.ensures fun _ _ => KeptSince.grows).mono (fun _ => id) (fun _ _ => id)
    fun _ _ => KeptSince.lawful

/-- If it marks a milestone, that is added. -/
theorem Act.Marks.keptSince {a : Act τ σ α} {m : α → Event τ → Prop} (marks : a.Marks m)
    (h : a.Moves (World.Grows (Permitted rule ms))) :
    a.Ensures site (KeptSince base rule ms) (fun v => KeptSince base rule (m v :: ms))
      fun _ => KeptSince base rule [] := by
  refine ⟨fun w kept => ?_⟩
  have grown := kept.grows (h site w)
  revert grown
  rcases run : a.run site w with ⟨_ | v, w'⟩ <;> intro grown
  · exact grown.lawful
  · obtain ⟨later, e, earlier, record, met⟩ := marks site w v w' run
    exact kept.mark grown record met

/-! ### From the beginning -/

/-- From the beginning of the record on. -/
theorem keptSince_nil_iff {w : World τ σ} : KeptSince [] rule ms w ↔ Kept rule ms w := by
  constructor
  · rintro ⟨es, record, lawful, passed⟩
    rw [List.append_nil] at record
    rw [Kept, record]
    exact ⟨lawful, passed⟩
  · rintro ⟨lawful, passed⟩
    exact ⟨w.record, (List.append_nil _).symm, lawful, passed⟩

/-- The same for the whole record. -/
theorem Kept.grows {w w' : World τ σ} (h : Kept rule ms w)
    (grown : w.Grows (Permitted rule ms) w') : Kept rule ms w' :=
  keptSince_nil_iff.mp ((keptSince_nil_iff.mpr h).grows grown)

/-- An act that does what is permitted keeps what was passed, and the law in any case. -/
theorem Act.Moves.kept {a : Act τ σ α} (h : a.Moves (World.Grows (Permitted rule ms))) :
    a.Ensures site (Kept rule ms) (fun _ => Kept rule ms) (fun _ w => Lawful rule w.record) :=
  h.keptSince.mono (fun _ => keptSince_nil_iff.mpr) (fun _ _ => keptSince_nil_iff.mp)
    fun _ _ kept => (keptSince_nil_iff.mp kept).1

/-- An act that marks a milestone adds it, if it ends with a value. -/
theorem Act.Marks.kept {a : Act τ σ α} {m : α → Event τ → Prop} (marks : a.Marks m)
    (h : a.Moves (World.Grows (Permitted rule ms))) :
    a.Ensures site (Kept rule ms) (fun v => Kept rule (m v :: ms))
      (fun _ w => Lawful rule w.record) :=
  (marks.keptSince h).mono (fun _ => keptSince_nil_iff.mpr) (fun _ _ => keptSince_nil_iff.mp)
    fun _ _ kept => (keptSince_nil_iff.mp kept).1

end Laws

end TrialRun
