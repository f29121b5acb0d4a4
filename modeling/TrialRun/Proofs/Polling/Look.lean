import TrialRun.Polling
import TrialRun.Proofs.Act.Everyday

/-!
# One look

Each look fetches and then either settles the wait or rests until the next look.  What settles it is
told by the result of the fetch alone: `Polling.Decides` has one case for each of the five ways, and
`Polling.verdict` computes it.  `run_look` is the equation of one look; all that is said of whole
waits rests on it.

`ok_of_wait` reads a wait that has ended with an answer backwards, to the fetch that gave it.
-/

set_option autoImplicit false

namespace TrialRun.Polling

variable {τ σ α : Type}

/-- The results of a fetch that settle a wait, each with what the wait then ends with.  It is the
state itself, nothing, or a fault as it was raised. -/
inductive Decides (p : Polling τ σ α) : Except Fault α → Except Fault (Option α) → Prop where
  /-- The state satisfies the condition. -/
  | satisfied {v : α} : p.satisfied v = .ok true → p.Decides (.ok v) (.ok (some v))
  /-- The condition cannot be asked of the state. -/
  | unasked {v : α} {f : Fault} : p.satisfied v = .error f → p.Decides (.ok v) (.error f)
  /-- The fault of the fetch is what was waited for. -/
  | settled {f : Fault} {settles : Fault → Except Fault Bool} : f.isOrdinary = true →
      p.settled = some settles → settles f = .ok true → p.Decides (.error f) (.ok none)
  /-- It cannot be asked whether the fault is what was waited for. -/
  | unsettled {f g : Fault} {settles : Fault → Except Fault Bool} : f.isOrdinary = true →
      p.settled = some settles → settles f = .error g → p.Decides (.error f) (.error g)
  /-- Nothing may deal with the fault of the fetch. -/
  | passed {f : Fault} : f.isOrdinary = false → p.Decides (.error f) (.error f)

/-- What a wait ends with at a fetch with this result; nothing if it goes on. -/
def verdict (p : Polling τ σ α) : Except Fault α → Option (Except Fault (Option α))
  | .ok v =>
    match p.satisfied v with
    | .ok true => some (.ok (some v))
    | .ok false => none
    | .error f => some (.error f)
  | .error f =>
    if f.isOrdinary then
      match p.settled with
      | none => none
      | some settles =>
        match settles f with
        | .ok true => some (.ok none)
        | .ok false => none
        | .error g => some (.error g)
    else some (.error f)

/-- The verdict on a fetch is what it decides, if it decides anything. -/
theorem verdict_eq_some_iff (p : Polling τ σ α) (r : Except Fault α)
    (result : Except Fault (Option α)) : p.verdict r = some result ↔ p.Decides r result := by
  constructor
  · intro h
    cases r with
    | ok v =>
      simp only [verdict] at h
      split at h <;> cases h
      next yes => exact .satisfied yes
      next fault => exact .unasked fault
    | error f =>
      simp only [verdict] at h
      split at h
      next ordinary =>
        split at h
        next => cases h
        next settles some =>
          split at h <;> cases h
          next yes => exact .settled ordinary some yes
          next fault => exact .unsettled ordinary some fault
      next strange =>
        cases h
        exact .passed (by simpa using strange)
  · intro h
    cases h with
    | satisfied yes => simp only [verdict, yes]
    | unasked fault => simp only [verdict, fault]
    | settled ordinary some yes => simp only [verdict, ordinary, some, yes, if_true]
    | unsettled ordinary some fault => simp only [verdict, ordinary, some, fault, if_true]
    | passed strange => simp [verdict, strange]

/-- The log record of a fault that the wait deals with. -/
def remarks (p : Polling τ σ α) : Except Fault α → List (Event τ)
  | .ok _ => []
  | .error f =>
    if f.isOrdinary then
      match p.verdict (.error f) with
      | none => [.log .debug s!"Failed to fetch state for {p.description}: {f.text}"]
      | some (.ok _) => [.log .debug s!"Condition {p.description} is met by error: {f.text}"]
      | some (.error _) => []
    else []

/-- A remark is a log record. -/
theorem isPassing_of_mem_remarks {p : Polling τ σ α} {r : Except Fault α} {e : Event τ}
    (h : e ∈ p.remarks r) : e.IsPassing := by
  unfold remarks at h
  split at h
  · cases h
  · split at h
    · split at h
      · rw [List.mem_singleton] at h
        subst h
        trivial
      · rw [List.mem_singleton] at h
        subst h
        trivial
      · cases h
    · cases h

/-- The world with the remarks on the result of a fetch. -/
def remarked (p : Polling τ σ α) (r : Except Fault α) (w : World τ σ) : World τ σ :=
  { w with record := p.remarks r ++ w.record }

/-- The last state that was seen, once a fetch has ended. -/
def seenAfter (seen : Option α) : Except Fault α → Option α
  | .ok v => some v
  | .error _ => seen

/-- The fault of a fetch, if it ended with one. -/
def faultOf : Except Fault α → Option Fault
  | .ok _ => none
  | .error f => some f

section Looks

variable [Timescale τ] (p : Polling τ σ α) (site : Site τ σ) (deadline : τ)

/-- After a rest the looks go on; without one the time is up. -/
theorem run_pause_then (next : Act τ σ (Option α)) (f : Fault) (w : World τ σ) :
    (do if ← p.pause deadline then next else Act.fail f : Act τ σ (Option α)).run site w =
      match (p.pause deadline).run site w with
      | (.ok true, w') => next.run site w'
      | (.ok false, w') => (.error f, w')
      | (.error g, w') => (.error g, w') := by
  rw [Act.run_bind]
  rcases (p.pause deadline).run site w with ⟨_ | _ | _, w'⟩ <;> rfl

/-- One look: the fetch settles the wait, or there is a rest and the looks go on, or the time is
up. -/
theorem run_look (looks : Nat) (seen : Option α) (fault : Option Fault) (w : World τ σ) :
    (p.look deadline (looks + 1) seen fault).run site w =
      let (r, w₁) := p.fetch.run site w
      match p.verdict r with
      | some result => (result, p.remarked r w₁)
      | none =>
        match (p.pause deadline).run site (p.remarked r w₁) with
        | (.ok true, w₂) => (p.look deadline looks (seenAfter seen r) (faultOf r)).run site w₂
        | (.ok false, w₂) => (.error (p.expired (seenAfter seen r) (faultOf r)), w₂)
        | (.error f, w₂) => (.error f, w₂) := by
  rw [look, Act.run_bind, Act.run_attempt]
  -- by how the fetch ended, and then by what the condition says of it
  rcases p.fetch.run site w with ⟨f | v, w₁⟩
  · cases ordinary : f.isOrdinary with
    | false =>
      simp only [ordinary, verdict, remarked, remarks, Bool.false_eq_true, if_false]
      rfl
    | true =>
      cases asked : p.settled with
      | none =>
        simp only [ordinary, verdict, asked, remarked, remarks, if_true]
        exact run_pause_then _ _ _ _ _ _
      | some settles =>
        cases answer : settles f with
        | error g =>
          simp only [ordinary, verdict, asked, answer, remarked, remarks, if_true]
          rfl
        | ok yes =>
          cases yes with
          | true =>
            simp only [ordinary, verdict, asked, answer, remarked, remarks, if_true]
            rfl
          | false =>
            simp only [ordinary, verdict, asked, answer, remarked, remarks, if_true]
            exact run_pause_then _ _ _ _ _ _
  · cases answer : p.satisfied v with
    | error g =>
      simp only [verdict, answer]
      rfl
    | ok yes =>
      cases yes with
      | true =>
        simp only [verdict, answer]
        rfl
      | false =>
        simp only [verdict, answer]
        exact run_pause_then _ _ _ _ _ _

end Looks

end TrialRun.Polling

/-! ## Whole waits -/

namespace TrialRun.Calm

variable {τ σ α : Type} {R : World τ σ → World τ σ → Prop} (h : Calm R)

include h

/-- To record what passes leads along the relation. -/
theorem records (w : World τ σ) (es : List (Event τ)) (passing : ∀ e ∈ es, e.IsPassing) :
    R w { w with record := es ++ w.record } := by
  induction es with
  | nil => exact h.refl w
  | cons e rest ih =>
    have before := ih fun e' member => passing e' (List.mem_cons_of_mem _ member)
    exact h.trans before (h.passing _ e (passing e List.mem_cons_self))

theorem remarked (p : Polling τ σ α) (r : Except Fault α) (w : World τ σ) :
    R w (p.remarked r w) :=
  h.records w _ fun _ member => Polling.isPassing_of_mem_remarks member

variable [Timescale τ] {p : Polling τ σ α}

theorem pause (p : Polling τ σ α) (deadline : τ) : (p.pause deadline).Moves R := by
  refine h.bind h.world fun w => ite (h.pure _) ?_
  exact h.bind (h.sleep _) fun _ => h.pure _

/-- All looks lead along the relation if a fetch does, by induction on those that are left. -/
theorem look (fetch : p.fetch.Moves R) (deadline : τ) (looks : Nat) (seen : Option α)
    (fault : Option Fault) : (p.look deadline looks seen fault).Moves R := by
  induction looks generalizing seen fault with
  | zero => exact h.fail _
  | succ looks ih =>
    intro site w
    have fetched := fetch site w
    rw [Polling.run_look]
    revert fetched
    rcases p.fetch.run site w with ⟨r, w₁⟩
    intro fetched
    have remarked := h.trans fetched (h.remarked p r w₁)
    dsimp only
    cases p.verdict r with
    | some result => exact remarked
    | none =>
      have paused := h.pause p deadline site (p.remarked r w₁)
      revert paused
      dsimp only
      rcases (p.pause deadline).run site (p.remarked r w₁) with ⟨_ | _ | _, w₂⟩ <;> intro paused
      · exact h.trans remarked paused
      · exact h.trans remarked paused
      · exact h.trans (h.trans remarked paused) (ih _ _ site w₂)

theorem wait (fetch : p.fetch.Moves R) : p.wait.Moves R := by
  refine ite (h.fail _) (ite (h.fail _) ?_)
  exact h.bind h.world fun _ => h.look fetch _ _ _ _

/-- A wait that ends with an answer ends at a fetch that decides so.  What comes before it is known
from the fetches that decide nothing. -/
theorem fetch_of_look {site : Site τ σ}
    (undecided : ∀ w, p.verdict (p.fetch.run site w).1 = none → R w (p.fetch.run site w).2)
    {deadline : τ} {looks : Nat} {seen : Option α} {fault : Option Fault} {w w' : World τ σ}
    {answer : Option α}
    (run : (p.look deadline looks seen fault).run site w = (.ok answer, w')) :
    ∃ w₁ w₂ r, R w w₁ ∧ p.fetch.run site w₁ = (r, w₂) ∧ p.Decides r (.ok answer) ∧
      w' = p.remarked r w₂ := by
  -- a look that decides is the last one; the world behind any other one is reached along the
  -- relation
  induction looks generalizing seen fault w with
  | zero => cases run
  | succ looks ih =>
    rw [Polling.run_look] at run
    have moved := undecided w
    rcases fetched : p.fetch.run site w with ⟨r, w₁⟩
    rw [fetched] at run moved
    dsimp only at run moved
    cases verdict : p.verdict r with
    | some result =>
      rw [verdict] at run
      cases run
      exact ⟨w, w₁, r, h.refl w, fetched, (p.verdict_eq_some_iff r _).mp verdict, rfl⟩
    | none =>
      rw [verdict] at run
      have paused := h.pause p deadline site (p.remarked r w₁)
      rcases rested : (p.pause deadline).run site (p.remarked r w₁) with ⟨_ | _ | _, w₂⟩
      · simp only [rested] at run
        cases run
      · simp only [rested] at run
        cases run
      · simp only [rested] at run paused
        obtain ⟨w₃, w₄, r', reached, last⟩ := ih run
        have before := h.trans (h.trans (moved verdict) (h.remarked p r w₁)) paused
        exact ⟨w₃, w₄, r', h.trans before reached, last⟩

/-- The same for a whole wait, which has not been refused if it ends with an answer. -/
theorem fetch_of_wait {site : Site τ σ}
    (undecided : ∀ w, p.verdict (p.fetch.run site w).1 = none → R w (p.fetch.run site w).2)
    {w w' : World τ σ} {answer : Option α} (run : p.wait.run site w = (.ok answer, w')) :
    ∃ w₁ w₂ r, R w w₁ ∧ p.fetch.run site w₁ = (r, w₂) ∧ p.Decides r (.ok answer) ∧
      w' = p.remarked r w₂ := by
  rw [Polling.wait, Act.run_ite] at run
  split at run
  next => cases run
  next =>
    rw [Act.run_ite] at run
    split at run
    next => cases run
    next =>
      rw [Act.run_bind_of_ok _ (Act.run_world ..)] at run
      exact h.fetch_of_look undecided run

/-- If fetches move along the relation, so does all that a wait does before and after the fetch that
it ends at. -/
theorem ok_of_wait (fetch : p.fetch.Moves R) {site : Site τ σ} {w w' : World τ σ}
    {answer : Option α} (run : p.wait.run site w = (.ok answer, w')) :
    ∃ w₁ w₂ r, R w w₁ ∧ p.fetch.run site w₁ = (r, w₂) ∧ p.Decides r (.ok answer) ∧
      R w₂ w' := by
  obtain ⟨w₁, w₂, r, before, last, decides, rfl⟩ :=
    h.fetch_of_wait (fun w _ => fetch site w) run
  exact ⟨w₁, w₂, r, before, last, decides, h.remarked p r w₂⟩

end TrialRun.Calm
