import Mathlib.Algebra.Order.Field.Rat
import Mathlib.Tactic.Linarith
import TrialRun.Proofs.Polling.Look

/-!
# Waits in exact time

In exact time a wait is told by its looks.  `Polling.visit` gives the world in which each look
begins, as long as the looks before it leave the wait open: one more fetch, its remarks, and a rest
that ends at the deadline at the latest.  The first look that does not leave the wait open ends it
(`run_wait`), by what its fetch decides or because the deadline has come.

If no fetch sets the clock back, such a look is met before there are more looks than intervals fit
into the timeout (`exists_firstClosed`): each round takes a whole interval, or ends at the deadline.
-/

set_option autoImplicit false

namespace TrialRun.Polling

variable {σ α : Type} (p : Polling Rat σ α) (site : Site Rat σ) (deadline : Rat)

/-! ## Rounds -/

/-- The world after the rest before the next look. -/
def rested (w : World Rat σ) : World Rat σ :=
  let span := min p.interval (deadline - w.clock)
  { w with clock := w.clock + span, record := .slept span :: w.record }

variable {p} in
/-- There is a rest as long as the deadline has not come. -/
theorem run_pause (positive : 0 < p.interval) (w : World Rat σ) :
    (p.pause deadline).run site w =
      if w.clock < deadline then (.ok true, p.rested deadline w) else (.ok false, w) := by
  have cut : (if deadline - w.clock < p.interval then deadline - w.clock else p.interval) =
      min p.interval (deadline - w.clock) := by
    split
    next shorter => rw [min_eq_right shorter.le]
    next longer => rw [min_eq_left (not_lt.mp longer)]
  have run : (p.pause deadline).run site w =
      if deadline - w.clock ≤ 0 then (.ok false, w)
      else (do
        Act.sleep (if deadline - w.clock < p.interval then deadline - w.clock else p.interval)
        pure true : Act Rat σ Bool).run site w := by
    rw [pause, Act.run_bind_of_ok _ (Act.run_world ..), Act.run_ite]
    simp only [Timescale.le, Timescale.lt, Timescale.sub, Timescale.seconds, decide_eq_true_eq]
    rfl
  rw [run, cut]
  by_cases early : w.clock < deadline
  · have remaining : 0 < deadline - w.clock := sub_pos.mpr early
    have span : 0 < min p.interval (deadline - w.clock) := lt_min positive remaining
    rw [if_neg (not_le.mpr remaining), if_pos early, Act.run_bind, Act.run_sleep]
    have awake :
        ¬Timescale.lt (min p.interval (deadline - w.clock)) (Timescale.seconds 0) = true := by
      simpa [Timescale.lt, Timescale.seconds] using span.le
    rw [if_neg awake]
    rfl
  · rw [if_pos (sub_nonpos.mpr (not_lt.mp early)), if_neg early]

/-- What the fetch of a look ends with. -/
def resultIn (w : World Rat σ) : Except Fault α := (p.fetch.run site w).1

/-- The world once the fetch of a look has ended, with the remarks on it. -/
def afterFetch (w : World Rat σ) : World Rat σ :=
  p.remarked (p.resultIn site w) (p.fetch.run site w).2

/-- Whether a look leaves the wait open: its fetch decides nothing and there is time left. -/
def Open (w : World Rat σ) : Prop :=
  p.verdict (p.resultIn site w) = none ∧ (p.afterFetch site w).clock < deadline

/-- The world in which a look begins, if all looks before it leave the wait open. -/
def visit (w : World Rat σ) : Nat → World Rat σ
  | 0 => w
  | n + 1 => p.rested deadline (p.afterFetch site (visit w n))

/-- The state that was seen last in so many looks. -/
def seenBy (w : World Rat σ) : Nat → Option α
  | 0 => none
  | n + 1 => seenAfter (seenBy w n) (p.resultIn site (p.visit site deadline w n))

/-- The fault of the last of so many looks. -/
def faultBy (w : World Rat σ) : Nat → Option Fault
  | 0 => none
  | n + 1 => faultOf (p.resultIn site (p.visit site deadline w n))

/-- How a wait ends at a look that does not leave it open. -/
def ending (w : World Rat σ) (n : Nat) : Except Fault (Option α) × World Rat σ :=
  ((p.verdict (p.resultIn site (p.visit site deadline w n))).getD
      (.error (p.expired (p.seenBy site deadline w (n + 1)) (p.faultBy site deadline w (n + 1)))),
    p.afterFetch site (p.visit site deadline w n))

/-- A look is the first that does not leave the wait open. -/
structure FirstClosed (w : World Rat σ) (n : Nat) : Prop where
  closed : ¬p.Open site deadline (p.visit site deadline w n)
  before : ∀ m < n, p.Open site deadline (p.visit site deadline w m)

variable {p site deadline}

/-- A look that leaves the wait open is followed by the next one. -/
theorem run_look_of_open (positive : 0 < p.interval) {looks : Nat} {seen : Option α}
    {fault : Option Fault} {w : World Rat σ} (h : p.Open site deadline w) :
    (p.look deadline (looks + 1) seen fault).run site w =
      (p.look deadline looks (seenAfter seen (p.resultIn site w))
        (faultOf (p.resultIn site w))).run site (p.rested deadline (p.afterFetch site w)) := by
  obtain ⟨undecided, early⟩ := h
  have paused := run_pause site deadline positive (p.afterFetch site w)
  rw [if_pos early] at paused
  unfold resultIn at undecided
  unfold afterFetch resultIn at paused
  rw [run_look]
  dsimp only
  rw [undecided]
  dsimp only
  rw [paused]
  rfl

/-- A look that does not leave the wait open ends it. -/
theorem run_look_of_closed (positive : 0 < p.interval) {looks : Nat} {seen : Option α}
    {fault : Option Fault} {w : World Rat σ} (h : ¬p.Open site deadline w) :
    (p.look deadline (looks + 1) seen fault).run site w =
      ((p.verdict (p.resultIn site w)).getD
          (.error (p.expired (seenAfter seen (p.resultIn site w)) (faultOf (p.resultIn site w)))),
        p.afterFetch site w) := by
  have paused := run_pause site deadline positive (p.afterFetch site w)
  rw [run_look]
  cases verdict : p.verdict (p.resultIn site w) with
  | some result =>
    unfold resultIn at verdict
    dsimp only
    rw [verdict]
    rfl
  | none =>
    have late : ¬(p.afterFetch site w).clock < deadline := fun early => h ⟨verdict, early⟩
    rw [if_neg late] at paused
    unfold resultIn at verdict
    unfold afterFetch resultIn at paused
    dsimp only
    rw [verdict]
    dsimp only
    rw [paused]
    rfl

/-- As long as the looks leave the wait open, they lead from one visit to the next. -/
theorem run_look_of_visits (positive : 0 < p.interval) (w : World Rat σ) (n looks : Nat)
    (h : ∀ m < n, p.Open site deadline (p.visit site deadline w m)) :
    (p.look deadline (n + looks) none none).run site w =
      (p.look deadline looks (p.seenBy site deadline w n) (p.faultBy site deadline w n)).run site
        (p.visit site deadline w n) := by
  induction n generalizing looks with
  | zero => rw [Nat.zero_add]; rfl
  | succ n ih =>
    have earlier := ih (looks + 1) fun m hm => h m (Nat.lt_succ_of_lt hm)
    rw [show n + 1 + looks = n + (looks + 1) by omega, earlier,
      run_look_of_open positive (h n (Nat.lt_succ_self n))]
    rfl

/-- The first look that does not leave the wait open ends it. -/
theorem run_look_of_firstClosed (positive : 0 < p.interval) {w : World Rat σ} {n looks : Nat}
    (first : p.FirstClosed site deadline w n) (enough : n < looks) :
    (p.look deadline looks none none).run site w = p.ending site deadline w n := by
  obtain ⟨extra, rfl⟩ : ∃ extra, looks = n + (extra + 1) := ⟨looks - n - 1, by omega⟩
  rw [run_look_of_visits positive w n _ first.before, run_look_of_closed positive first.closed]
  rfl

/-! ## The end -/

/-- No fetch sets the clock back. -/
def Patient (p : Polling Rat σ α) (site : Site Rat σ) : Prop :=
  ∀ w, w.clock ≤ (p.fetch.run site w).2.clock

variable (deadline) in
/-- Each round takes an interval at least, or ends at the deadline. -/
theorem le_clock_visit (patient : p.Patient site) (w : World Rat σ)
    (n : Nat) :
    min (w.clock + n * p.interval) deadline ≤ (p.visit site deadline w n).clock ∨
      ∃ m < n, deadline ≤ (p.afterFetch site (p.visit site deadline w m)).clock := by
  induction n with
  | zero =>
    left
    simp [visit]
  | succ n ih =>
    -- a round that has ended late stays so; otherwise the rest adds an interval, or is cut
    rcases ih with reached | ⟨m, hm, late⟩
    · have fetched : (p.visit site deadline w n).clock ≤
          (p.afterFetch site (p.visit site deadline w n)).clock := patient _
      by_cases late : deadline ≤ (p.afterFetch site (p.visit site deadline w n)).clock
      · exact .inr ⟨n, Nat.lt_succ_self n, late⟩
      · left
        have rest : (p.visit site deadline w (n + 1)).clock =
            min ((p.afterFetch site (p.visit site deadline w n)).clock + p.interval) deadline := by
          change (p.afterFetch site (p.visit site deadline w n)).clock +
            min p.interval (deadline - (p.afterFetch site (p.visit site deadline w n)).clock) = _
          rw [← min_add_add_left, add_sub_cancel]
        rw [rest]
        refine le_min ?_ (min_le_right _ _)
        rcases le_total (w.clock + n * p.interval) deadline with low | high
        · rw [min_eq_left low] at reached
          refine (min_le_left _ _).trans ?_
          push_cast
          linarith
        · rw [min_eq_right high] at reached
          exact absurd (reached.trans fetched) late
    · exact .inr ⟨m, Nat.lt_succ_of_lt hm, late⟩

/-- So many intervals fill the timeout. -/
theorem le_intervals_mul {timeout interval : Rat} (positive : 0 < interval) :
    timeout ≤ Timescale.intervals timeout interval * interval := by
  have quotient : timeout / interval ≤ ((timeout / interval).ceil.toNat : Rat) := by
    have whole : (timeout / interval).ceil ≤ ((timeout / interval).ceil.toNat : Int) :=
      Int.self_le_toNat _
    calc timeout / interval ≤ ((timeout / interval).ceil : Rat) := Rat.le_ceil
      _ ≤ (((timeout / interval).ceil.toNat : Int) : Rat) := by exact_mod_cast whole
      _ = ((timeout / interval).ceil.toNat : Rat) := by push_cast; rfl
  rw [Timescale.intervals, if_pos positive]
  exact (div_le_iff₀ positive).mp quotient

/-- A wait does not stay open for more looks than the timeout has room for. -/
theorem exists_firstClosed (positive : 0 < p.interval) (patient : p.Patient site)
    (w : World Rat σ) :
    ∃ n ≤ Timescale.intervals p.timeout p.interval,
      p.FirstClosed site (w.clock + p.timeout) w n := by
  set deadline := w.clock + p.timeout with deadline_def
  set room := Timescale.intervals p.timeout p.interval
  have closed : ∃ n, ¬p.Open site deadline (p.visit site deadline w n) ∧ n ≤ room := by
    rcases le_clock_visit deadline patient w room with reached | late
    · refine ⟨room, fun still => ?_, le_rfl⟩
      have filled : deadline ≤ w.clock + room * p.interval := by
        rw [deadline_def]
        exact add_le_add_right (le_intervals_mul positive) _
      rw [min_eq_right filled] at reached
      exact absurd (reached.trans (patient _)) (not_le.mpr still.2)
    · obtain ⟨m, hm, late⟩ := late
      exact ⟨m, fun still => absurd late (not_le.mpr still.2), hm.le⟩
  classical
  refine ⟨Nat.find closed, (Nat.find_spec closed).2, (Nat.find_spec closed).1, fun m hm => ?_⟩
  by_contra shut
  exact Nat.find_min closed hm ⟨shut, hm.le.trans (Nat.find_spec closed).2⟩

/-- A wait whose interval fits into its timeout ends at the first look that does not leave it
open. -/
theorem run_wait (positive : 0 < p.interval) (fits : p.interval ≤ p.timeout)
    (patient : p.Patient site) {w : World Rat σ} {n : Nat}
    (first : p.FirstClosed site (w.clock + p.timeout) w n) :
    p.wait.run site w = p.ending site (w.clock + p.timeout) w n := by
  obtain ⟨m, room, first'⟩ := exists_firstClosed positive patient w
  have same : n ≤ m := by
    by_contra later
    exact first'.closed (first.before m (not_le.mp later))
  have enough : n < Timescale.looks p.timeout p.interval :=
    lt_of_le_of_lt (same.trans room) (Nat.lt_add_of_pos_right (by decide))
  have mismatch : ¬Timescale.lt p.timeout p.interval = true := by
    simpa [Timescale.lt] using fits
  have told : ¬(!Timescale.fits p.timeout) = true := Bool.false_ne_true
  rw [wait, Act.run_ite, if_neg mismatch, Act.run_ite, if_neg told,
    Act.run_bind_of_ok _ (Act.run_world ..)]
  exact run_look_of_firstClosed positive first enough

/-- An interval that does not fit into the timeout is refused before anything is done. -/
theorem run_wait_of_mismatch (mismatch : p.timeout < p.interval) (w : World Rat σ) :
    p.wait.run site w = (.error p.mismatch, w) := by
  have refused : Timescale.lt p.timeout p.interval = true := by
    simpa [Timescale.lt] using mismatch
  rw [wait, Act.run_ite, if_pos refused]
  rfl

end TrialRun.Polling
