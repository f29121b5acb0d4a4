import TrialRun.Proofs.Cluster.Requests
import TrialRun.Proofs.Polling.Course

/-!
# Waits for replies

Most waits look at the cluster: each fetch makes the same call and makes something of the answer
(`Polling.Looks`).  If nothing else is asked meanwhile, the replies to that call are known from the
site alone (`Site.reply`), and so is the course of the fetches.  Such a wait therefore follows the
course of its replies, and the calls it has made are the first of them, in order.
-/

set_option autoImplicit false

namespace TrialRun

variable {τ σ α : Type} {f : Cluster.Form}

/-! ## Replies -/

namespace Site

/-- The state of the outside once a call was made so many times, and nothing else. -/
def after (site : Site τ σ) (c : Cluster.Call f) (s : σ) : Nat → σ
  | 0 => s
  | n + 1 => (site.answer c (after site c s n)).2

/-- The answer to a call that was made so many times before. -/
def reply (site : Site τ σ) (c : Cluster.Call f) (s : σ) (n : Nat) : Answer τ f.Carrier :=
  (site.answer c (site.after c s n)).1

/-- So many calls with the outcomes of their answers, the last first. -/
def calls (site : Site τ σ) (c : Cluster.Call f) (s : σ) : Nat → List (Event τ)
  | 0 => []
  | n + 1 => .called c (site.reply c s n).outcome :: calls site c s n

/-- The course of fetches that make a call each and make something of the answer. -/
def course (site : Site Rat σ) (c : Cluster.Call f) (task : String)
    (make : f.Carrier → Except Fault α) (s : σ) (takesTime : ∀ s, 0 ≤ (site.answer c s).1.cost) :
    Course α where
  duration n := (site.reply c s n).cost
  outcome n _ := (site.reply c s n).outcome.told task >>= make
  duration_nonneg n := takesTime (site.after c s n)

end Site

/-- The event is a call. -/
def Event.isCall : Event τ → Bool
  | .called _ _ => true
  | _ => false

/-- All calls that were made, the last first. -/
def callsMade (record : List (Event τ)) : List (Event τ) := record.filter Event.isCall

theorem callsMade_append (later earlier : List (Event τ)) :
    callsMade (later ++ earlier) = callsMade later ++ callsMade earlier :=
  List.filter_append _ _

theorem Event.IsEveryday.isCall {e : Event τ} (h : e.IsEveryday) : e.isCall = false := by
  cases e with
  | called c o => exact h.elim
  | _ => rfl

/-- Everyday events are no calls. -/
theorem callsMade_eq_nil {es : List (Event τ)} (h : ∀ e ∈ es, e.IsEveryday) :
    callsMade es = [] := by
  apply List.filter_eq_nil_iff.mpr
  intro e member
  rw [(h e member).isCall]
  exact Bool.false_ne_true

/-! ## Waits -/

namespace Polling

variable [Timescale τ]

/-- Each fetch of the wait makes a call for a task, and makes something of the answer. -/
def Looks (p : Polling τ σ α) (site : Site τ σ) (task : String) (c : Cluster.Call f)
    (make : f.Carrier → Except Fault α) : Prop :=
  ∀ w, p.fetch.run site w =
    ((site.answer c w.outside).1.outcome.told task >>= make, w.answered site c)

/-- The text of a timeout begins with what was waited for, and for how long. -/
theorem exists_expired_eq (p : Polling τ σ α) (seen : Option α) (fault : Option Fault) :
    ∃ rest, p.expired seen fault = .timedOut
      (s!"Timeout waiting for {p.description} after {Timescale.text p.timeout}s" ++ rest) :=
  ⟨_, congrArg Fault.timedOut String.append_assoc⟩

section Exact

variable {p : Polling Rat σ α} {site : Site Rat σ} {task : String} {c : Cluster.Call f}
  {make : f.Carrier → Except Fault α} (looks : p.Looks site task c make)
  (takesTime : ∀ s, 0 ≤ (site.answer c s).1.cost)

include looks

/-- The looks of such a wait follow the course of the replies. -/
theorem follows_course (s : σ) {q : Polling Rat Nat α} (interval : q.interval = p.interval)
    (timeout : q.timeout = p.timeout) :
    p.Follows site (site.after c s) (site.course c task make s takesTime) q where
  interval := interval
  timeout := timeout
  result n w outside := by
    rw [looks w, outside]
    rfl
  clock n w outside := by
    rw [looks w, World.answered_clock, outside]
    rfl
  outside n w outside := by
    rw [looks w, World.answered_outside, outside]
    rfl

include takesTime in
/-- Replies take no negative time, so that the clock is never set back. -/
theorem patient_of_looks : p.Patient site := by
  intro w
  rw [looks w, World.answered_clock]
  exact le_add_of_nonneg_right (takesTime w.outside)

/-- One look makes one call. -/
theorem callsMade_afterFetch (w : World Rat σ) :
    callsMade (p.afterFetch site w).record =
      .called c (site.answer c w.outside).1.outcome :: callsMade w.record := by
  have remarks : callsMade (p.remarks (p.resultIn site w)) = [] :=
    callsMade_eq_nil fun _ member => (isPassing_of_mem_remarks member).isEveryday
  have waits : callsMade ((site.answer c w.outside).1.outcome.waits : List (Event Rat)) = [] :=
    callsMade_eq_nil fun _ => Outcome.isEveryday_of_mem_waits
  change callsMade (p.remarks (p.resultIn site w) ++ (p.fetch.run site w).2.record) = _
  rw [looks w, World.answered_record, callsMade_append, callsMade_append, remarks, waits]
  rfl

/-- The calls that were made before a look are those of the looks before it. -/
theorem callsMade_visit (deadline : Rat) (w : World Rat σ) (n : Nat) :
    (p.visit site deadline w n).outside = site.after c w.outside n ∧
      callsMade (p.visit site deadline w n).record =
        site.calls c w.outside n ++ callsMade w.record := by
  induction n with
  | zero => exact ⟨rfl, rfl⟩
  | succ n ih =>
    obtain ⟨outside, made⟩ := ih
    constructor
    · change (p.fetch.run site _).2.outside = _
      rw [looks, World.answered_outside, outside]
      rfl
    · change callsMade (.slept _ :: (p.afterFetch site _).record) = _
      rw [← List.singleton_append, callsMade_append, callsMade_afterFetch looks, outside, made]
      rfl

include takesTime in
/-- There is a last look: no look before it decides anything, and it decides itself or comes too
late for another one.  The wait has made one call for each look up to it, and ends with what it
decides, or with a timeout. -/
theorem exists_lastLook (positive : 0 < p.interval) (fits : p.interval ≤ p.timeout)
    (w : World Rat σ) {q : Polling Rat Nat α} (interval : q.interval = p.interval)
    (timeout : q.timeout = p.timeout) :
    let starts := (site.course c task make w.outside takesTime).Starts q w.clock
    let decided n := p.verdict ((site.reply c w.outside n).outcome.told task >>= make)
    let ended := p.wait.run site w
    ∃ last, starts last ∧ (∀ m < last, decided m = none) ∧
      (decided last = none → ¬starts (last + 1)) ∧
      callsMade ended.2.record = site.calls c w.outside (last + 1) ++ callsMade w.record ∧
      ∃ seen, ended.1 = (decided last).getD (.error (.timedOut
        (s!"Timeout waiting for {p.description} after {Timescale.text p.timeout}s" ++ seen))) := by
  intro starts decided ended
  let polls := site.course c task make w.outside takesTime
  -- the looks follow the course of the replies, so that starts and ends are those of the course
  have follows : p.Follows site (site.after c w.outside) polls q :=
    follows_course looks takesTime w.outside interval timeout
  have patient : p.Patient site := patient_of_looks looks takesTime
  have open_iff : ∀ n, p.Open site (w.clock + p.timeout) (p.visit site (w.clock + p.timeout) w n) ↔
      decided n = none ∧ polls.ends q w.clock n < w.clock + q.timeout :=
    open_iff_of_follows follows rfl
  obtain ⟨last, -, first⟩ := exists_firstClosed positive patient w
  have before := fun m hm => (open_iff m).mp (first.before m hm)
  obtain ⟨answered, left⟩ := run_wait_of_follows follows rfl positive fits patient first
  obtain ⟨outside, made⟩ := callsMade_visit looks (w.clock + p.timeout) w last
  refine ⟨last, fun m hm => (before m hm).2, fun m hm => (before m hm).1, ?_, ?_, ?_⟩
  · intro undecided further
    exact first.closed ((open_iff last).mpr ⟨undecided, further last (Nat.lt_succ_self last)⟩)
  · rw [left, callsMade_afterFetch looks, outside, made]
    rfl
  · obtain ⟨seen, expired⟩ := p.exists_expired_eq (polls.seenBy q w.clock (last + 1))
      (faultOf (polls.result q w.clock last))
    refine ⟨seen, ?_⟩
    rw [← expired]
    exact answered

end Exact

end Polling

end TrialRun
