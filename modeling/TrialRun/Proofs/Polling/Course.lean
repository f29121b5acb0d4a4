import TrialRun.Proofs.Polling.Rounds

/-!
# Waits over a course of fetches

A course says of each fetch, by its number, how long it takes and what it ends with, which may also
depend on when it ends.  Once it is known, the timetable of the fetches is known without running any
wait (`Course.begins`): the first begins at once, each other one interval after the end of the one
before, but at the deadline at the latest; and a fetch is started if all before it end early enough.

`wait_during` says what a wait over a course ends with: what the first decisive among the started
fetches decides, after that fetch, or else a timeout after the last of them.  `wait_sampled` is
about a condition that is met from some moment on, no later than the deadline: it is never missed,
and it is noticed within one interval and the duration of the fetch that notices it.
-/

set_option autoImplicit false

namespace TrialRun

/-- What is known of the fetches of a wait: how long each takes, and what it ends with at a time. -/
structure Course (α : Type) where
  duration : Nat → Rat
  outcome : Nat → Rat → Except Fault α
  duration_nonneg : ∀ n, 0 ≤ duration n

namespace Course

variable {α : Type} (c : Course α) (p : Polling Rat Nat α) (start : Rat)

/-- The course of fetches that show something remote as it is when they end. -/
def sampled (duration : Nat → Rat) (duration_nonneg : ∀ n, 0 ≤ duration n)
    (remote : Rat → Except Fault α) : Course α where
  duration := duration
  outcome _ := remote
  duration_nonneg := duration_nonneg

/-- The next fetch of the course.  The outside counts the fetches. -/
def fetch : Act Rat Nat α := do
  Act.record .fetched
  let n := (← Act.world).outside
  Act.change fun w => { w with outside := n + 1 }
  Act.pass (c.duration n)
  Act.ofExcept (c.outcome n (← Act.world).clock)

/-- When a fetch begins, if it is started. -/
def begins : Nat → Rat
  | 0 => start
  | n + 1 => min (begins n + c.duration n + p.interval) (start + p.timeout)

/-- When a fetch ends, if it is started. -/
def ends (n : Nat) : Rat := c.begins p start n + c.duration n

/-- What a fetch ends with, if it is started. -/
def result (n : Nat) : Except Fault α := c.outcome n (c.ends p start n)

/-- The state that was seen last in so many fetches, if they are started. -/
def seenBy : Nat → Option α
  | 0 => none
  | n + 1 => Polling.seenAfter (seenBy n) (c.result p start n)

/-- Whether a wait without any decisive fetch gets to start a fetch. -/
def Starts (n : Nat) : Prop := ∀ m < n, c.ends p start m < start + p.timeout

variable {c p start}

/-- If a fetch is started, all fetches before it are. -/
theorem Starts.earlier {m n : Nat} (h : c.Starts p start n) (before : m ≤ n) :
    c.Starts p start m :=
  fun _ earlier => h _ (earlier.trans_le before)

variable (c p start)

/-- A fetch that is started begins by the deadline. -/
theorem begins_le (nonneg : 0 ≤ p.timeout) (n : Nat) : c.begins p start n ≤ start + p.timeout := by
  cases n with
  | zero => exact le_add_of_nonneg_right nonneg
  | succ n => exact min_le_right _ _

/-- A fetch is started if the fetches before it, with an interval behind each, leave time for it. -/
theorem starts_of_duration_le {longest : Rat} (brief : ∀ n, c.duration n ≤ longest)
    (nonneg : 0 ≤ p.interval) {n : Nat} (room : n * (longest + p.interval) < p.timeout) :
    c.Starts p start n := by
  have begins : ∀ m, c.begins p start m ≤ start + m * (longest + p.interval) := by
    intro m
    induction m with
    | zero => simp [Course.begins]
    | succ m ih =>
      refine (min_le_left _ _).trans ?_
      have next := brief m
      push_cast
      linarith
  intro m earlier
  have latest : ((m : Rat) + 1) * (longest + p.interval) ≤ n * (longest + p.interval) := by
    have whole : (m : Rat) + 1 ≤ n := by exact_mod_cast earlier
    have rest : 0 ≤ longest := (c.duration_nonneg 0).trans (brief 0)
    exact mul_le_mul_of_nonneg_right whole (add_nonneg rest nonneg)
  have begun := begins m
  have lasts := brief m
  rw [Course.ends]
  linarith

/-- A fetch is the first decisive one among those that are started. -/
structure FirstDecisive (k : Nat) (answer : Except Fault (Option α)) : Prop where
  starts : c.Starts p start k
  decides : p.Decides (c.result p start k) answer
  before : ∀ m < k, ∀ other, ¬p.Decides (c.result p start m) other

end Course

/-- The world in which no fetch has been counted yet. -/
def World.begun (w : World Rat Nat) : World Rat Nat := { w with outside := 0 }

/-- A site where nothing is. -/
def Site.vacant : Site Rat Nat where
  answer _ s := (⟨0, .refused (.plain .unreachable "unreachable")⟩, s)
  react _ s := (⟨0, .failed (.plain .unreachable "unreachable")⟩, s)
  obstacle _ s := (none, s)
  temporary := Path.ofText
  settings := {}
  apiKeys := .null

/-- The world of a trial that has not begun. -/
def World.blank : World Rat Nat where
  clock := 0
  outside := 0
  volume := {}
  trial := { name := "trial", pollingInterval := 2 }

namespace Polling

open Course

/-! ## Fetches that follow a course -/

section Following

variable {σ α : Type} {p : Polling Rat σ α} {site : Site Rat σ} {state : Nat → σ} {c : Course α}
  {q : Polling Rat Nat α} {w : World Rat σ}

/-- A course tells of the fetches of a wait at a site, if nothing else changes the outside: it says
how long each takes and what it ends with, while the outside goes from state to state.  The
timetable is that of a wait with the same interval and timeout. -/
structure Follows (p : Polling Rat σ α) (site : Site Rat σ) (state : Nat → σ) (c : Course α)
    (q : Polling Rat Nat α) : Prop where
  interval : q.interval = p.interval
  timeout : q.timeout = p.timeout
  result : ∀ n w, w.outside = state n →
    (p.fetch.run site w).1 = c.outcome n (w.clock + c.duration n)
  clock : ∀ n w, w.outside = state n → (p.fetch.run site w).2.clock = w.clock + c.duration n
  outside : ∀ n w, w.outside = state n → (p.fetch.run site w).2.outside = state (n + 1)

/-- The looks of a wait that follows a course keep to its timetable. -/
theorem visit_of_follows (h : p.Follows site state c q) (begun : w.outside = state 0) (n : Nat) :
    (p.visit site (w.clock + p.timeout) w n).outside = state n ∧
      (p.visit site (w.clock + p.timeout) w n).clock = c.begins q w.clock n := by
  induction n with
  | zero => exact ⟨begun, rfl⟩
  | succ n ih =>
    obtain ⟨outside, clock⟩ := ih
    have ended : (p.afterFetch site (p.visit site (w.clock + p.timeout) w n)).clock =
        c.ends q w.clock n := by
      change (p.fetch.run site _).2.clock = _
      rw [h.clock n _ outside, clock]
      rfl
    constructor
    · exact h.outside n _ outside
    · change (p.afterFetch site _).clock +
        min p.interval (w.clock + p.timeout - (p.afterFetch site _).clock) = _
      rw [ended, ← min_add_add_left, add_sub_cancel, ← h.interval, ← h.timeout]
      rfl

/-- The fetch of a look ends as the course says. -/
theorem resultIn_of_follows (h : p.Follows site state c q) (begun : w.outside = state 0)
    (n : Nat) :
    p.resultIn site (p.visit site (w.clock + p.timeout) w n) = c.result q w.clock n := by
  obtain ⟨outside, clock⟩ := visit_of_follows h begun n
  rw [resultIn, h.result n _ outside, clock]
  rfl

/-- A look leaves the world with the time at which its fetch ends. -/
theorem afterFetch_of_follows (h : p.Follows site state c q) (begun : w.outside = state 0)
    (n : Nat) :
    (p.afterFetch site (p.visit site (w.clock + p.timeout) w n)).clock = c.ends q w.clock n ∧
      (p.afterFetch site (p.visit site (w.clock + p.timeout) w n)).outside = state (n + 1) := by
  obtain ⟨outside, clock⟩ := visit_of_follows h begun n
  constructor
  · change (p.fetch.run site _).2.clock = _
    rw [h.clock n _ outside, clock]
    rfl
  · exact h.outside n _ outside

/-- A look leaves a wait open if its fetch decides nothing and ends before the deadline. -/
theorem open_iff_of_follows (h : p.Follows site state c q) (begun : w.outside = state 0)
    (n : Nat) :
    p.Open site (w.clock + p.timeout) (p.visit site (w.clock + p.timeout) w n) ↔
      p.verdict (c.result q w.clock n) = none ∧ c.ends q w.clock n < w.clock + q.timeout := by
  rw [Open, resultIn_of_follows h begun, (afterFetch_of_follows h begun n).1, h.timeout]

/-- The last state that was seen is the last one that the course shows. -/
theorem seenBy_of_follows (h : p.Follows site state c q) (begun : w.outside = state 0) (n : Nat) :
    p.seenBy site (w.clock + p.timeout) w n = c.seenBy q w.clock n := by
  induction n with
  | zero => rfl
  | succ n ih =>
    rw [seenBy, ih, resultIn_of_follows h begun]
    rfl

/-- A wait that follows a course ends at its first look that does not leave it open: with what the
fetch decides, or with a timeout. -/
theorem run_wait_of_follows (h : p.Follows site state c q) (begun : w.outside = state 0)
    (positive : 0 < p.interval) (fits : p.interval ≤ p.timeout) (patient : p.Patient site) {n : Nat}
    (first : p.FirstClosed site (w.clock + p.timeout) w n) :
    (p.wait.run site w).1 =
        (p.verdict (c.result q w.clock n)).getD
          (.error (p.expired (c.seenBy q w.clock (n + 1)) (faultOf (c.result q w.clock n)))) ∧
      (p.wait.run site w).2 = p.afterFetch site (p.visit site (w.clock + p.timeout) w n) := by
  rw [run_wait positive fits patient first, ending, faultBy, resultIn_of_follows h begun,
    seenBy_of_follows h begun]
  exact ⟨rfl, rfl⟩

end Following

/-! ## Fetches of a course alone -/

variable {α : Type}

/-- The same wait over a course of fetches. -/
def during (p : Polling Rat Nat α) (c : Course α) : Polling Rat Nat α := { p with fetch := c.fetch }

variable {p : Polling Rat Nat α} {c : Course α} {site : Site Rat Nat}

theorem run_fetch (w : World Rat Nat) :
    c.fetch.run site w =
      (c.outcome w.outside (w.clock + c.duration w.outside),
        { w with
          clock := w.clock + c.duration w.outside
          outside := w.outside + 1
          record := .fetched :: w.record }) := by
  have made : c.fetch.run site w =
      (Act.ofExcept (c.outcome w.outside (w.clock + c.duration w.outside)) : Act Rat Nat α).run site
        { w with
          clock := w.clock + c.duration w.outside
          outside := w.outside + 1
          record := .fetched :: w.record } := rfl
  rw [made, Act.run_ofExcept]

theorem patient_during (site : Site Rat Nat) : (p.during c).Patient site := by
  intro w
  change w.clock ≤ (c.fetch.run site w).2.clock
  rw [run_fetch]
  exact le_add_of_nonneg_right (c.duration_nonneg w.outside)

/-- The outside of a course counts its fetches. -/
theorem follows_during (site : Site Rat Nat) : (p.during c).Follows site id c p where
  interval := rfl
  timeout := rfl
  result n w counted := by
    change (c.fetch.run site w).1 = _
    rw [run_fetch, counted]
    rfl
  clock n w counted := by
    change (c.fetch.run site w).2.clock = _
    rw [run_fetch, counted]
    rfl
  outside n w counted := by
    change (c.fetch.run site w).2.outside = _
    rw [run_fetch, counted]
    rfl

/-- A look leaves a wait open if its fetch decides nothing and ends before the deadline. -/
theorem open_during_iff (site : Site Rat Nat) {w : World Rat Nat} (fresh : w.outside = 0)
    (n : Nat) :
    (p.during c).Open site (w.clock + p.timeout)
        ((p.during c).visit site (w.clock + p.timeout) w n) ↔
      p.verdict (c.result p w.clock n) = none ∧ c.ends p w.clock n < w.clock + p.timeout :=
  open_iff_of_follows (follows_during site) fresh n

theorem verdict_eq_none_iff (r : Except Fault α) :
    p.verdict r = none ↔ ∀ answer, ¬p.Decides r answer := by
  simp only [Option.eq_none_iff_forall_ne_some, ne_eq, verdict_eq_some_iff]

/-- A result of a fetch with which a wait goes on: the condition does not hold, or the fetch has
failed with a fault that the wait deals with and that does not settle it. -/
def Unmet (p : Polling Rat Nat α) : Except Fault α → Prop
  | .ok v => p.satisfied v = .ok false
  | .error f => f.isOrdinary = true ∧ ∀ settles, p.settled = some settles → settles f = .ok false

theorem Unmet.verdict {r : Except Fault α} (h : p.Unmet r) : p.verdict r = none := by
  rw [verdict_eq_none_iff]
  intro answer decides
  cases decides with
  | satisfied yes => cases h.symm.trans yes
  | unasked fault => cases h.symm.trans fault
  | settled _ some yes => cases (h.2 _ some).symm.trans yes
  | unsettled _ some fault => cases (h.2 _ some).symm.trans fault
  | passed strange => cases h.1.symm.trans strange

/-- The first decisive fetch is the first look that does not leave the wait open. -/
theorem firstClosed_of_firstDecisive {w : World Rat Nat} (fresh : w.outside = 0) {k : Nat}
    {answer : Except Fault (Option α)} (first : c.FirstDecisive p w.clock k answer) :
    (p.during c).FirstClosed site (w.clock + p.timeout) w k where
  closed still := by
    have undecided := ((open_during_iff site fresh k).mp still).1
    exact verdict_eq_none_iff _ |>.mp undecided _ first.decides
  before m hm := (open_during_iff site fresh m).mpr
    ⟨(verdict_eq_none_iff _).mpr (first.before m hm), first.starts m hm⟩

/-- A wait over a course ends at its first look that does not leave it open: with what the fetch
decides, or with a timeout. -/
theorem run_wait_during (site : Site Rat Nat) (positive : 0 < p.interval)
    (fits : p.interval ≤ p.timeout) {w : World Rat Nat} {n : Nat}
    (first : (p.during c).FirstClosed site (w.clock + p.timeout) w.begun n) :
    ((p.during c).wait.run site w.begun).1 =
        (p.verdict (c.result p w.clock n)).getD
          (.error (p.expired (c.seenBy p w.clock (n + 1)) (faultOf (c.result p w.clock n)))) ∧
      ((p.during c).wait.run site w.begun).2.outside = n + 1 ∧
      ((p.during c).wait.run site w.begun).2.clock = c.ends p w.clock n := by
  have fresh : w.begun.outside = id 0 := rfl
  have follows := follows_during (p := p) (c := c) site
  obtain ⟨answered, left⟩ := run_wait_of_follows (w := w.begun) follows fresh positive fits
    (patient_during site) first
  obtain ⟨clock, counted⟩ := afterFetch_of_follows follows fresh n
  rw [left]
  exact ⟨answered, counted, clock⟩

/-- A wait has a last fetch.  It is started, and no fetch before it is decisive; and if it is not
decisive itself, there is no time left for another one. -/
theorem exists_lastFetch (p : Polling Rat Nat α) (c : Course α) (site : Site Rat Nat)
    (w : World Rat Nat) (positive : 0 < p.interval) :
    ∃ last ≤ Timescale.intervals p.timeout p.interval,
      (p.during c).FirstClosed site (w.clock + p.timeout) w.begun last ∧
      c.Starts p w.clock last ∧ (∀ m < last, p.verdict (c.result p w.clock m) = none) ∧
      (p.verdict (c.result p w.clock last) = none → ¬c.Starts p w.clock (last + 1)) := by
  obtain ⟨last, room, first⟩ := exists_firstClosed (p := p.during c) positive
    (patient_during site) w.begun
  have before := fun m hm => (open_during_iff site rfl m).mp (first.before m hm)
  refine ⟨last, room, first, fun m hm => (before m hm).2, fun m hm => (before m hm).1, ?_⟩
  intro undecided further
  exact first.closed ((open_during_iff site rfl last).mpr
    ⟨undecided, further last (Nat.lt_succ_self last)⟩)

/-- **What a wait ends with.**  An interval beyond the timeout is refused before any fetch or sleep.
Otherwise, if a started fetch is decisive, then the first such fetch is the last one that is made
and the wait ends with what it decides; if none is, all started fetches are made and the wait ends
with a timeout, whose text tells the last state that was seen and the fault of the last fetch.  The
refusal is not among these ends, unless a fetch decides so itself. -/
theorem wait_during (p : Polling Rat Nat α) (c : Course α) (site : Site Rat Nat)
    (w : World Rat Nat) (positive : 0 < p.interval) :
    let ended := (p.during c).wait.run site w.begun
    (p.timeout < p.interval → ended = (.error p.mismatch, w.begun)) ∧
    (p.interval ≤ p.timeout →
      (∀ k answer, c.FirstDecisive p w.clock k answer →
        ended.1 = answer ∧ ended.2.outside = k + 1) ∧
      ((¬∃ k answer, c.FirstDecisive p w.clock k answer) →
        ∃ last, c.Starts p w.clock last ∧ ¬c.Starts p w.clock (last + 1) ∧
          ended.2.outside = last + 1 ∧
          ended.1 = .error (p.expired (c.seenBy p w.clock (last + 1))
            (faultOf (c.result p w.clock last)))) ∧
      (ended.1 = .error p.mismatch → ∃ k, c.FirstDecisive p w.clock k (.error p.mismatch))) := by
  intro ended
  have fresh : w.begun.outside = 0 := rfl
  refine ⟨fun mismatch => run_wait_of_mismatch (p := p.during c) mismatch w.begun, fun fits => ?_⟩
  have decisive : ∀ k answer, c.FirstDecisive p w.clock k answer →
      ended.1 = answer ∧ ended.2.outside = k + 1 := by
    intro k answer first
    obtain ⟨answered, counted, -⟩ := run_wait_during (w := w) site positive fits
      (firstClosed_of_firstDecisive fresh first)
    refine ⟨answered.trans ?_, counted⟩
    rw [(p.verdict_eq_some_iff _ _).mpr first.decides]
    rfl
  have undecided : (¬∃ k answer, c.FirstDecisive p w.clock k answer) →
      ∃ last, c.Starts p w.clock last ∧ ¬c.Starts p w.clock (last + 1) ∧
        ended.2.outside = last + 1 ∧
        ended.1 = .error (p.expired (c.seenBy p w.clock (last + 1))
          (faultOf (c.result p w.clock last))) := by
    intro none
    -- some fetch closes the wait; as it decides nothing, it is the last one to start
    obtain ⟨n, -, first⟩ := exists_firstClosed (p := p.during c) positive (patient_during site)
      w.begun
    obtain ⟨answered, counted, -⟩ := run_wait_during (w := w) site positive fits first
    have before : ∀ m < n, p.verdict (c.result p w.clock m) = Option.none ∧
        c.ends p w.clock m < w.clock + p.timeout :=
      fun m hm => (open_during_iff site fresh m).mp (first.before m hm)
    have starts : c.Starts p w.clock n := fun m hm => (before m hm).2
    have verdict : p.verdict (c.result p w.clock n) = Option.none := by
      rw [verdict_eq_none_iff]
      intro answer decides
      exact none ⟨n, answer, starts, decides,
        fun m hm => (verdict_eq_none_iff _).mp (before m hm).1⟩
    refine ⟨n, starts, fun further => ?_, counted, ?_⟩
    · exact first.closed
        ((open_during_iff site fresh n).mpr ⟨verdict, further n (Nat.lt_succ_self n)⟩)
    · rw [verdict] at answered
      exact answered
  refine ⟨decisive, undecided, fun refused => ?_⟩
  -- a timeout has another kind than the refusal, so a fetch has decided it
  by_cases some : ∃ k answer, c.FirstDecisive p w.clock k answer
  · obtain ⟨k, answer, first⟩ := some
    have same : answer = .error p.mismatch := (decisive k answer first).1.symm.trans refused
    exact ⟨k, same ▸ first⟩
  · obtain ⟨last, -, -, -, timedOut⟩ := undecided some
    have kinds := congrArg (fun r => r.map fun _ => ()) (refused.symm.trans timedOut)
    cases kinds

/-- A count of fetches that is to reach two. -/
def toTwo : Polling Rat Nat Nat where
  fetch := pure 0
  satisfied n := .ok (n == 2)
  timeout := 5
  interval := 2
  description := "two"
  display := toString

/-- A first fetch that fails, and then the number of fetches before. -/
def counted : Course Nat where
  duration _ := 1 / 2
  outcome n _ := if n = 0 then .error (.plain .connection "refused") else .ok n
  duration_nonneg _ := by norm_num

theorem ends_counted : counted.ends toTwo 0 0 = 1 / 2 ∧ counted.ends toTwo 0 1 = 3 := by
  norm_num [ends, begins, counted, toTwo]

theorem wait_during_counted :
    0 < toTwo.interval ∧
      ((toTwo.during counted).wait.run Site.vacant World.blank.begun).1 = .ok (some 2) ∧
      ((toTwo.during counted).wait.run Site.vacant World.blank.begun).2.outside = 3 := by
  have positive : 0 < toTwo.interval := by norm_num [toTwo]
  have fits : toTwo.interval ≤ toTwo.timeout := by norm_num [toTwo]
  have first : counted.FirstDecisive toTwo 0 2 (.ok (some 2)) := by
    refine ⟨fun m hm => ?_, .satisfied rfl, fun m hm => (verdict_eq_none_iff _).mp ?_⟩
    · obtain ⟨zeroth, next⟩ := ends_counted
      obtain rfl | rfl : m = 0 ∨ m = 1 := by omega
      · rw [zeroth]
        norm_num [toTwo]
      · rw [next]
        norm_num [toTwo]
    · obtain rfl | rfl : m = 0 ∨ m = 1 := by omega
      · exact Unmet.verdict ⟨rfl, fun settles given => by cases given⟩
      · exact Unmet.verdict (r := .ok 1) rfl
  obtain ⟨answered, fetches⟩ :=
    ((wait_during toTwo counted Site.vacant World.blank positive).2 fits).1 2 _ first
  exact ⟨positive, answered, fetches⟩

/-! ## Sampling -/

/-- A fetch begins at the deadline at the latest, and within one interval after the fetch before. -/
theorem begins_lt {T start : Rat} (positive : 0 < p.interval) (lower : start ≤ T) {k : Nat}
    (before : ∀ m < k, c.ends p start m < T) : c.begins p start k < T + p.interval := by
  cases k with
  | zero => exact lower.trans_lt (lt_add_of_pos_right T positive)
  | succ k =>
    have earlier : c.ends p start k < T := before k (Nat.lt_succ_self k)
    calc c.begins p start (k + 1) ≤ c.ends p start k + p.interval := min_le_left _ _
      _ < T + p.interval := by linarith

/-- A fetch that shows a state that satisfies the condition is decisive. -/
theorem decides_of_shown {duration : Nat → Rat} {duration_nonneg : ∀ n, 0 ≤ duration n}
    {remote : Rat → Except Fault α} {start : Rat} {n : Nat} {v : α}
    (shown : remote ((sampled duration duration_nonneg remote).ends p start n) = .ok v)
    (yes : p.satisfied v = .ok true) :
    p.Decides ((sampled duration duration_nonneg remote).result p start n) (.ok (some v)) := by
  change p.Decides (remote _) _
  rw [shown]
  exact .satisfied yes

/-- **A condition that is met by the deadline is never missed.**  If it is met from a moment on, and
not before, then the wait ends with the state shown by the first fetch that ends at that moment or
later, and this fetch begins within one interval. -/
theorem wait_sampled (p : Polling Rat Nat α) (duration : Nat → Rat)
    (duration_nonneg : ∀ n, 0 ≤ duration n) (remote : Rat → Except Fault α) (site : Site Rat Nat)
    (w : World Rat Nat) (T : Rat) (positive : 0 < p.interval) (fits : p.interval ≤ p.timeout)
    (lower : w.clock ≤ T) (upper : T ≤ w.clock + p.timeout)
    (met : ∀ t, T ≤ t → ∃ v, remote t = .ok v ∧ p.satisfied v = .ok true)
    (unmet : ∀ t < T, p.Unmet (remote t)) :
    let c := Course.sampled duration duration_nonneg remote
    let ended := (p.during c).wait.run site w.begun
    ∃ k v, T ≤ c.ends p w.clock k ∧ (∀ m < k, c.ends p w.clock m < T) ∧
      remote (c.ends p w.clock k) = .ok v ∧
      ended.1 = .ok (some v) ∧
      ended.2.outside = k + 1 ∧ ended.2.clock = c.ends p w.clock k ∧
      c.ends p w.clock k < T + p.interval + duration k := by
  intro c ended
  have fresh : w.begun.outside = 0 := rfl
  obtain ⟨k, -, first⟩ := exists_firstClosed (p := p.during c) positive (patient_during site)
    w.begun
  obtain ⟨answered, counted, clock⟩ := run_wait_during (w := w) site positive fits first
  -- a look before the moment leaves the wait open, and only such a look does
  have late : T ≤ c.ends p w.clock k := by
    by_contra early
    have early : c.ends p w.clock k < T := not_le.mp early
    exact first.closed ((open_during_iff site fresh k).mpr
      ⟨(unmet _ early).verdict, early.trans_le upper⟩)
  have before : ∀ m < k, c.ends p w.clock m < T := by
    intro m hm
    by_contra reached
    obtain ⟨v, shown, yes⟩ := met _ (not_lt.mp reached)
    have undecided := ((open_during_iff site fresh m).mp (first.before m hm)).1
    exact (verdict_eq_none_iff _).mp undecided _ (decides_of_shown shown yes)
  obtain ⟨v, shown, yes⟩ := met _ late
  have decided : p.verdict (c.result p w.clock k) = some (.ok (some v)) :=
    (p.verdict_eq_some_iff _ _).mpr (decides_of_shown shown yes)
  rw [decided] at answered
  have soon : c.ends p w.clock k < T + p.interval + duration k :=
    add_lt_add_left (begins_lt positive lower before) _
  exact ⟨k, v, late, before, shown, answered, counted, clock, soon⟩

/-- Two from a moment on. -/
def atFour (t : Rat) : Except Fault Nat := if t < 4 then .ok 0 else .ok 2

theorem wait_sampled_atFour :
    ∃ k v, (4 : Rat) ≤ (sampled (fun _ => 1 / 2) (fun _ => by norm_num) atFour).ends toTwo 0 k ∧
      ((toTwo.during (sampled (fun _ => 1 / 2) (fun _ => by norm_num) atFour)).wait.run Site.vacant
        World.blank.begun).1 = .ok (some v) := by
  have met : ∀ t : Rat, 4 ≤ t → ∃ v, atFour t = .ok v ∧ toTwo.satisfied v = .ok true :=
    fun t late => ⟨2, if_neg (not_lt.mpr late), rfl⟩
  have unmet : ∀ t < (4 : Rat), toTwo.Unmet (atFour t) := by
    intro t early
    rw [atFour, if_pos early]
    rfl
  obtain ⟨k, v, late, -, -, answered, -⟩ := wait_sampled toTwo (fun _ => 1 / 2)
    (fun _ => by norm_num) atFour Site.vacant World.blank 4 (by norm_num [toTwo])
    (by norm_num [toTwo]) (by norm_num [World.blank]) (by norm_num [toTwo, World.blank]) met unmet
  exact ⟨k, v, late, answered⟩

end Polling

end TrialRun
