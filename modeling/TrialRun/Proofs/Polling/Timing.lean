import Mathlib.Data.Rat.Floor
import TrialRun.Proofs.Polling.Course

/-!
# When a wait does what it does

A chronicle of a wait gives each event of the record with the reading of the clock at which it
happens: a fetch takes as long as its course says, a sleep takes its span, and a remark takes no
time.  It is read off the record alone, so that what it says of times is said of what was done.

`Polling.wait_keepsTime` says that a wait keeps to its time (`Polling.KeepsTime`): no fetch begins
behind the deadline, no sleep is longer than the interval, and a shorter one is the last, with a
fetch at the deadline behind it.  So there are at most as many fetches as intervals are needed to
fill the timeout, and one more; and the time is not up before the deadline, nor later than the last
fetch ends.
-/

set_option autoImplicit false

namespace TrialRun

/-! ## Chronicles -/

/-- Events with the times at which they happen, the last first, from the start of a wait on.  The
number is that of the fetches, and the last time is the reading of the clock behind all events. -/
inductive Course.Chronicle {α : Type} (c : Course α) (start : Rat) :
    List (Rat × Event Rat) → Nat → Rat → Prop where
  | begun : c.Chronicle start [] 0 start
  | fetched {happened : List (Rat × Event Rat)} {n : Nat} {t : Rat} :
      c.Chronicle start happened n t →
      c.Chronicle start ((t, .fetched) :: happened) (n + 1) (t + c.duration n)
  | slept {happened : List (Rat × Event Rat)} {n : Nat} {t : Rat} (span : Rat) :
      c.Chronicle start happened n t →
      c.Chronicle start ((t, .slept span) :: happened) n (t + span)
  | logged {happened : List (Rat × Event Rat)} {n : Nat} {t : Rat} (level : Level)
      (text : String) : c.Chronicle start happened n t →
      c.Chronicle start ((t, .log level text) :: happened) n t

namespace Polling

/-- The event is a log record. -/
def IsLog : Event Rat → Prop
  | .log _ _ => True
  | _ => False

/-- A remark of a wait is a log record. -/
theorem isLog_of_mem_remarks {α : Type} {p : Polling Rat Nat α} {r : Except Fault α} {e : Event Rat}
    (h : e ∈ p.remarks r) : IsLog e := by
  unfold remarks at h
  split at h
  · cases h
  · split at h
    · split at h
      · obtain rfl := List.mem_singleton.mp h
        trivial
      · obtain rfl := List.mem_singleton.mp h
        trivial
      · cases h
    · cases h

/-- What happens in a wait keeps to its time. -/
structure KeepsTime {α : Type} (p : Polling Rat Nat α) (deadline : Rat)
    (happened : List (Rat × Event Rat)) : Prop where
  /-- A fetch begins by the deadline. -/
  fetches : ∀ t, (t, .fetched) ∈ happened → t ≤ deadline
  /-- There is no sleeping for no time, nor for more than the interval. -/
  sleeps : ∀ t span, (t, .slept span) ∈ happened → 0 < span ∧ span ≤ p.interval
  /-- Behind a sleep that is cut there is a fetch that begins at the deadline, and nothing else but
  remarks. -/
  cut : ∀ later t span earlier, happened = later ++ (t, .slept span) :: earlier →
    span < p.interval →
      ∃ remarks, later = remarks ++ [(deadline, .fetched)] ∧ ∀ e ∈ remarks, IsLog e.2

/-! ## Chronicles of waits -/

variable {α : Type} {p : Polling Rat Nat α} {c : Course α} {site : Site Rat Nat}

/-- Log records take no time. -/
theorem chronicle_logs {start : Rat} {happened : List (Rat × Event Rat)} {n : Nat} {t : Rat}
    (h : c.Chronicle start happened n t) (es : List (Event Rat)) (logs : ∀ e ∈ es, IsLog e) :
    c.Chronicle start (es.map (t, ·) ++ happened) n t := by
  induction es with
  | nil => exact h
  | cons e rest ih =>
    have before := ih fun other member => logs other (List.mem_cons_of_mem _ member)
    cases e with
    | log level text => exact before.logged level text
    | _ => exact (logs _ List.mem_cons_self).elim

/-- A sleep that is found behind some events which are no sleeps was there before them. -/
theorem exists_later_of_append {front rest later earlier : List (Rat × Event Rat)} {t span : Rat}
    (awake : ∀ e ∈ front, ∀ s, e.2 ≠ .slept s)
    (split : front ++ rest = later ++ (t, .slept span) :: earlier) :
    ∃ before, later = front ++ before ∧ rest = before ++ (t, .slept span) :: earlier := by
  induction front generalizing later with
  | nil => exact ⟨later, rfl, split⟩
  | cons e front ih =>
    cases later with
    | nil =>
      obtain ⟨rfl, -⟩ := List.cons.inj split
      exact absurd rfl (awake _ List.mem_cons_self span)
    | cons first later =>
      obtain ⟨rfl, others⟩ := List.cons.inj split
      obtain ⟨before, rfl, behind⟩ :=
        ih (fun other member => awake other (List.mem_cons_of_mem _ member)) others
      exact ⟨before, rfl, behind⟩

/-- What has happened before a look that all looks before it leave the wait open for.  A sleep that
was cut can only be the one right before the look, which then begins at the deadline. -/
structure Timely (p : Polling Rat Nat α) (deadline t : Rat) (happened : List (Rat × Event Rat)) :
    Prop where
  fetches : ∀ u, (u, .fetched) ∈ happened → u ≤ deadline
  sleeps : ∀ u span, (u, .slept span) ∈ happened → 0 < span ∧ span ≤ p.interval
  cut : ∀ later u span earlier, happened = later ++ (u, .slept span) :: earlier →
    span < p.interval → later = [] ∧ t = deadline

/-- What happens in a look, the last first, before any rest: its fetch, and remarks on it. -/
def lookEvents (t : Rat) (ended : Rat) (remarks : List (Event Rat)) : List (Rat × Event Rat) :=
  remarks.map (ended, ·) ++ [(t, .fetched)]

theorem awake_lookEvents {t ended : Rat} {remarks : List (Event Rat)}
    (logs : ∀ e ∈ remarks, IsLog e) : ∀ e ∈ lookEvents t ended remarks, ∀ s, e.2 ≠ .slept s := by
  intro e member s same
  rcases List.mem_append.mp member with remark | fetch
  · obtain ⟨event, event_mem, rfl⟩ := List.mem_map.mp remark
    have log := logs event event_mem
    rw [show event = .slept s from same] at log
    exact log
  · rw [List.mem_singleton.mp fetch] at same
    cases same

/-- The one fetch of a look is where it begins. -/
theorem eq_of_fetched_mem {u t ended : Rat} {remarks : List (Event Rat)}
    (logs : ∀ e ∈ remarks, IsLog e) (h : (u, .fetched) ∈ lookEvents t ended remarks) : u = t := by
  rcases List.mem_append.mp h with remark | fetch
  · obtain ⟨e, event, same⟩ := List.mem_map.mp remark
    have log := logs e event
    rw [(Prod.mk.inj same).2] at log
    exact log.elim
  · exact (Prod.mk.inj (List.mem_singleton.mp fetch)).1

section Looks

variable {deadline start : Rat} {w w' : World Rat Nat} {happened : List (Rat × Event Rat)}
  {earlier : List (Event Rat)}

/-- A look goes on with the chronicle: its fetch begins at once, and the remarks follow when it has
ended. -/
theorem chronicle_afterFetch (site : Site Rat Nat)
    (h : c.Chronicle start happened w.outside w.clock)
    (told : w.record = happened.map Prod.snd ++ earlier) :
    let u := (p.during c).afterFetch site w
    let looked := lookEvents w.clock u.clock ((p.during c).remarks ((p.during c).resultIn site w))
    u.outside = w.outside + 1 ∧ u.clock = w.clock + c.duration w.outside ∧
      c.Chronicle start (looked ++ happened) u.outside u.clock ∧
      u.record = (looked ++ happened).map Prod.snd ++ earlier := by
  intro u looked
  have after : u = (p.during c).remarked ((p.during c).resultIn site w)
      { w with
        clock := w.clock + c.duration w.outside
        outside := w.outside + 1
        record := .fetched :: w.record } := by
    change (p.during c).remarked _ (c.fetch.run site w).2 = _
    rw [run_fetch]
  have outside : u.outside = w.outside + 1 := by rw [after]; rfl
  have clock : u.clock = w.clock + c.duration w.outside := by rw [after]; rfl
  refine ⟨outside, clock, ?_, ?_⟩
  · show c.Chronicle start ((_ ++ [(w.clock, .fetched)]) ++ happened) _ _
    rw [List.append_assoc, outside, clock]
    exact chronicle_logs h.fetched _ fun e => isLog_of_mem_remarks
  · rw [after]
    show _ ++ .fetched :: w.record = _
    rw [told]
    simp [looked, lookEvents, Function.comp_def]

/-- A timely look that leaves the wait open is followed by a rest, and then by another timely
look. -/
theorem timely_rested (positive : 0 < p.interval) {t ended : Rat} {remarks : List (Event Rat)}
    (logs : ∀ e ∈ remarks, IsLog e) (h : p.Timely deadline t happened) (begun : t ≤ ended)
    (early : ended < deadline) :
    let span := min p.interval (deadline - ended)
    p.Timely deadline (ended + span)
      ((ended, .slept span) :: (lookEvents t ended remarks ++ happened)) := by
  intro span
  have remaining : 0 < deadline - ended := sub_pos.mpr early
  refine ⟨fun u member => ?_, fun u s member => ?_, fun later u s earlier split short => ?_⟩
  · rcases List.mem_cons.mp member with same | member
    · cases same
    · rcases List.mem_append.mp member with looked | before
      · rw [eq_of_fetched_mem logs looked]
        exact begun.trans early.le
      · exact h.fetches u before
  · rcases List.mem_cons.mp member with same | member
    · obtain ⟨rfl, same⟩ := Prod.mk.inj same
      obtain rfl : s = span := Event.slept.inj same
      exact ⟨lt_min positive remaining, min_le_left _ _⟩
    · rcases List.mem_append.mp member with looked | before
      · exact absurd rfl (awake_lookEvents logs _ looked s)
      · exact h.sleeps u s before
  · cases later with
    | nil =>
      -- the rest itself is cut, so that it ends at the deadline
      obtain ⟨same, -⟩ := List.cons.inj split
      obtain rfl : span = s := Event.slept.inj (Prod.mk.inj same).2
      have cut : span = deadline - ended := (min_choice _ _).resolve_left short.ne
      refine ⟨rfl, ?_⟩
      rw [cut]
      exact add_sub_cancel _ _
    | cons first later =>
      -- an earlier one that was cut would have led to a look at the deadline, which closes the wait
      obtain ⟨-, others⟩ := List.cons.inj split
      obtain ⟨before, -, behind⟩ := exists_later_of_append (awake_lookEvents logs) others
      have late : t = deadline := (h.cut before u s earlier behind short).2
      exact absurd early (not_lt.mpr (late.symm.le.trans begun))

/-- A timely look ends a wait that has kept to its time. -/
theorem keepsTime_looked {t ended : Rat} {remarks : List (Event Rat)}
    (logs : ∀ e ∈ remarks, IsLog e) (h : p.Timely deadline t happened) (begun : t ≤ deadline) :
    p.KeepsTime deadline (lookEvents t ended remarks ++ happened) := by
  refine ⟨fun u member => ?_, fun u s member => ?_, fun later u s earlier split short => ?_⟩
  · rcases List.mem_append.mp member with looked | before
    · rw [eq_of_fetched_mem logs looked]
      exact begun
    · exact h.fetches u before
  · rcases List.mem_append.mp member with looked | before
    · exact absurd rfl (awake_lookEvents logs _ looked s)
    · exact h.sleeps u s before
  · obtain ⟨before, rfl, behind⟩ := exists_later_of_append (awake_lookEvents logs) split
    obtain ⟨rfl, rfl⟩ := h.cut before u s earlier behind short
    refine ⟨remarks.map (ended, ·), List.append_nil _, fun e member => ?_⟩
    obtain ⟨event, there, rfl⟩ := List.mem_map.mp member
    exact logs event there

/-- Before a look that all looks before it leave the wait open for, everything is timely. -/
theorem exists_chronicle_visit (site : Site Rat Nat) (positive : 0 < p.interval) (n : Nat)
    (fresh : w.outside = 0) (open_before : ∀ m < n, (p.during c).Open site deadline
      ((p.during c).visit site deadline w m)) :
    let v := (p.during c).visit site deadline w n
    v.outside = n ∧ ∃ happened, c.Chronicle w.clock happened n v.clock ∧
      v.record = happened.map Prod.snd ++ w.record ∧ p.Timely deadline v.clock happened := by
  induction n with
  | zero =>
    refine ⟨fresh, [], .begun, rfl, ⟨?_, ?_, ?_⟩⟩
    · exact fun _ member => nomatch member
    · exact fun _ _ member => nomatch member
    · intro later u span earlier split
      cases later <;> cases split
  | succ n ih =>
    obtain ⟨counted, happened, chronicle, told, timely⟩ :=
      ih fun m hm => open_before m (Nat.lt_succ_of_lt hm)
    -- the look before was open, hence over before the deadline, so that a rest follows it
    obtain ⟨-, early⟩ := open_before n (Nat.lt_succ_self n)
    set v := (p.during c).visit site deadline w n
    rw [← counted] at chronicle
    obtain ⟨outside, clock, looked, record⟩ := chronicle_afterFetch (p := p) site chronicle told
    have begun : v.clock ≤ ((p.during c).afterFetch site v).clock := by
      rw [clock]
      exact le_add_of_nonneg_right (c.duration_nonneg v.outside)
    rw [outside, counted] at looked
    refine ⟨outside.trans (congrArg (· + 1) counted), _, looked.slept _, ?_, ?_⟩
    · exact congrArg (_ :: ·) record
    · exact timely_rested positive (fun e => isLog_of_mem_remarks) timely begun early

end Looks

/-! ## The number of fetches -/

/-- The intervals that fill a timeout, counted. -/
theorem intervals_eq_ceil {timeout interval : Rat} (positive : 0 < interval) :
    Timescale.intervals timeout interval = ⌈timeout / interval⌉₊ := by
  rw [Timescale.intervals, if_pos positive, Rat.ceil_eq_neg_floor_neg, ← Int.ceil_toNat]
  rfl

/-- Fetches that take no time begin at every interval until the deadline. -/
theorem begins_of_instant (instant : ∀ n, c.duration n = 0) (positive : 0 < p.interval)
    (start : Rat) (nonneg : 0 ≤ p.timeout) (n : Nat) :
    c.begins p start n = min (start + n * p.interval) (start + p.timeout) := by
  induction n with
  | zero => simp [Course.begins, nonneg]
  | succ n ih =>
    have next : start + (n + 1 : Nat) * p.interval = start + n * p.interval + p.interval := by
      push_cast
      ring
    rw [Course.begins, ih, instant, add_zero, next]
    rcases le_total (start + n * p.interval) (start + p.timeout) with fits | full
    · rw [min_eq_left fits]
    · rw [min_eq_right full, min_eq_right (by linarith), min_eq_right (by linarith)]

/-- If fetches take no time and none is decisive, then as many begin early enough for another one as
intervals are needed to fill the timeout. -/
theorem ceil_le_of_not_starts (instant : ∀ n, c.duration n = 0) (positive : 0 < p.interval)
    (fits : p.interval ≤ p.timeout) {start : Rat} {last : Nat} (starts : c.Starts p start last)
    (full : ¬c.Starts p start (last + 1)) : ⌈p.timeout / p.interval⌉₊ ≤ last := by
  by_contra more
  have room : (last : Rat) < p.timeout / p.interval := Nat.lt_ceil.mp (not_le.mp more)
  have early : last * p.interval < p.timeout := (lt_div_iff₀ positive).mp room
  refine full fun m hm => ?_
  rcases Nat.lt_succ_iff_lt_or_eq.mp hm with before | rfl
  · exact starts m before
  · rw [Course.ends, instant, add_zero, begins_of_instant instant positive start (by linarith)]
    refine (min_le_left _ _).trans_lt ?_
    linarith

/-! ## Whole waits -/

/-- **A wait keeps to its time.**  What it does can be told with times that agree with the clock,
and keeps to them: fetches begin by the deadline, sleeps are no longer than the interval, and one
that is shorter is the last, with a fetch at the deadline behind it.  There are at most as many
fetches as intervals fill the timeout, and one more, and so many if fetches take no time and none is
decisive.  The wait ends before the duration of its last fetch has passed behind the deadline; and
if no fetch decides what it ends with, that is a timeout, and the deadline has come. -/
theorem wait_keepsTime (p : Polling Rat Nat α) (c : Course α) (site : Site Rat Nat)
    (w : World Rat Nat) (positive : 0 < p.interval) (fits : p.interval ≤ p.timeout) :
    let deadline := w.clock + p.timeout
    let ended := (p.during c).wait.run site w.begun
    (∃ happened, c.Chronicle w.clock happened ended.2.outside ended.2.clock ∧
      ended.2.record = happened.map Prod.snd ++ w.record ∧ p.KeepsTime deadline happened) ∧
    ended.2.outside ≤ ⌈p.timeout / p.interval⌉₊ + 1 ∧
    ((∀ n, c.duration n = 0) → (¬∃ k answer, c.FirstDecisive p w.clock k answer) →
      ended.2.outside = ⌈p.timeout / p.interval⌉₊ + 1) ∧
    ∃ last, ended.2.outside = last + 1 ∧ ended.2.clock ≤ deadline + c.duration last ∧
      ∀ f, ended.1 = .error f → (∀ k, ¬c.FirstDecisive p w.clock k (.error f)) →
        f.kind.isTimeout = true ∧ deadline ≤ ended.2.clock := by
  intro deadline ended
  have nonneg : 0 ≤ p.timeout := positive.le.trans fits
  obtain ⟨last, room, first, starts, before, further⟩ := exists_lastFetch p c site w positive
  obtain ⟨answered, counted, clock⟩ := run_wait_during (w := w) site positive fits first
  rw [intervals_eq_ceil positive] at room
  -- the chronicle is that of the looks before the last one, and of the last one
  have told : ∃ happened, c.Chronicle w.clock happened ended.2.outside ended.2.clock ∧
      ended.2.record = happened.map Prod.snd ++ w.record ∧ p.KeepsTime deadline happened := by
    obtain ⟨number, happened, chronicle, record, timely⟩ :=
      exists_chronicle_visit (w := w.begun) site positive last rfl first.before
    have left : ended.2 = (p.during c).afterFetch site
        ((p.during c).visit site deadline w.begun last) :=
      (run_wait_of_follows (follows_during site) rfl positive fits (patient_during site) first).2
    set v := (p.during c).visit site deadline w.begun last
    have begins : v.clock = c.begins p w.clock last :=
      (visit_of_follows (w := w.begun) (follows_during site) rfl last).2
    rw [← number] at chronicle
    obtain ⟨-, -, looked, after⟩ := chronicle_afterFetch (p := p) site chronicle record
    rw [left]
    refine ⟨_, looked, after, keepsTime_looked (fun e => isLog_of_mem_remarks) timely ?_⟩
    rw [begins]
    exact c.begins_le p w.clock nonneg last
  refine ⟨told, ?_, fun instant none => ?_, last, counted, ?_, fun f failed undecided => ?_⟩
  · rw [counted]
    exact Nat.succ_le_succ room
  · have open_last : p.verdict (c.result p w.clock last) = Option.none := by
      rw [verdict_eq_none_iff]
      exact fun answer decides =>
        none ⟨last, answer, starts, decides, fun m hm => (verdict_eq_none_iff _).mp (before m hm)⟩
    have enough := ceil_le_of_not_starts instant positive fits starts (further open_last)
    rw [counted, le_antisymm enough room]
  · rw [clock]
    exact add_le_add_left (c.begins_le p w.clock nonneg last) _
  · rw [clock]
    have answer : (p.verdict (c.result p w.clock last)).getD (.error (p.expired
        (c.seenBy p w.clock (last + 1)) (faultOf (c.result p w.clock last)))) = .error f :=
      answered.symm.trans failed
    cases verdict : p.verdict (c.result p w.clock last) with
    | some result =>
      rw [verdict] at answer
      obtain rfl : result = .error f := answer
      exact absurd ⟨starts, (p.verdict_eq_some_iff _ _).mp verdict,
        fun m hm => (verdict_eq_none_iff _).mp (before m hm)⟩ (undecided last)
    | none =>
      rw [verdict] at answer
      obtain rfl := Except.error.inj answer
      refine ⟨rfl, not_lt.mp fun early => further verdict fun m hm => ?_⟩
      rcases Nat.lt_succ_iff_lt_or_eq.mp hm with earlier | rfl
      · exact starts m earlier
      · exact early

/-- A number that does not change, shown at once. -/
def stuck : Course Nat where
  duration _ := 0
  outcome _ _ := .ok 0
  duration_nonneg _ := le_rfl

/-- Two is waited for in vain: the four fetches begin at zero, two, four and five seconds. -/
theorem wait_keepsTime_stuck :
    (0 < toTwo.interval ∧ toTwo.interval ≤ toTwo.timeout) ∧
      ((toTwo.during stuck).wait.run Site.vacant World.blank.begun).2.outside = 4 ∧
      ∃ happened, stuck.Chronicle 0 happened 4
          ((toTwo.during stuck).wait.run Site.vacant World.blank.begun).2.clock ∧
        toTwo.KeepsTime (0 + 5) happened := by
  have positive : 0 < toTwo.interval := by norm_num [toTwo]
  have fits : toTwo.interval ≤ toTwo.timeout := by norm_num [toTwo]
  have undecided : ¬∃ k answer, stuck.FirstDecisive toTwo World.blank.clock k answer := by
    rintro ⟨k, answer, first⟩
    exact (verdict_eq_none_iff _).mp (Unmet.verdict (p := toTwo) (r := .ok 0) rfl) answer
      first.decides
  obtain ⟨⟨happened, chronicle, -, keeps⟩, -, exact_count, -⟩ :=
    wait_keepsTime toTwo stuck Site.vacant World.blank positive fits
  have three : ⌈toTwo.timeout / toTwo.interval⌉₊ = 3 := by
    rw [Nat.ceil_eq_iff (by decide)]
    norm_num [toTwo]
  have count := exact_count (fun _ => rfl) undecided
  rw [three] at count
  rw [count] at chronicle
  exact ⟨⟨positive, fits⟩, count, happened, chronicle, keeps⟩

end Polling

end TrialRun
