import TrialRun.Proofs.Polling.Course

/-!
# Waiting longer

A wait with more time loses nothing that the same wait with less time would have met.  The two
have different timetables, since the shorter one cuts a rest that the longer one takes in full; but
up to the last fetch of the shorter wait no rest was cut, so that so far neither is behind the other
(`Course.ends_le_of_longer`), and every fetch that the shorter wait starts is started by the longer
one too (`Course.starts_of_longer`).

`Polling.wait_prolonged` is about fetches that end as a script says, whenever they are made: if not
the time has ended the shorter wait, the longer one ends in the same way after as many fetches, and
in any case it makes as many fetches at least.
-/

set_option autoImplicit false

namespace TrialRun

namespace Course

variable {α : Type}

/-- The course of fetches whose ends are told by their numbers alone. -/
def scripted (duration : Nat → Rat) (duration_nonneg : ∀ n, 0 ≤ duration n)
    (outcome : Nat → Except Fault α) : Course α where
  duration := duration
  outcome n _ := outcome n
  duration_nonneg := duration_nonneg

variable (c : Course α) {p q : Polling Rat Nat α} {start later : Rat}

/-- As long as a wait starts fetches, one that has more time is not behind it, each counted from its
own start. -/
theorem ends_le_of_longer (interval : q.interval = p.interval) {n : Nat}
    (starts : c.Starts p start n) :
    ∀ m < n, c.ends q later m - later ≤ c.ends p start m - start := by
  intro m
  induction m with
  | zero =>
    intro _
    simp [ends, begins]
  | succ m ih =>
    intro hm
    have sofar := ih (Nat.lt_of_succ_lt hm)
    -- the rest before this fetch was not cut, since the fetch has ended early
    have whole : c.begins p start (m + 1) = c.ends p start m + p.interval := by
      refine min_eq_left (not_lt.mp fun cut => ?_)
      have begun : c.begins p start (m + 1) = start + p.timeout := min_eq_right cut.le
      have early := starts (m + 1) hm
      rw [ends, begun] at early
      exact absurd early (not_lt.mpr (le_add_of_nonneg_right (c.duration_nonneg _)))
    have next : c.begins q later (m + 1) ≤ c.ends q later m + p.interval := by
      rw [← interval]
      exact min_le_left _ _
    rw [ends, ends, whole]
    linarith

/-- What a wait starts, one that has more time starts too. -/
theorem starts_of_longer (interval : q.interval = p.interval) (longer : p.timeout ≤ q.timeout)
    {n : Nat} (starts : c.Starts p start n) : c.Starts q later n := by
  intro m hm
  have sofar : c.ends q later m - later ≤ c.ends p start m - start :=
    c.ends_le_of_longer interval starts m hm
  have early := starts m hm
  linarith

end Course

namespace Polling

variable {α : Type}

/-- **A longer timeout loses no success.**  Two waits that differ in their timeouts alone, over
fetches whose ends are scripted, at any sites and from any times on: unless the shorter one has
ended because its time was up, which is to say with a timeout that no fetch has decided, both end
with the same after as many fetches; and the longer one makes as many in any case. -/
theorem wait_prolonged (p : Polling Rat Nat α) (longer : Rat) (duration : Nat → Rat)
    (duration_nonneg : ∀ n, 0 ≤ duration n) (outcome : Nat → Except Fault α)
    (site site' : Site Rat Nat) (w w' : World Rat Nat) (positive : 0 < p.interval)
    (fits : p.interval ≤ p.timeout) (prolonged : p.timeout ≤ longer) :
    let c := Course.scripted duration duration_nonneg outcome
    let short := (p.during c).wait.run site w.begun
    let long := ({ p with timeout := longer }.during c).wait.run site' w'.begun
    ((∀ f, short.1 = .error f → f.kind.isTimeout = true →
        ∃ k, c.FirstDecisive p w.clock k (.error f)) →
      long.1 = short.1 ∧ long.2.outside = short.2.outside) ∧
    short.2.outside ≤ long.2.outside := by
  intro c short long
  let q : Polling Rat Nat α := { p with timeout := longer }
  obtain ⟨last, -, first, starts, before, further⟩ := exists_lastFetch p c site w positive
  obtain ⟨last', -, first', starts', before', further'⟩ := exists_lastFetch q c site' w' positive
  obtain ⟨answered, counted, -⟩ := run_wait_during (w := w) site positive fits first
  obtain ⟨answered', counted', -⟩ :=
    run_wait_during (p := q) (w := w') site' positive (fits.trans prolonged) first'
  -- the same script and the same condition: a fetch decides the same in both waits
  change ∀ m < last, p.verdict (outcome m) = none at before
  change ∀ m < last', p.verdict (outcome m) = none at before'
  change p.verdict (outcome last') = none → ¬c.Starts q w'.clock (last' + 1) at further'
  have reached : last ≤ last' := by
    by_contra sooner
    have hm : last' < last := not_le.mp sooner
    have started : c.Starts q w'.clock last :=
      c.starts_of_longer (p := p) (q := q) rfl prolonged starts
    exact further' (before last' hm) (started.earlier hm)
  refine ⟨fun intime => ?_, ?_⟩
  · cases verdict : p.verdict (outcome last) with
    | some result =>
      have same : last' = last := by
        refine le_antisymm (not_lt.mp fun hm => ?_) reached
        cases verdict.symm.trans (before' last hm)
      subst same
      have decided : p.verdict (c.result p w.clock last') = some result := verdict
      have decided' : q.verdict (c.result q w'.clock last') = some result := verdict
      rw [decided] at answered
      rw [decided'] at answered'
      exact ⟨answered'.trans answered.symm, counted'.trans counted.symm⟩
    | none =>
      have undecided : p.verdict (c.result p w.clock last) = none := verdict
      rw [undecided] at answered
      obtain ⟨k, decisive⟩ := intime _ answered rfl
      -- no started fetch is decisive: neither one up to the last, nor one behind it
      rcases Nat.lt_or_ge last k with behind | upto
      · exact absurd (decisive.starts.earlier behind) (further undecided)
      · have decides := (p.verdict_eq_some_iff _ _).mpr decisive.decides
        rcases Nat.lt_or_eq_of_le upto with hm | rfl
        · cases decides.symm.trans (before k hm)
        · cases decides.symm.trans undecided
  · rw [counted, counted']
    exact Nat.succ_le_succ reached

/-- The first fetch fails, and then each shows the number of fetches before it. -/
def countedOutcome (n : Nat) : Except Fault Nat :=
  if n = 0 then .error (.plain .connection "refused") else .ok n

/-- Two is shown by the third fetch.  With a timeout of four seconds it begins at the deadline, and
with a timeout of seven it begins at five seconds. -/
theorem wait_prolonged_counted :
    let p : Polling Rat Nat Nat := { toTwo with timeout := 4 }
    let c := Course.scripted (fun _ => 1 / 2) (fun _ => by norm_num) countedOutcome
    let long := ({ p with timeout := 7 }.during c).wait.run Site.vacant World.blank.begun
    (0 < p.interval ∧ p.interval ≤ p.timeout ∧ p.timeout ≤ 7) ∧
      long.1 = .ok (some 2) ∧ long.2.outside = 3 := by
  intro p c long
  have positive : 0 < p.interval := by norm_num [p, toTwo]
  have fits : p.interval ≤ p.timeout := by norm_num [p, toTwo]
  have prolonged : p.timeout ≤ 7 := by norm_num [p]
  have first : c.FirstDecisive p World.blank.clock 2 (.ok (some 2)) := by
    refine ⟨fun m hm => ?_, .satisfied rfl, fun m hm => (verdict_eq_none_iff _).mp ?_⟩
    · obtain rfl | rfl : m = 0 ∨ m = 1 := by omega
      · norm_num [Course.ends, Course.begins, Course.scripted, World.blank, c, p]
      · norm_num [Course.ends, Course.begins, Course.scripted, World.blank, c, p, toTwo]
    · obtain rfl | rfl : m = 0 ∨ m = 1 := by omega
      · exact Unmet.verdict ⟨rfl, fun settles given => by cases given⟩
      · exact Unmet.verdict (p := p) (r := .ok 1) rfl
  obtain ⟨answered, counted, -⟩ := run_wait_during (w := World.blank) Site.vacant positive fits
    (firstClosed_of_firstDecisive (w := World.blank.begun) rfl first)
  rw [(p.verdict_eq_some_iff _ _).mpr first.decides] at answered
  obtain ⟨same, count⟩ := (wait_prolonged p 7 (fun _ => 1 / 2) (fun _ => by norm_num) countedOutcome
    Site.vacant Site.vacant World.blank World.blank positive fits prolonged).1
      fun f failed _ => by cases failed.symm.trans answered
  exact ⟨⟨positive, fits, prolonged⟩, same.trans answered, count.trans counted⟩

end Polling

end TrialRun
