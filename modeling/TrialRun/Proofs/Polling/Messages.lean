import TrialRun.Proofs.Polling.Course

/-!
# What a timeout tells

A wait whose time is up ends with a message: what was waited for and for how long, the last state
that was seen, and the fault of the last fetch.  The states and faults before do not matter, however
they took turns; a fault is told only if no fetch came after it, and a state even if faults did.

What a message tells of some results of fetches is said by looking at them from behind
(`Polling.TellsState`, `Polling.TellsFault`); the wait itself only carries two values from look to
look.  `Polling.wait_tells` holds on every scale of time, however long the fetches take.
-/

set_option autoImplicit false

namespace TrialRun

variable {τ α : Type}

/-- Fetches one after the other, by their numbers: how long each takes, and what it ends with. -/
structure Succession (τ α : Type) where
  duration : Nat → τ
  outcome : Nat → Except Fault α

namespace Succession

/-- The results of so many fetches, the first one first. -/
def results (s : Succession τ α) (n : Nat) : List (Except Fault α) := (List.range n).map s.outcome

/-- The state that was seen last in so many fetches. -/
def seenBy (s : Succession τ α) : Nat → Option α
  | 0 => none
  | n + 1 => Polling.seenAfter (seenBy s n) (s.outcome n)

/-- The fault of the last of so many fetches. -/
def faultBy (s : Succession τ α) : Nat → Option Fault
  | 0 => none
  | n + 1 => Polling.faultOf (s.outcome n)

theorem results_succ (s : Succession τ α) (n : Nat) :
    s.results (n + 1) = s.results n ++ [s.outcome n] := by
  simp [results, List.range_succ]

variable [Timescale τ]

/-- The next fetch.  The outside counts the fetches. -/
def fetch (s : Succession τ α) : Act τ Nat α := do
  Act.record .fetched
  let n := (← Act.world).outside
  Act.change fun w => { w with outside := n + 1 }
  Act.pass (s.duration n)
  Act.ofExcept (s.outcome n)

theorem run_fetch (s : Succession τ α) (site : Site τ Nat) (w : World τ Nat) :
    s.fetch.run site w =
      (s.outcome w.outside,
        { w with
          clock := Timescale.add w.clock (s.duration w.outside)
          outside := w.outside + 1
          record := .fetched :: w.record }) := by
  show (Act.ofExcept (s.outcome w.outside) : Act τ Nat α).run site _ = _
  rw [Act.run_ofExcept]

end Succession

namespace Polling

/-- The same wait over fetches one after the other. -/
def along [Timescale τ] (p : Polling τ Nat α) (s : Succession τ α) : Polling τ Nat α :=
  { p with fetch := s.fetch }

/-! ## What there is to tell -/

/-- What a message tells of the states among some results: the last one, or nothing if there is
none. -/
inductive TellsState (p : Polling τ Nat α) : List (Except Fault α) → String → Prop where
  | last (before : List (Except Fault α)) (v : α) (after : List (Except Fault α)) :
      (∀ r ∈ after, ∃ f, r = .error f) →
      p.TellsState (before ++ .ok v :: after) s!", last observed state: {p.display v}"
  | nothing {results : List (Except Fault α)} : (∀ r ∈ results, ∃ f, r = .error f) →
      p.TellsState results ""

/-- What a message tells of the faults among some results: that of the last result, if it is one. -/
inductive TellsFault : List (Except Fault α) → String → Prop where
  | last (before : List (Except Fault α)) (f : Fault) :
      TellsFault (before ++ [.error f]) s!", last error: {f.text}"
  | nothing {results : List (Except Fault α)} : (∀ before f, results ≠ before ++ [.error f]) →
      TellsFault results ""

/-- The state that is carried from look to look is the last one of the results. -/
theorem tellsState_seenBy (p : Polling τ Nat α) (s : Succession τ α) (n : Nat) :
    p.TellsState (s.results n)
      (match s.seenBy n with
        | some v => s!", last observed state: {p.display v}"
        | none => "") := by
  induction n with
  | zero => exact .nothing fun r member => nomatch member
  | succ n ih =>
    rw [s.results_succ, Succession.seenBy]
    cases outcome : s.outcome n with
    | ok v => exact .last _ v [] fun r member => nomatch member
    | error f =>
      -- one more fault changes nothing of what is told, and stands behind the state
      have more : ∀ {results : List (Except Fault α)}, (∀ r ∈ results, ∃ g, r = .error g) →
          ∀ r ∈ results ++ [.error f], ∃ g, r = .error g := by
        intro results faults r member
        rcases List.mem_append.mp member with before | last
        · exact faults r before
        · exact ⟨f, List.mem_singleton.mp last⟩
      generalize s.results n = results at ih
      dsimp only [seenAfter]
      generalize (match s.seenBy n with
        | some v => s!", last observed state: {p.display v}"
        | none => "") = text at ih ⊢
      cases ih with
      | last before v after faults =>
        rw [List.append_assoc]
        exact .last before v (after ++ [.error f]) (more faults)
      | nothing faults => exact .nothing (more faults)

/-- The fault that is carried from look to look is that of the last result. -/
theorem tellsFault_faultBy (s : Succession τ α) (n : Nat) :
    TellsFault (s.results n)
      (match s.faultBy n with
        | some f => s!", last error: {f.text}"
        | none => "") := by
  cases n with
  | zero => exact .nothing fun before f none => by cases before <;> cases none
  | succ n =>
    rw [s.results_succ, Succession.faultBy]
    cases s.outcome n with
    | ok v =>
      refine .nothing fun before f same => ?_
      obtain ⟨same, -⟩ := List.cons.inj (List.append_inj' same rfl).2
      cases same
    | error f => exact .last _ f

/-! ## What a wait tells -/

variable [Timescale τ] {p : Polling τ Nat α} {s : Succession τ α} {site : Site τ Nat}

/-- A rest asks nothing of the outside, and if there is none to be had that is no timeout. -/
theorem outside_of_run_pause {deadline : τ} {w w' : World τ Nat} {r : Except Fault Bool}
    (rested : (p.pause deadline).run site w = (r, w')) :
    w'.outside = w.outside ∧ ∀ f, r = .error f → f.kind.isTimeout = false := by
  rw [pause, Act.run_bind_of_ok _ (Act.run_world site w), Act.run_ite] at rested
  split at rested
  · cases rested
    exact ⟨rfl, fun f failed => by cases failed⟩
  · rw [Act.run_bind, Act.run_sleep] at rested
    generalize (if Timescale.lt (Timescale.sub deadline w.clock) p.interval
      then Timescale.sub deadline w.clock else p.interval) = span at rested
    by_cases negative : Timescale.lt span (Timescale.seconds 0) = true
    · rw [if_pos negative] at rested
      cases rested
      refine ⟨rfl, fun f same => ?_⟩
      cases same
      rfl
    · rw [if_neg negative] at rested
      by_cases fits : Timescale.fits span = true
      · rw [if_pos fits] at rested
        cases rested
        exact ⟨rfl, fun f failed => by cases failed⟩
      · rw [if_neg fits] at rested
        cases rested
        refine ⟨rfl, fun f same => ?_⟩
        cases same
        rfl

/-- Looks that end with a timeout, without any decisive fetch, end with what is told of all fetches
so far, those before these looks among them. -/
theorem expired_of_look {deadline : τ} (looks : Nat) {w w' : World τ Nat} {f : Fault}
    (ended : ((p.along s).look deadline looks (s.seenBy w.outside) (s.faultBy w.outside)).run site
      w = (.error f, w')) (timeout : f.kind.isTimeout = true)
    (undecided : ∀ n < w'.outside, p.verdict (s.outcome n) = none) :
    f = p.expired (s.seenBy w'.outside) (s.faultBy w'.outside) := by
  -- on the looks left: what is seen and what is at fault is always that of all fetches so far
  induction looks generalizing w with
  | zero =>
    cases ended
    rfl
  | succ looks ih =>
    rw [run_look] at ended
    dsimp only at ended
    rw [show (p.along s).fetch = s.fetch from rfl, s.run_fetch site w] at ended
    dsimp only at ended
    generalize looked : (p.along s).remarked (s.outcome w.outside)
      { w with
        clock := Timescale.add w.clock (s.duration w.outside)
        outside := w.outside + 1
        record := .fetched :: w.record } = w₁ at ended
    have counted : w₁.outside = w.outside + 1 := by
      rw [← looked]
      rfl
    cases verdict : (p.along s).verdict (s.outcome w.outside) with
    | some result =>
      rw [verdict] at ended
      obtain ⟨-, rfl⟩ := Prod.mk.inj ended
      have made : w.outside < w₁.outside := counted ▸ Nat.lt_succ_self w.outside
      cases (undecided w.outside made).symm.trans verdict
    | none =>
      rw [verdict] at ended
      dsimp only at ended
      -- a rest fails with no timeout, ends the wait, or leads to the next look
      rcases rested : ((p.along s).pause deadline).run site w₁ with ⟨g | _ | _, w₂⟩
      · rw [rested] at ended
        cases ended
        cases timeout.symm.trans ((outside_of_run_pause rested).2 _ rfl)
      · rw [rested] at ended
        cases ended
        rw [(outside_of_run_pause rested).1, counted]
        rfl
      · rw [rested] at ended
        refine ih (w := w₂) ?_
        rw [(outside_of_run_pause rested).1, counted]
        exact ended

/-- **A timeout tells the true end of the history.**  If a wait over fetches one after the other
ends with a timeout, and none of the fetches it has made is decisive, then the message tells what
was waited for and for how long; then the last state that was seen, if there was any; and then the
fault of the last fetch, if that is how it ended. -/
theorem wait_tells (p : Polling τ Nat α) (s : Succession τ α) (site : Site τ Nat) (w : World τ Nat)
    (f : Fault) (fresh : w.outside = 0)
    (ended : ((p.along s).wait.run site w).1 = .error f) (timeout : f.kind.isTimeout = true)
    (undecided : ∀ n < ((p.along s).wait.run site w).2.outside, ∀ answer,
      ¬p.Decides (s.outcome n) answer) :
    let made := s.results ((p.along s).wait.run site w).2.outside
    ∃ state fault, p.TellsState made state ∧ TellsFault made fault ∧
      f = .timedOut (s!"Timeout waiting for {p.description} after {Timescale.text p.timeout}s" ++
        state ++ fault) := by
  intro made
  refine ⟨_, _, p.tellsState_seenBy s _, tellsFault_faultBy s _, ?_⟩
  show f = p.expired (s.seenBy _) (s.faultBy _)
  rcases ran : (p.along s).wait.run site w with ⟨r, w'⟩
  rw [ran] at ended undecided
  obtain rfl : r = .error f := ended
  have open_ : ∀ n < w'.outside, p.verdict (s.outcome n) = none := by
    intro n hn
    refine Option.eq_none_iff_forall_ne_some.mpr fun answer decided => ?_
    exact undecided n hn answer ((p.verdict_eq_some_iff _ _).mp decided)
  rw [wait, Act.run_ite] at ran
  split at ran
  · cases ran
    cases timeout
  · rw [Act.run_ite] at ran
    split at ran
    · cases ran
      cases timeout
    · rw [Act.run_bind_of_ok _ (Act.run_world site w)] at ran
      have looked : ((p.along s).look (Timescale.add w.clock p.timeout)
          (Timescale.looks p.timeout p.interval) (s.seenBy w.outside) (s.faultBy w.outside)).run
          site w = (.error f, w') := by
        rw [fresh]
        exact ran
      exact expired_of_look _ looked timeout open_

/-- States and faults that take turns, none of which is two. -/
def flicker : Succession Rat Nat where
  duration _ := 0
  outcome n := if n % 2 = 0 then .ok (n + 1) else .error (.plain .connection s!"refused at {n}")

/-- The time is up after two states and two faults: three is the last state, and the last fault came
behind it. -/
theorem wait_tells_flicker :
    World.blank.outside = 0 ∧
      ∃ f state fault, ((toTwo.along flicker).wait.run Site.vacant World.blank).1 = .error f ∧
        f.kind.isTimeout = true ∧
        toTwo.TellsState (flicker.results 4) state ∧ TellsFault (flicker.results 4) fault ∧
        f = .timedOut ("Timeout waiting for two after 5/1s" ++ state ++ fault) := by
  have made : ((toTwo.along flicker).wait.run Site.vacant World.blank).2.outside = 4 := by
    decide +kernel
  have late : (match ((toTwo.along flicker).wait.run Site.vacant World.blank).1 with
      | .error f => f.kind.isTimeout
      | .ok _ => false) = true := by decide +kernel
  have undecided : ∀ n < ((toTwo.along flicker).wait.run Site.vacant World.blank).2.outside,
      ∀ answer, ¬toTwo.Decides (flicker.outcome n) answer := by
    rw [made]
    intro n hn
    refine (verdict_eq_none_iff _).mp ?_
    obtain rfl | rfl | rfl | rfl : n = 0 ∨ n = 1 ∨ n = 2 ∨ n = 3 := by omega
    all_goals rfl
  have opening : s!"Timeout waiting for {toTwo.description} after {Timescale.text toTwo.timeout}s" =
      "Timeout waiting for two after 5/1s" := by decide +kernel
  rcases ended : ((toTwo.along flicker).wait.run Site.vacant World.blank).1 with f | v
  · rw [ended] at late
    obtain ⟨state, fault, tellsState, tellsFault, same⟩ :=
      wait_tells toTwo flicker Site.vacant World.blank f rfl ended late undecided
    rw [made] at tellsState tellsFault
    rw [opening] at same
    exact ⟨rfl, f, state, fault, rfl, late, tellsState, tellsFault, same⟩
  · rw [ended] at late
    cases late

end Polling

end TrialRun
