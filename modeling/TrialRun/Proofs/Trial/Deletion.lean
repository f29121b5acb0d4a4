import TrialRun.Proofs.Cluster.Failures
import TrialRun.Proofs.Polling.Replies
import TrialRun.Trial.Waits

/-!
# Waiting for a deletion

A wait for a Ray cluster to be gone ends well at the first of its polls behind which the server has
said that there is no such object, and at no other.  What is served never ends it, and neither does
any other fault.  If there is no such poll until the deadline, the wait ends with its own timeout.
-/

set_option autoImplicit false

namespace TrialRun

variable {τ σ α : Type}

/-- The server has answered that there is no such object. -/
def Outcome.isMissing : Outcome α → Bool
  | .served _ => false
  | .refused f | .late f => f.isNotFound

namespace Trial

variable [Timescale τ]

/-- What waiting for a Ray cluster to be gone looks at, and how. -/
def goneWait (ns name : Json) (timeout interval : τ) : Polling τ σ Json where
  fetch := Cluster.getObject .rayCluster ns name
  satisfied _ := .ok false
  timeout := timeout
  interval := interval
  description := s!"RayCluster {ns.display}/{name.display} to be deleted"
  settled := some fun f => .ok f.isNotFound
  display := Json.display

/-- Waiting for a Ray cluster to be gone is to log it and to wait, at the trial's own interval. -/
theorem run_waitForRayClusterGone (ns name : Json) (timeout : τ) (site : Site τ σ)
    (w : World τ σ) :
    let p : Polling τ σ Json := goneWait ns name timeout w.trial.pollingInterval
    (waitForRayClusterGone ns name timeout).run site w =
      let ended := p.wait.run site (w.recorded (.log .info s!"Waiting for {p.description}"))
      (ended.1.map fun _ => (), ended.2) := by
  intro p
  have same : (waitForRayClusterGone ns name timeout).run site w =
      (p.wait >>= fun _ => pure () : Act τ σ Unit).run site
        (w.recorded (.log .info s!"Waiting for {p.description}")) := rfl
  rw [same, Act.run_bind]
  rcases p.wait.run site _ with ⟨_ | _, w'⟩ <;> rfl

/-- What asking for a Ray cluster is told as. -/
def goneTask (ns name : Json) : String :=
  s!"get {ResourceType.rayCluster.kind}: {Cluster.reference ns name}"

theorem goneWait_looks (ns name : Json) (timeout interval : τ) (site : Site τ σ) :
    (goneWait ns name timeout interval).Looks site (goneTask ns name)
      (.getObject .rayCluster ns name) .ok := by
  intro w
  change (Cluster.ask (goneTask ns name) (.getObject .rayCluster ns name)).run site w = _
  rw [Cluster.run_ask_eq]
  cases (site.answer (.getObject .rayCluster ns name) w.outside).1.outcome <;> rfl

/-- A poll ends the wait if the server has said that there is no such object, and only then. -/
theorem verdict_goneWait (ns name : Json) (timeout interval : τ) (task : String)
    {o : Outcome Json} (ordinary : ∀ f, o = .refused f ∨ o = .late f → f.isOrdinary = true) :
    (goneWait ns name timeout interval : Polling τ σ Json).verdict (o.told task >>= .ok) =
      if o.isMissing then some (.ok none) else none := by
  have faults : ∀ f : Fault, f.isOrdinary = true →
      (goneWait ns name timeout interval : Polling τ σ Json).verdict
          (.error (if f.isOrdinary then Cluster.operationFault task f else f)) =
        if f.isNotFound then some (.ok none) else none := by
    intro f ordinary
    rw [if_pos ordinary, Polling.verdict, if_pos (Cluster.isOrdinary_operationFault task f)]
    simp only [goneWait, Cluster.isNotFound_operationFault]
    cases f.isNotFound <;> rfl
  cases o with
  | served v => rfl
  | refused f => exact faults f (ordinary f (.inl rfl))
  | late f => exact faults f (ordinary f (.inr rfl))

end Trial

/-! ## Whole waits -/

namespace Trial

/-- The course of the polls of a wait for a Ray cluster to be gone. -/
def gonePolls (ns name : Json) (site : Site Rat σ) (s : σ)
    (takesTime : ∀ s, 0 ≤ (site.answer (.getObject .rayCluster ns name) s).1.cost) : Course Json :=
  site.course (.getObject .rayCluster ns name) (goneTask ns name) .ok s takesTime

section Ends

variable {ns name : Json} {timeout : Rat} {site : Site Rat σ} {w : World Rat σ}
  (positive : 0 < w.trial.pollingInterval) (fits : w.trial.pollingInterval ≤ timeout)
  (takesTime : ∀ s, 0 ≤ (site.answer (.getObject .rayCluster ns name) s).1.cost)
  (ordinary : ∀ s f, (site.answer (.getObject .rayCluster ns name) s).1.outcome = .refused f ∨
    (site.answer (.getObject .rayCluster ns name) s).1.outcome = .late f → f.isOrdinary = true)

include positive fits ordinary

/-- There is a last poll: no poll before it was missing, and it is itself or comes too late for
another one.  The wait ends with it. -/
theorem exists_lastPoll :
    let get : Cluster.Call .value := .getObject .rayCluster ns name
    let plan : Polling Rat Nat Json := goneWait ns name timeout w.trial.pollingInterval
    let starts := (gonePolls ns name site w.outside takesTime).Starts plan w.clock
    let missing n := (site.reply get w.outside n).outcome.isMissing
    let ended := (waitForRayClusterGone ns name timeout).run site w
    ∃ last, starts last ∧ (∀ m < last, missing m = false) ∧
      (missing last = false → ¬starts (last + 1)) ∧
      callsMade ended.2.record = site.calls get w.outside (last + 1) ++ callsMade w.record ∧
      ∃ seen, ended.1 = if missing last then .ok () else .error (.timedOut
        (s!"Timeout waiting for {plan.description} after {Timescale.text timeout}s" ++ seen)) := by
  intro get plan starts missing ended
  let p : Polling Rat σ Json := goneWait ns name timeout w.trial.pollingInterval
  let begun : World Rat σ := w.recorded (.log .info s!"Waiting for {p.description}")
  have looks : p.Looks site (goneTask ns name) get .ok := goneWait_looks ns name _ _ site
  obtain ⟨last, started, before, closed, calls, seen, answered⟩ :=
    Polling.exists_lastLook looks takesTime positive fits begun (q := plan) rfl rfl
  have decided : ∀ n,
      p.verdict ((site.reply get begun.outside n).outcome.told (goneTask ns name) >>= .ok) =
        if missing n then some (.ok none) else none :=
    fun n => verdict_goneWait ns name _ _ _ (ordinary _)
  have run : ended = ((p.wait.run site begun).1.map fun _ => (), (p.wait.run site begun).2) :=
    run_waitForRayClusterGone ns name timeout site w
  refine ⟨last, started, fun m hm => ?_, fun present => closed ?_, ?_, ?_⟩
  · have undecided := (decided m).symm.trans (before m hm)
    cases met : missing m with
    | true =>
      rw [met] at undecided
      cases undecided
    | false => rfl
  · exact (decided last).trans (if_neg (Bool.eq_false_iff.mp present))
  · rw [run]
    exact calls
  · have ends := answered.trans (congrArg (Option.getD · _) (decided last))
    refine ⟨seen, ?_⟩
    rw [run]
    dsimp only
    rw [ends]
    cases missing last <;> rfl

end Ends

/-- **A deletion is detected exactly.**  The polls of a wait for a Ray cluster to be gone keep to a
timetable that their durations alone determine, and all begin by the deadline.  The wait ends well
if and only if one of them is answered by saying that there is no such object, and the first such
poll is then the last one made.  If there is none, all polls of the timetable are made, and the
wait ends with a timeout of its own. -/
theorem waitForRayClusterGone_iff (ns name : Json) (timeout : Rat) (site : Site Rat σ)
    (w : World Rat σ) (positive : 0 < w.trial.pollingInterval)
    (fits : w.trial.pollingInterval ≤ timeout)
    (takesTime : ∀ s, 0 ≤ (site.answer (.getObject .rayCluster ns name) s).1.cost)
    (ordinary : ∀ s f, (site.answer (.getObject .rayCluster ns name) s).1.outcome = .refused f ∨
      (site.answer (.getObject .rayCluster ns name) s).1.outcome = .late f → f.isOrdinary = true) :
    let get : Cluster.Call .value := .getObject .rayCluster ns name
    let plan : Polling Rat Nat Json := goneWait ns name timeout w.trial.pollingInterval
    let polls := gonePolls ns name site w.outside takesTime
    let starts := polls.Starts plan w.clock
    let missing n := (site.reply get w.outside n).outcome.isMissing = true
    let ended := (waitForRayClusterGone ns name timeout).run site w
    let made n := callsMade ended.2.record = site.calls get w.outside n ++ callsMade w.record
    (ended.1 = .ok () ↔ ∃ n, starts n ∧ missing n) ∧
      (∀ n, starts n → missing n → (∀ m < n, ¬missing m) → made (n + 1)) ∧
      ((∀ n, starts n → ¬missing n) → ∃ last, starts last ∧ ¬starts (last + 1) ∧ made (last + 1) ∧
        ∃ seen, ended.1 = .error (.timedOut
          (s!"Timeout waiting for {plan.description} after {Timescale.text timeout}s" ++ seen))) ∧
      ∀ n, starts n → polls.begins plan w.clock n ≤ w.clock + timeout := by
  intro get plan polls starts missing ended made
  obtain ⟨last, started, before, closed, calls, seen, answered⟩ :=
    exists_lastPoll positive fits takesTime ordinary
  -- a started poll that is missing can only be the last one, since it is not before it
  have same : ∀ n, starts n → missing n → missing last ∧ last ≤ n := by
    intro n starts absent
    have notBefore : last ≤ n := by
      by_contra earlier
      cases absent.symm.trans (before n (not_le.mp earlier))
    refine ⟨?_, notBefore⟩
    by_contra present
    have further := closed (Bool.eq_false_iff.mpr present)
    rcases notBefore.eq_or_lt with rfl | later
    · exact present absent
    · exact further (starts.earlier later)
  refine ⟨⟨fun well => ?_, ?_⟩, ?_, fun none => ?_, fun n _ => ?_⟩
  · refine ⟨last, started, ?_⟩
    by_contra present
    rw [if_neg present] at answered
    cases well.symm.trans answered
  · rintro ⟨n, starts, absent⟩
    exact answered.trans (if_pos (same n starts absent).1)
  · intro n starts absent first
    obtain ⟨missing, notBefore⟩ := same n starts absent
    have latest : n ≤ last := by
      by_contra later
      exact first last (not_le.mp later) missing
    rw [le_antisymm latest notBefore]
    exact calls
  · have present := none last started
    refine ⟨last, started, closed (Bool.eq_false_iff.mpr present), calls, seen, ?_⟩
    exact answered.trans (if_neg present)
  · exact polls.begins_le plan w.clock (positive.le.trans fits) n

/-- A site whose server refuses the first call, does not answer the second one in time, and then
says that there is no such object. -/
def departingSite : Site Rat Nat :=
  { Site.vacant with
    answer := fun _ s =>
      let outcome := match s with
        | 0 => .refused (.plain (.refused (.int 403)) "forbidden")
        | 1 => .late (.plain .awaitTimedOut "")
        | _ => .refused (.plain (.refused (.int 404)) "not found")
      (⟨1 / 2, outcome⟩, s + 1) }

theorem waitForRayClusterGone_iff_departing :
    0 < World.blank.trial.pollingInterval ∧
      ((waitForRayClusterGone "ns" "mnist" (60 : Rat)).run departingSite World.blank).1 = .ok () ∧
      (callsMade ((waitForRayClusterGone "ns" "mnist" (60 : Rat)).run departingSite
        World.blank).2.record).length = 3 := by
  let get : Cluster.Call .value := .getObject .rayCluster "ns" "mnist"
  let plan : Polling Rat Nat Json := goneWait "ns" "mnist" 60 2
  have takesTime : ∀ s, 0 ≤ (departingSite.answer get s).1.cost := by
    intro s
    change (0 : Rat) ≤ 1 / 2
    norm_num
  have ordinary : ∀ s f, (departingSite.answer get s).1.outcome = .refused f ∨
      (departingSite.answer get s).1.outcome = .late f → f.isOrdinary = true := by
    rintro (_ | _ | s) f (told | told) <;> cases told <;> rfl
  have positive : 0 < World.blank.trial.pollingInterval := by norm_num [World.blank]
  have fits : World.blank.trial.pollingInterval ≤ 60 := by norm_num [World.blank]
  let polls := gonePolls "ns" "mnist" departingSite World.blank.outside takesTime
  have brief : ∀ n, polls.duration n ≤ 1 / 2 := fun _ => le_refl _
  have starts : polls.Starts plan 0 2 := by
    refine Course.starts_of_duration_le _ _ _ brief positive.le ?_
    have interval : plan.interval = 2 := rfl
    have timeout : plan.timeout = 60 := rfl
    norm_num [interval, timeout]
  obtain ⟨iff, first, -⟩ := waitForRayClusterGone_iff "ns" "mnist" 60 departingSite World.blank
    positive fits takesTime ordinary
  refine ⟨positive, iff.mpr ⟨2, starts, rfl⟩, ?_⟩
  have made := first 2 starts rfl fun m hm => by
    obtain rfl | rfl : m = 0 ∨ m = 1 := by omega
    · exact Bool.false_ne_true
    · exact Bool.false_ne_true
  rw [made]
  rfl

end Trial

end TrialRun
