import TrialRun.Proofs.Trial.Waiters

/-!
# Lists that are null

An API server may answer with a list whose items are null.  For pods and for what happened in a
namespace that is an empty list.  For the objects of a custom resource it is not: null itself is
given on, and a wait that meets it counts or walks it and ends with a fault that no poll makes up
for.

Three waits look at such lists (`ListWait`).  `ListWait.Ends` says which outcomes of a poll end one
of them, and with what, and `nullItems_end` that nothing else does but running out of time.
-/

set_option autoImplicit false

namespace TrialRun

variable {τ σ : Type}

/-! ## Lists as they are served -/

namespace Json

/-- Its items are there, and null. -/
def HasNullItems (list : Json) : Prop := list.field? "items" = some .null

/-- An object whose items are a list or null, if it has any. -/
structure MayList (list : Json) : Prop where
  isObject : list.IsObject
  items : ∀ items, list.field? "items" = some items → items = .null ∨ items.IsList

/-- The items as they are asked for: an empty list in the place of none at all. -/
def askedItems (list : Json) : Except Fault Json := list.get "items" (.list [])

variable {list : Json}

/-- Null items are given on as they are. -/
theorem MayList.askedItems_of_null (h : list.MayList) (null : list.HasNullItems) :
    list.askedItems = .ok .null := by
  obtain ⟨fields, rfl⟩ := h.isObject
  have there : lookup "items" fields = some .null := null
  simp only [askedItems, get, there, Option.getD_some]

/-- Items that are missing are given as an empty list, and others as they are. -/
theorem MayList.askedItems_of_list (h : list.MayList) (there : ¬list.HasNullItems) :
    list.askedItems = .ok (.list list.listed) := by
  refine Lists.get_items ⟨h.isObject, fun own asked => ?_⟩
  rcases h.items own asked with rfl | list
  · exact absurd asked there
  · exact list

end Json

/-! ## Waits that look at lists -/

/-- What a wait looks for in the lists that it is served. -/
inductive ListWait where
  /-- That there is no Ray cluster. -/
  | noRayCluster
  /-- That there is no wrapper. -/
  | noAppWrapper
  /-- A wrapper in a phase. -/
  | inPhase (phase : Json)

namespace ListWait

/-- What the lists are made of. -/
def type : ListWait → ResourceType
  | .noRayCluster => .rayCluster
  | .noAppWrapper | .inPhase _ => .appWrapper

/-- The call of each poll. -/
def call (x : ListWait) (ns : Json) : Cluster.Call .value := .listObjects x.type ns

/-- What each poll is told as. -/
def task (x : ListWait) (ns : Json) : String :=
  s!"list {x.type.kind}s in namespace: {ns.display}"

def wait (ns : Json) (timeout : τ) : ListWait → Wait τ
  | .noRayCluster => .rayClustersDeleted ns timeout
  | .noAppWrapper => .appWrappersDeleted ns timeout
  | .inPhase phase => .appWrapperPhase ns phase timeout

def satisfied : ListWait → Json → Except Fault Bool
  | .noRayCluster, items | .noAppWrapper, items => do pure ((← items.size) == 0)
  | .inPhase phase, wrappers => Lookout.satisfied (.appWrapperPhase .null phase) wrappers

/-- What a wait gives, once it has ended with a state. -/
def finish : ListWait → Option Json → Except Fault Json
  | .noRayCluster, _ | .noAppWrapper, _ => .ok .null
  | .inPhase phase, seen => Lookout.finish (.appWrapperPhase .null phase) seen

/-- What is waited for, in words. -/
def goal (ns : Json) : ListWait → String
  | .noRayCluster => (Lookout.rayClustersDeleted ns).goal
  | .noAppWrapper => (Lookout.appWrappersDeleted ns).goal
  | .inPhase phase => (Lookout.appWrapperPhase ns phase).goal

/-- A wait for a deletion gives null, if it gives anything. -/
theorem run_thenNull {a : Act τ σ Unit} {site : Site τ σ} {w : World τ σ}
    {ended : Except Fault (Option Json) × World τ σ}
    (run : a.run site w = (ended.1 >>= fun _ => .ok (), ended.2)) :
    (a >>= fun _ => pure .null : Act τ σ Json).run site w =
      (ended.1 >>= fun _ => .ok .null, ended.2) := by
  rw [Act.run_bind, run]
  obtain ⟨_ | _, u⟩ := ended <;> rfl

section Plan

variable [Timescale τ]

def plan (x : ListWait) (ns : Json) (timeout interval : τ) : Polling τ σ Json where
  fetch := Cluster.listObjects x.type ns
  satisfied := x.satisfied
  timeout := timeout
  interval := interval
  description := x.goal ns
  display := Json.display

variable (x : ListWait) (ns : Json) (timeout interval : τ) (site : Site τ σ)

/-- Each poll is one call for the list, of which the items are asked for. -/
theorem plan_looks :
    (x.plan ns timeout interval).Looks site (x.task ns) (x.call ns) Json.askedItems := by
  cases x with
  | noRayCluster => exact Lookout.plan_looks (.rayClustersDeleted ns) timeout interval site
  | noAppWrapper => exact Lookout.plan_looks (.appWrappersDeleted ns) timeout interval site
  | inPhase phase => exact Lookout.plan_looks (.appWrapperPhase ns phase) timeout interval site

/-- Each wait is to poll at the trial's own interval, once what is waited for may have been logged,
and to make something of what was seen. -/
theorem run_wait (w : World τ σ) :
    ∃ begun : World τ σ, begun.outside = w.outside ∧ begun.clock = w.clock ∧
      callsMade begun.record = callsMade w.record ∧
      let ended := (x.plan ns timeout w.trial.pollingInterval).wait.run site begun
      (x.wait ns timeout).run.run site w = (ended.1 >>= x.finish, ended.2) := by
  have run (y : Lookout) := y.run_act timeout site w
  cases x with
  | noRayCluster =>
    obtain ⟨outside, clock, calls⟩ := (Lookout.rayClustersDeleted ns).begun_eq w
    exact ⟨_, outside, clock, calls, run_thenNull (run (.rayClustersDeleted ns))⟩
  | noAppWrapper =>
    obtain ⟨outside, clock, calls⟩ := (Lookout.appWrappersDeleted ns).begun_eq w
    exact ⟨_, outside, clock, calls, run_thenNull (run (.appWrappersDeleted ns))⟩
  | inPhase phase => exact ⟨w, rfl, rfl, rfl, run (.appWrapperPhase ns phase)⟩

end Plan

/-! ## What a poll decides -/

/-- Whether a wrapper is in a phase, as far as that can be read. -/
def TellsPhase (phase wrapper : Json) (met : Bool) : Prop :=
  ∃ said, Workload.appWrapperPhase wrapper = .ok said ∧ said.agrees phase = met

/-- The lists that settle a wait, each with what the wait then ends with. -/
inductive Settles : ListWait → List Json → Except Fault Json → Prop
  | noRayCluster : Settles .noRayCluster [] (.ok .null)
  | noAppWrapper : Settles .noAppWrapper [] (.ok .null)
  /-- The wrapper is the first one in the phase. -/
  | inPhase {phase wrapper : Json} (before after : List Json)
      (others : ∀ other ∈ before, TellsPhase phase other false)
      (met : TellsPhase phase wrapper true) :
      Settles (.inPhase phase) (before ++ wrapper :: after) (.ok wrapper)
  /-- The phase of a wrapper cannot be read. -/
  | illegible {phase wrapper : Json} {f : Fault} (before after : List Json)
      (others : ∀ other ∈ before, TellsPhase phase other false)
      (fault : Workload.appWrapperPhase wrapper = .error f) :
      Settles (.inPhase phase) (before ++ wrapper :: after) (.error f)

/-- Nothing is counted in null, and it is not walked either. -/
def nullFault : ListWait → Fault
  | .noRayCluster | .noAppWrapper => .plain .badType "object of type 'NoneType' has no len()"
  | .inPhase _ => .plain .badType "'NoneType' object is not iterable"

/-- The outcomes of a poll that end a wait, each with what the wait then ends with. -/
inductive Ends (x : ListWait) : Outcome Json → Except Fault Json → Prop
  | settled {list : Json} {r : Except Fault Json} (there : ¬list.HasNullItems)
      (settles : x.Settles list.listed r) : x.Ends (.served list) r
  | nullItems {list : Json} (null : list.HasNullItems) :
      x.Ends (.served list) (.error x.nullFault)
  /-- Nothing may deal with the fault of the call. -/
  | refused {f : Fault} (strange : f.isOrdinary = false) : x.Ends (.refused f) (.error f)
  | late {f : Fault} (strange : f.isOrdinary = false) : x.Ends (.late f) (.error f)

/-- Whatever is waited for, null items end the wait with the same fault. -/
theorem Ends.eq_nullFault {x : ListWait} {list : Json} {r : Except Fault Json}
    (h : x.Ends (.served list) r) (null : list.HasNullItems) : r = .error x.nullFault := by
  cases h with
  | settled there => exact absurd null there
  | nullItems => rfl

section Phase

variable {phase wrapper : Json} {before rest : List Json}

/-- A wrapper in another phase is passed over. -/
theorem firstInPhase_of_other (other : TellsPhase phase wrapper false) :
    Trial.firstInPhase phase (wrapper :: rest) = Trial.firstInPhase phase rest := by
  obtain ⟨said, asked, differs⟩ := other
  rw [Trial.firstInPhase, asked]
  exact if_neg (Bool.eq_false_iff.mp differs)

/-- A wrapper in the phase is found. -/
theorem firstInPhase_of_met (met : TellsPhase phase wrapper true) :
    Trial.firstInPhase phase (wrapper :: rest) = .ok (some wrapper) := by
  obtain ⟨said, asked, agrees⟩ := met
  rw [Trial.firstInPhase, asked]
  exact if_pos agrees

/-- A wrapper whose phase cannot be read ends the search. -/
theorem firstInPhase_of_illegible {f : Fault}
    (fault : Workload.appWrapperPhase wrapper = .error f) :
    Trial.firstInPhase phase (wrapper :: rest) = .error f := by
  rw [Trial.firstInPhase, fault]
  rfl

/-- All wrappers in other phases are passed over. -/
theorem firstInPhase_append (others : ∀ other ∈ before, TellsPhase phase other false) :
    Trial.firstInPhase phase (before ++ rest) = Trial.firstInPhase phase rest := by
  induction before with
  | nil => rfl
  | cons first before ih =>
    obtain ⟨other, others⟩ := List.forall_mem_cons.mp others
    rw [List.cons_append, firstInPhase_of_other other, ih others]

/-- A wrapper that is in another phase leaves it to those behind it to settle the wait. -/
theorem Settles.later {r : Except Fault Json} (other : TellsPhase phase wrapper false)
    (h : Settles (.inPhase phase) rest r) : Settles (.inPhase phase) (wrapper :: rest) r := by
  cases h with
  | inPhase before after others met =>
    exact .inPhase (wrapper :: before) after (List.forall_mem_cons.mpr ⟨other, others⟩) met
  | illegible before after others fault =>
    exact .illegible (wrapper :: before) after (List.forall_mem_cons.mpr ⟨other, others⟩) fault

/-- What is made of a search: nothing, if nothing is found. -/
def sought : Except Fault (Option Json) → Option (Except Fault Json)
  | .ok found => found.map .ok
  | .error f => some (.error f)

/-- A search that has come to something has found it, or has ended with that fault. -/
theorem sought_eq_some_iff {found : Except Fault (Option Json)} {r : Except Fault Json} :
    sought found = some r ↔ found = r.map some := by
  rcases found with f | _ | wrapper <;> cases r <;> simp [sought, Except.map]

/-- A list settles a wait for a phase with what the search in it comes to. -/
theorem settles_inPhase_iff {wrappers : List Json} {r : Except Fault Json} :
    Settles (.inPhase phase) wrappers r ↔ Trial.firstInPhase phase wrappers = r.map some := by
  constructor
  · intro h
    cases h with
    | inPhase before after others met =>
      rw [firstInPhase_append others]
      exact firstInPhase_of_met met
    | illegible before after others fault =>
      rw [firstInPhase_append others]
      exact firstInPhase_of_illegible fault
  · intro found
    -- the search stops at the first wrapper that cannot be read or is in the phase
    induction wrappers with
    | nil => cases r <;> cases found
    | cons wrapper rest ih =>
      cases asked : Workload.appWrapperPhase wrapper with
      | error f =>
        rw [firstInPhase_of_illegible asked] at found
        cases r <;> cases found
        exact .illegible [] rest nofun asked
      | ok said =>
        cases agrees : said.agrees phase with
        | false =>
          have other : TellsPhase phase wrapper false := ⟨said, asked, agrees⟩
          rw [firstInPhase_of_other other] at found
          exact .later other (ih found)
        | true =>
          have met : TellsPhase phase wrapper true := ⟨said, asked, agrees⟩
          rw [firstInPhase_of_met met] at found
          cases r <;> cases found
          exact .inPhase [] rest nofun met

end Phase

section Verdict

variable [Timescale τ] (x : ListWait) (ns : Json) (timeout interval : τ)

/-- The verdict on a list of wrappers is what the search in it comes to. -/
theorem map_verdict_wrappers (phase : Json) (wrappers : List Json) :
    ((plan (.inPhase phase) ns timeout interval : Polling τ σ Json).verdict
      (.ok (.list wrappers))).map (· >>= (inPhase phase).finish) =
        sought (Trial.firstInPhase phase wrappers) := by
  have asked : (plan (.inPhase phase) ns timeout interval : Polling τ σ Json).satisfied
      (.list wrappers) = (do pure (← Trial.firstInPhase phase wrappers).isSome) := rfl
  rw [Polling.verdict, asked]
  rcases found : Trial.firstInPhase phase wrappers with f | _ | wrapper
  · rfl
  · rfl
  · have gives : (inPhase phase).finish (some (.list wrappers)) = .ok wrapper := by
      change (Trial.firstInPhase phase wrappers >>= _) = _
      rw [found]
      rfl
    exact congrArg some gives

/-- A list that is there ends a wait if it settles it, and only then. -/
theorem map_verdict_list (items : List Json) (r : Except Fault Json) :
    ((x.plan ns timeout interval : Polling τ σ Json).verdict (.ok (.list items))).map
      (· >>= x.finish) = some r ↔ x.Settles items r := by
  cases x with
  | noRayCluster =>
    cases items with
    | nil =>
      constructor
      · rintro ⟨⟩
        exact .noRayCluster
      · rintro ⟨⟩
        rfl
    | cons first rest => exact ⟨nofun, nofun⟩
  | noAppWrapper =>
    cases items with
    | nil =>
      constructor
      · rintro ⟨⟩
        exact .noAppWrapper
      · rintro ⟨⟩
        rfl
    | cons first rest => exact ⟨nofun, nofun⟩
  | inPhase phase =>
    have found : ((plan (.inPhase phase) ns timeout interval : Polling τ σ Json).verdict
        (.ok (.list items))).map (· >>= (inPhase phase).finish) =
          sought (Trial.firstInPhase phase items) :=
      map_verdict_wrappers ns timeout interval phase items
    rw [found, settles_inPhase_iff, sought_eq_some_iff]

/-- Null is neither counted nor walked. -/
theorem satisfied_null : x.satisfied .null = .error x.nullFault := by cases x <;> rfl

/-- The outcome of a poll ends a wait if it is one of those that do, and only then. -/
theorem map_verdict_told {o : Outcome Json} (mayList : ∀ list, o = .served list → list.MayList)
    (r : Except Fault Json) :
    ((x.plan ns timeout interval : Polling τ σ Json).verdict
      (o.told (x.task ns) >>= Json.askedItems)).map (· >>= x.finish) = some r ↔ x.Ends o r := by
  have faults : ∀ f : Fault,
      ((x.plan ns timeout interval : Polling τ σ Json).verdict
        (.error (if f.isOrdinary then Cluster.operationFault (x.task ns) f else f))).map
          (· >>= x.finish) = some r ↔ f.isOrdinary = false ∧ r = .error f := by
    intro f
    cases ordinary : f.isOrdinary with
    | true =>
      rw [if_pos rfl, Polling.verdict, if_pos (Cluster.isOrdinary_operationFault _ f)]
      constructor
      · rintro ⟨⟩
      · rintro ⟨⟨⟩, -⟩
    | false =>
      rw [if_neg Bool.false_ne_true, Polling.verdict, ordinary]
      exact ⟨fun same => ⟨rfl, (Option.some.inj same).symm⟩, fun same => congrArg some same.2.symm⟩
  cases o with
  | served list =>
    have mayList := mayList list rfl
    have told : (Outcome.served list).told (x.task ns) >>= Json.askedItems = list.askedItems := rfl
    rw [told]
    by_cases null : list.HasNullItems
    · have decided : (x.plan ns timeout interval : Polling τ σ Json).verdict (.ok .null) =
          some (.error x.nullFault) := by
        have asked : (x.plan ns timeout interval : Polling τ σ Json).satisfied .null =
          .error x.nullFault := x.satisfied_null
        rw [Polling.verdict, asked]
      rw [mayList.askedItems_of_null null, decided]
      constructor
      · rintro ⟨⟩
        exact .nullItems null
      · intro ends
        rw [ends.eq_nullFault null]
        rfl
    · rw [mayList.askedItems_of_list null, map_verdict_list]
      constructor
      · exact .settled null
      · rintro (⟨-, settles⟩ | ⟨listed⟩)
        · exact settles
        · exact absurd listed null
  | refused f =>
    refine (faults f).trans ⟨?_, ?_⟩
    · rintro ⟨strange, rfl⟩
      exact .refused strange
    · intro ends
      cases ends with
      | refused strange => exact ⟨strange, rfl⟩
  | late f =>
    refine (faults f).trans ⟨?_, ?_⟩
    · rintro ⟨strange, rfl⟩
      exact .late strange
    · intro ends
      cases ends with
      | late strange => exact ⟨strange, rfl⟩

end Verdict

/-! ## Whole waits -/

/-- The course of the polls. -/
def polls (x : ListWait) (ns : Json) (site : Site Rat σ) (s : σ)
    (takesTime : ∀ s, 0 ≤ (site.answer (x.call ns) s).1.cost) : Course Json :=
  site.course (x.call ns) (x.task ns) Json.askedItems s takesTime

section Whole

variable (x : ListWait) (ns : Json) {timeout : Rat} {site : Site Rat σ} {w : World Rat σ}

/-- There is a last poll.  No poll before it ends the wait, and it ends it itself or comes too late
for another one. -/
theorem exists_lastPoll (positive : 0 < w.trial.pollingInterval)
    (fits : w.trial.pollingInterval ≤ timeout)
    (takesTime : ∀ s, 0 ≤ (site.answer (x.call ns) s).1.cost)
    (mayList : ∀ s list, (site.answer (x.call ns) s).1.outcome = .served list → list.MayList) :
    let outcome n := (site.reply (x.call ns) w.outside n).outcome
    let plan : Polling Rat Nat Json := x.plan ns timeout w.trial.pollingInterval
    let starts := (x.polls ns site w.outside takesTime).Starts plan w.clock
    let ended := (x.wait ns timeout).run.run site w
    ∃ last, starts last ∧
      callsMade ended.2.record =
        site.calls (x.call ns) w.outside (last + 1) ++ callsMade w.record ∧
      (∀ m < last, ∀ r, ¬x.Ends (outcome m) r) ∧
      (x.Ends (outcome last) ended.1 ∨
        (∀ r, ¬x.Ends (outcome last) r) ∧ ¬starts (last + 1) ∧ ∃ seen, ended.1 = .error (.timedOut
          (s!"Timeout waiting for {x.goal ns} after {Timescale.text timeout}s" ++ seen))) := by
  intro outcome plan starts ended
  let p : Polling Rat σ Json := x.plan ns timeout w.trial.pollingInterval
  let decided n := p.verdict ((outcome n).told (x.task ns) >>= Json.askedItems)
  obtain ⟨begun, outside, clock, calls, run⟩ := x.run_wait ns timeout site w
  obtain ⟨last, started, before, closed, made, seen, answered⟩ :=
    Polling.exists_lastLook (x.plan_looks ns timeout w.trial.pollingInterval site) takesTime
      positive fits begun (q := plan) rfl rfl
  simp only [outside, clock] at started before closed made answered
  have ends : ∀ n r, (decided n).map (· >>= x.finish) = some r ↔ x.Ends (outcome n) r :=
    fun n r => x.map_verdict_told ns timeout _ (mayList _) r
  have open_ : ∀ n, decided n = none → ∀ r, ¬x.Ends (outcome n) r := by
    intro n undecided r ended
    have some := (ends n r).mpr ended
    rw [undecided] at some
    cases some
  refine ⟨last, started, ?_, fun m hm => open_ m (before m hm), ?_⟩
  · rw [show ended = _ from run, made, calls]
  · have result : ended.1 = (decided last).getD _ >>= x.finish :=
      (congrArg Prod.fst run).trans (congrArg (· >>= x.finish) answered)
    cases decides : decided last with
    | some r =>
      left
      rw [result, decides]
      exact (ends last _).mp (congrArg (Option.map _) decides)
    | none =>
      right
      refine ⟨open_ last decides, closed decides, seen, ?_⟩
      rw [result, decides]
      rfl

end Whole

end ListWait

/-! ## What null does -/

namespace Cluster

section Operations

variable [Timescale τ] {ns : Json} {site : Site τ σ} {w : World τ σ}

/-- The objects of a list that is served are its items, as they are asked for. -/
theorem run_listObjects {type : ResourceType} {list : Json}
    (served : (site.answer (.listObjects type ns) w.outside).1.outcome = .served list) :
    ((listObjects type ns).run site w).1 = list.askedItems := by
  rw [listObjects, Act.run_bind_of_ok _ (run_ask_of_served _ served)]
  exact congrArg Prod.fst (Act.run_liftM site _ _)

/-- A null list of pods is an empty one. -/
theorem run_listPods {selector : Json} {pods : Option (List Pod)}
    (served : (site.answer (.listPods ns selector) w.outside).1.outcome = .served pods) :
    ((listPods ns selector).run site w).1 = .ok (pods.getD []) := by
  rw [listPods, Act.run_bind_of_ok _ (run_ask_of_served _ served)]
  rfl

/-- So is a null list of what happened. -/
theorem run_listOccurrences {occurrences : Option (List Occurrence)}
    (served : (site.answer (.listOccurrences ns) w.outside).1.outcome = .served occurrences) :
    ((listOccurrences ns).run site w).1 = .ok (occurrences.getD []) := by
  rw [listOccurrences, Act.run_bind_of_ok _ (run_ask_of_served _ served)]
  rfl

end Operations

end Cluster

namespace ListWait

/-- **Only the lists of custom objects are not empty when they are null.**  The pods of a namespace
and what happened in it are listed, with none if there is null.  The objects of a type are listed
too, with none if there are no items at all, but for null items null itself is given.

A wait that looks at such lists is ended by what it waits for, by null items, by a wrapper whose
phase cannot be read and by what nothing may deal with, and by nothing else: if no poll until the
last one is answered so, it ends with a timeout of its own.  Null items end it with a fault of its
own making, whatever the polls behind would have found. -/
theorem nullItems_end (site : Site Rat σ) (w : World Rat σ)
    (positive : 0 < w.trial.pollingInterval)
    (takesTime : ∀ {f : Cluster.Form} (c : Cluster.Call f) s, 0 ≤ (site.answer c s).1.cost)
    (mayList : ∀ type ns s list,
      (site.answer (.listObjects type ns) s).1.outcome = .served list → list.MayList) :
    (∀ ns selector pods,
      (site.answer (.listPods ns selector) w.outside).1.outcome = .served pods →
      ((Cluster.listPods ns selector).run site w).1 = .ok (pods.getD [])) ∧
    (∀ ns occurrences,
      (site.answer (.listOccurrences ns) w.outside).1.outcome = .served occurrences →
      ((Cluster.listOccurrences ns).run site w).1 = .ok (occurrences.getD [])) ∧
    (∀ type ns list,
      (site.answer (.listObjects type ns) w.outside).1.outcome = .served list →
      (list.HasNullItems → ((Cluster.listObjects type ns).run site w).1 = .ok .null) ∧
      (¬list.HasNullItems →
        ((Cluster.listObjects type ns).run site w).1 = .ok (.list list.listed))) ∧
    ∀ (x : ListWait) (ns : Json) (timeout : Rat), w.trial.pollingInterval ≤ timeout →
      let outcome n := (site.reply (x.call ns) w.outside n).outcome
      let plan : Polling Rat Nat Json := x.plan ns timeout w.trial.pollingInterval
      let starts := (x.polls ns site w.outside (takesTime _)).Starts plan w.clock
      let ended := (x.wait ns timeout).run.run site w
      ∃ last, starts last ∧
        callsMade ended.2.record =
          site.calls (x.call ns) w.outside (last + 1) ++ callsMade w.record ∧
        (∀ m < last, ∀ r, ¬x.Ends (outcome m) r) ∧
        (x.Ends (outcome last) ended.1 ∨
          (∀ r, ¬x.Ends (outcome last) r) ∧ ¬starts (last + 1) ∧
            ∃ seen, ended.1 = .error (.timedOut
              (s!"Timeout waiting for {x.goal ns} after {Timescale.text timeout}s" ++ seen))) := by
  refine ⟨fun ns selector pods => Cluster.run_listPods,
    fun ns occurrences => Cluster.run_listOccurrences, fun type ns list served => ?_,
    fun x ns timeout fits =>
      x.exists_lastPoll ns positive fits (takesTime _) (mayList x.type ns)⟩
  have listed := mayList type ns w.outside list served
  rw [Cluster.run_listObjects served]
  exact ⟨listed.askedItems_of_null, listed.askedItems_of_list⟩

/-- A site whose server refuses the first call, then serves a list of one object, and then lists of
null. -/
def nullingSite : Site Rat Nat :=
  { Site.vacant with
    answer := fun {f} _ s =>
      let outcome : Outcome f.Carrier := match f, s with
        | .value, 1 => .served (.object [("items", .list [.object []])])
        | .value, _ + 2 => .served (.object [("items", .null)])
        | _, _ => .refused (.plain (.refused (.int 403)) "forbidden")
      (⟨1 / 2, outcome⟩, s + 1) }

/-- That site serves objects whose items are a list or null. -/
theorem nullingSite_mayList (type : ResourceType) (ns : Json) (s : Nat) (list : Json)
    (served : (nullingSite.answer (.listObjects type ns) s).1.outcome = .served list) :
    list.MayList := by
  match s with
  | 0 => cases served
  | 1 =>
    obtain rfl : _ = list := Outcome.served.inj served
    refine ⟨⟨_, rfl⟩, fun items there => .inr ?_⟩
    obtain rfl : _ = items := Option.some.inj there
    exact ⟨_, rfl⟩
  | _ + 2 =>
    obtain rfl : _ = list := Outcome.served.inj served
    refine ⟨⟨_, rfl⟩, fun items there => .inl ?_⟩
    exact (Option.some.inj there).symm

/-- All three waits end at the null list, each with its own fault, and long before their time. -/
theorem nullItems_end_nulling :
    let ended := (noRayCluster.wait "ns" (60 : Rat)).run.run nullingSite World.blank
    0 < World.blank.trial.pollingInterval ∧ ended.1 = .error noRayCluster.nullFault ∧
      (callsMade ended.2.record).length = 3 := by
  intro ended
  have takesTime : ∀ {f : Cluster.Form} (c : Cluster.Call f) s,
      0 ≤ (nullingSite.answer c s).1.cost := by
    intro f c s
    change (0 : Rat) ≤ 1 / 2
    norm_num
  have positive : 0 < World.blank.trial.pollingInterval := by norm_num [World.blank]
  have fits : World.blank.trial.pollingInterval ≤ 60 := by norm_num [World.blank]
  obtain ⟨-, -, -, waits⟩ :=
    nullItems_end nullingSite World.blank positive takesTime nullingSite_mayList
  obtain ⟨last, -, made, before, ends⟩ := waits noRayCluster "ns" 60 fits
  let outcome n := (nullingSite.reply (noRayCluster.call "ns") World.blank.outside n).outcome
  have third : noRayCluster.Ends (outcome 2) (.error noRayCluster.nullFault) := .nullItems rfl
  have early : ∀ n < 2, ∀ r, ¬noRayCluster.Ends (outcome n) r := by
    intro n hn r ends
    obtain rfl | rfl : n = 0 ∨ n = 1 := by omega
    · rcases ends with _ | _ | strange
      cases strange
    · rcases ends with ⟨-, settles⟩ | null
      · cases settles
      · cases null
  let polls := noRayCluster.polls "ns" nullingSite World.blank.outside (takesTime _)
  have starts : polls.Starts (noRayCluster.plan "ns" 60 World.blank.trial.pollingInterval) 0 2 := by
    have brief : ∀ n, polls.duration n ≤ 1 / 2 := fun _ => le_rfl
    refine Course.starts_of_duration_le _ _ _ brief positive.le ?_
    norm_num [plan, World.blank]
  -- the second poll leaves time for the third one, which is the first to end the wait
  rcases lt_trichotomy last 2 with less | rfl | more
  · rcases ends with ends | ⟨-, closed, -⟩
    · exact absurd ends (early last less _)
    · exact absurd (starts.earlier less) closed
  · rcases ends with ends | ⟨goesOn, -⟩
    · refine ⟨positive, ends.eq_nullFault rfl, ?_⟩
      rw [made]
      rfl
    · exact absurd third (goesOn _)
  · exact absurd third (before 2 more _)

/-- Null items are given on as null, and end a wait for a deletion with a fault of its own. -/
theorem nullItems_areNoList :
    let w : World Rat Nat := { World.blank with outside := 2 }
    ((Cluster.listObjects .rayCluster "ns").run nullingSite w).1 = .ok .null ∧
      ((noRayCluster.wait "ns" (60 : Rat)).run.run nullingSite w).1 =
        .error (.plain .badType "object of type 'NoneType' has no len()") := by
  intro w
  refine ⟨rfl, ?_⟩
  have positive : 0 < w.trial.pollingInterval := by norm_num [w, World.blank]
  have fits : w.trial.pollingInterval ≤ 60 := by norm_num [w, World.blank]
  have takesTime : ∀ s, 0 ≤ (nullingSite.answer (noRayCluster.call "ns") s).1.cost := by
    intro s
    change (0 : Rat) ≤ 1 / 2
    norm_num
  obtain ⟨last, -, -, before, ends⟩ := exists_lastPoll noRayCluster "ns" positive fits takesTime
    (nullingSite_mayList _ _)
  let outcome n := (nullingSite.reply (noRayCluster.call "ns") w.outside n).outcome
  have first : noRayCluster.Ends (outcome 0) (.error noRayCluster.nullFault) := .nullItems rfl
  obtain rfl | later := Nat.eq_zero_or_pos last
  · rcases ends with ends | ⟨goesOn, -⟩
    · exact ends.eq_nullFault rfl
    · exact absurd first (goesOn _)
  · exact absurd first (before 0 later _)

end ListWait

end TrialRun
