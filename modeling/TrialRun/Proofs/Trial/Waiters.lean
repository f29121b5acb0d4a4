import TrialRun.Proofs.Cluster.Failures
import TrialRun.Proofs.Polling.Replies
import TrialRun.Trial.Waits

/-!
# Waiting for what is served

Seven waits of a trial look at what the cluster serves, each with a call of its own, until a reply
has what is waited for.  A `Lookout` is one of them, and `Lookout.result?` says what a reply is
worth to it: nothing if it does not have what is waited for, else what the wait gives.

`Lookout.act_fresh` is about all seven.  As long as replies are objects whose status is of the
declared form, or not there yet, nothing that the cluster does ends a wait but a reply with what is
waited for.  Each poll is one call, always the same reading one; the reply of the last one is what
the wait gives, and no reply before it was worth anything.
-/

set_option autoImplicit false

namespace TrialRun

variable {τ σ : Type}

/-! ## Served objects -/

namespace Json

/-- What the status of an object says of a part; null if it says nothing. -/
def reported (object : Json) (part : String) : Json :=
  ((object.field? "status").bind (field? part)).getD .null

/-- The items of a served list. -/
def listed (list : Json) : List Json :=
  match list.field? "items" with
  | some (.list items) => items
  | _ => []

def IsObject (v : Json) : Prop := ∃ fields, v = .object fields

def IsText (v : Json) : Prop := ∃ s, v = .text s

def IsList (v : Json) : Prop := ∃ items, v = .list items

/-- An object whose status is an object, null or absent, and says of a part what is declared for it,
or null, or nothing. -/
structure Reports (object : Json) (part : String) (declared : Json → Prop) : Prop where
  isObject : object.IsObject
  status : ∀ status, object.field? "status" = some status → status = .null ∨ status.IsObject
  part : object.reported part = .null ∨ declared (object.reported part)

/-- An object whose items are a list, if it has any. -/
structure Lists (list : Json) : Prop where
  isObject : list.IsObject
  items : ∀ items, list.field? "items" = some items → items.IsList

/-- A part of the status is read without a fault from an object that reports it, or nothing. -/
theorem Reports.statusPart_eq {object : Json} {part : String} {declared : Json → Prop}
    (h : object.Reports part declared) :
    Workload.statusPart object part = .ok (object.reported part) := by
  obtain ⟨fields, rfl⟩ := h.isObject
  cases there : lookup "status" fields with
  | none =>
    have asked : (object fields).get "status" = .ok .null := by rw [get, there]; rfl
    have nothing : (object fields).reported part = .null := by rw [reported, field?, there]; rfl
    rw [Workload.statusPart, asked, nothing]
    rfl
  | some status =>
    have asked : (object fields).get "status" = .ok status := by rw [get, there]; rfl
    have told : (object fields).reported part = (status.field? part).getD .null := by
      rw [reported, field?, there]
      rfl
    rw [Workload.statusPart, asked, told]
    rcases h.status status there with rfl | ⟨parts, rfl⟩
    · rfl
    · cases parts <;> rfl

/-- The items of a list are read without a fault, and are none if the list has none. -/
theorem Lists.get_items {list : Json} (h : list.Lists) :
    list.get "items" (.list []) = .ok (.list list.listed) := by
  obtain ⟨fields, rfl⟩ := h.isObject
  cases there : lookup "items" fields with
  | none => simp only [get, listed, field?, there, Option.getD_none]
  | some items =>
    obtain ⟨own, rfl⟩ := h.items items there
    simp only [get, listed, field?, there, Option.getD_some]

end Json

/-! ## What is looked for -/

/-- A wrapper that says it is in a phase. -/
def Json.isInPhase (phase wrapper : Json) : Bool := (wrapper.reported "phase").agrees phase

/-- Something to be waited for by looking at what the cluster serves. -/
inductive Lookout where
  | rayClusterState (ns name state : Json)
  | rayJobTerminal (ns name : Json)
  | appWrapperPhase (ns phase : Json)
  | rayClustersDeleted (ns : Json)
  | appWrappersDeleted (ns : Json)
  | ingressAdmitted (ns name : Json)
  | routeAdmitted (ns name : Json)

namespace Lookout

open Cluster (Form Call)

/-! ### What is seen -/

/-- What the replies are made of. -/
abbrev form : Lookout → Form
  | .ingressAdmitted _ _ => .ingress
  | _ => .value

/-- The call of each poll. -/
def call : (x : Lookout) → Call x.form
  | .rayClusterState ns name _ => .getObject .rayCluster ns name
  | .rayJobTerminal ns name => .getObject .rayJob ns name
  | .appWrapperPhase ns _ => .listObjects .appWrapper ns
  | .rayClustersDeleted ns => .listObjects .rayCluster ns
  | .appWrappersDeleted ns => .listObjects .appWrapper ns
  | .ingressAdmitted ns name => .readIngress ns name
  | .routeAdmitted ns name => .getObject .route ns name

/-- A reply in which whatever is there is of the declared form. -/
def Declared : (x : Lookout) → x.form.Carrier → Prop
  | .rayClusterState _ _ _, rayCluster => rayCluster.Reports "state" Json.IsText
  | .rayJobTerminal _ _, rayJob => rayJob.Reports "jobStatus" Json.IsText
  | .appWrapperPhase _ _, wrappers =>
    wrappers.Lists ∧ ∀ wrapper ∈ wrappers.listed, wrapper.Reports "phase" Json.IsText
  | .rayClustersDeleted _, list => list.Lists
  | .appWrappersDeleted _, list => list.Lists
  | .ingressAdmitted _ _, _ => True
  | .routeAdmitted _ _, route => route.Reports "ingress" Json.IsList

/-- What the wait gives. -/
abbrev Result : Lookout → Type
  | .rayClustersDeleted _ | .appWrappersDeleted _ => Unit
  | .ingressAdmitted _ _ => Option Cluster.Ingress
  | _ => Json

/-- What a reply is worth: the result of the wait, if the reply has what is waited for. -/
def result? : (x : Lookout) → x.form.Carrier → Option x.Result
  | .rayClusterState _ _ state, rayCluster =>
    if (rayCluster.reported "state").agrees state then some rayCluster else none
  | .rayJobTerminal _ _, rayJob =>
    match rayJob.reported "jobStatus" with
    | .text status => if status ∈ Workload.terminalStatuses then some rayJob else none
    | _ => none
  | .appWrapperPhase _ phase, wrappers =>
    wrappers.listed.find? (Json.isInPhase phase)
  | .rayClustersDeleted _, list => if list.listed = [] then some () else none
  | .appWrappersDeleted _, list => if list.listed = [] then some () else none
  | .ingressAdmitted _ _, ingress =>
    if ingress.loadBalancerPoints.length = 1 then some (some ingress) else none
  | .routeAdmitted _ _, route =>
    match route.reported "ingress" with
    | .list (_ :: _) => some route
    | _ => none

/-- What the outcome of a poll is worth; a fault is worth nothing. -/
def worth (x : Lookout) : Outcome x.form.Carrier → Option x.Result
  | .served v => x.result? v
  | .refused _ | .late _ => none

/-- An outcome that a wait may meet: a reply of the declared form, or a fault that can be dealt
with. -/
def Regular (x : Lookout) : Outcome x.form.Carrier → Prop
  | .served v => x.Declared v
  | .refused f | .late f => f.isOrdinary = true

/-! ### How it is waited for -/

/-- What is waited for, in words. -/
def goal : Lookout → String
  | .rayClusterState ns name state =>
    s!"RayCluster {ns.display}/{name.display} to be {state.display}"
  | .rayJobTerminal ns name => s!"RayJob {ns.display}/{name.display} to complete"
  | .appWrapperPhase ns phase =>
    s!"an AppWrapper in namespace {ns.display} to be {phase.display}"
  | .rayClustersDeleted ns => s!"RayClusters in namespace {ns.display} to be deleted"
  | .appWrappersDeleted ns => s!"AppWrappers in namespace {ns.display} to be deleted"
  | .ingressAdmitted ns name => s!"Ingress {ns.display}/{name.display} to be admitted"
  | .routeAdmitted ns name => s!"Route {ns.display}/{name.display} to be admitted"

/-- What each poll is told as. -/
def task : Lookout → String
  | .rayClusterState ns name _ =>
    s!"get {ResourceType.rayCluster.kind}: {Cluster.reference ns name}"
  | .rayJobTerminal ns name => s!"get {ResourceType.rayJob.kind}: {Cluster.reference ns name}"
  | .appWrapperPhase ns _ | .appWrappersDeleted ns =>
    s!"list {ResourceType.appWrapper.kind}s in namespace: {ns.display}"
  | .rayClustersDeleted ns =>
    s!"list {ResourceType.rayCluster.kind}s in namespace: {ns.display}"
  | .ingressAdmitted ns name => s!"get Ingress: {ns.display}/{name.display}"
  | .routeAdmitted ns name => s!"get {ResourceType.route.kind}: {Cluster.reference ns name}"

/-- What is made of a reply: a list is asked for its items. -/
def make : (x : Lookout) → x.form.Carrier → Except Fault x.form.Carrier
  | .appWrapperPhase _ _, list | .rayClustersDeleted _, list | .appWrappersDeleted _, list =>
    list.get "items" (.list [])
  | .rayClusterState _ _ _, v | .rayJobTerminal _ _, v | .ingressAdmitted _ _, v
  | .routeAdmitted _ _, v => .ok v

/-- The first wrapper of a list that is in a phase. -/
def find (phase wrappers : Json) : Except Fault (Option Json) := do
  Trial.firstInPhase phase (← wrappers.elements)

def satisfied : (x : Lookout) → x.form.Carrier → Except Fault Bool
  | .rayClusterState _ _ state, rayCluster => do
    pure ((← Workload.rayClusterState rayCluster).agrees state)
  | .rayJobTerminal _ _, rayJob => do Workload.isJobTerminal (← Workload.rayJobStatus rayJob)
  | .appWrapperPhase _ phase, wrappers => do
    pure (← find phase wrappers).isSome
  | .rayClustersDeleted _, items | .appWrappersDeleted _, items => do pure ((← items.size) == 0)
  | .ingressAdmitted _ _, ingress => .ok (ingress.loadBalancerPoints.length == 1)
  | .routeAdmitted _ _, route => do pure (0 < (← (← Workload.routeIngresses route).size))

/-- What a wait gives, once it has ended with a state. -/
def finish : (x : Lookout) → Option x.form.Carrier → Except Fault x.Result
  | .rayClusterState _ _ _, seen | .rayJobTerminal _ _, seen | .routeAdmitted _ _, seen =>
    .ok (seen.getD .null)
  | .appWrapperPhase _ phase, seen => do
    match ← find phase (seen.getD .null) with
    | some wrapper => pure wrapper
    | none => .error (.plain .general "")
  | .rayClustersDeleted _, _ | .appWrappersDeleted _, _ => .ok ()
  | .ingressAdmitted _ _, seen => .ok seen

def display : (x : Lookout) → x.form.Carrier → String
  | .ingressAdmitted _ _, ingress => ingress.shown
  | .rayClusterState _ _ _, v | .rayJobTerminal _ _, v | .appWrapperPhase _ _, v
  | .rayClustersDeleted _, v | .appWrappersDeleted _, v | .routeAdmitted _ _, v => v.display

/-- The world in which the polls begin: all waits but one have logged what they wait for. -/
def begun (x : Lookout) (w : World τ σ) : World τ σ :=
  match x with
  | .appWrapperPhase _ _ => w
  | _ => w.recorded (.log .info s!"Waiting for {x.goal}")

/-- Logging changes nothing but the record. -/
theorem begun_eq (x : Lookout) (w : World τ σ) :
    (x.begun w).outside = w.outside ∧ (x.begun w).clock = w.clock ∧
      callsMade (x.begun w).record = callsMade w.record := by
  cases x <;> exact ⟨rfl, rfl, rfl⟩

/-- The call of a lookout neither creates nor deletes. -/
theorem call_reads (x : Lookout) : x.call.creates? = none ∧ x.call.deletes? = none := by
  cases x <;> exact ⟨rfl, rfl⟩

variable [Timescale τ]

def fetch : (x : Lookout) → Act τ σ x.form.Carrier
  | .rayClusterState ns name _ => Cluster.getObject .rayCluster ns name
  | .rayJobTerminal ns name => Cluster.getObject .rayJob ns name
  | .appWrapperPhase ns _ | .appWrappersDeleted ns => Cluster.listObjects .appWrapper ns
  | .rayClustersDeleted ns => Cluster.listObjects .rayCluster ns
  | .ingressAdmitted ns name => Cluster.getIngress ns name
  | .routeAdmitted ns name => Cluster.getObject .route ns name

def plan (x : Lookout) (timeout interval : τ) : Polling τ σ x.form.Carrier where
  fetch := x.fetch
  satisfied := x.satisfied
  timeout := timeout
  interval := interval
  description := x.goal
  display := x.display

/-- The wait itself. -/
def act (timeout : τ) : (x : Lookout) → Act τ σ x.Result
  | .rayClusterState ns name state => Trial.waitForRayClusterState ns name state timeout
  | .rayJobTerminal ns name => Trial.waitForRayJobTerminal ns name timeout
  | .appWrapperPhase ns phase => Trial.waitForAppWrapperPhase ns phase timeout
  | .rayClustersDeleted ns => Trial.waitForRayClustersDeleted ns timeout
  | .appWrappersDeleted ns => Trial.waitForAppWrappersDeleted ns timeout
  | .ingressAdmitted ns name => Trial.waitForIngressAdmitted ns name timeout
  | .routeAdmitted ns name => Trial.waitForRouteAdmitted ns name timeout

/-- Each wait is to log, to poll at the trial's own interval, and to make something of what was
seen. -/
theorem run_act (x : Lookout) (timeout : τ) (site : Site τ σ) (w : World τ σ) :
    (x.act timeout).run site w =
      let ended := (x.plan timeout w.trial.pollingInterval).wait.run site (x.begun w)
      (ended.1 >>= x.finish, ended.2) := by
  have polled : ∃ next : Option x.form.Carrier → Act τ σ x.Result,
      (x.act timeout).run site w =
        ((x.plan timeout w.trial.pollingInterval).wait >>= next).run site (x.begun w) ∧
      ∀ seen u, (next seen).run site u = (x.finish seen, u) := by
    cases x with
    | rayClusterState ns name state => exact ⟨_, rfl, fun _ _ => rfl⟩
    | rayJobTerminal ns name => exact ⟨_, rfl, fun _ _ => rfl⟩
    | appWrapperPhase ns phase =>
      let first (wrappers : Json) : Act τ σ Json := do
        match ← find phase wrappers with
        | some wrapper => pure wrapper
        | none => Act.fail (.plain .general "")
      let wait : Act τ σ (Option Json) :=
        ((appWrapperPhase ns phase).plan timeout w.trial.pollingInterval).wait
      have unfolded : (act timeout (.appWrapperPhase ns phase)).run site w =
          ((wait >>= fun seen => pure (seen.getD .null)) >>= first).run site w := rfl
      rw [Act.bind_assoc] at unfolded
      refine ⟨_, unfolded, fun seen u => ?_⟩
      change (first (seen.getD .null)).run site u = (finish (.appWrapperPhase ns phase) seen, u)
      simp only [first, finish]
      rcases find phase (seen.getD .null) with _ | _ | wrapper <;> rfl
    | rayClustersDeleted ns =>
      exact ⟨_, congrArg (Act.run · site _) (Act.bind_assoc _ _ _), fun _ _ => rfl⟩
    | appWrappersDeleted ns =>
      exact ⟨_, congrArg (Act.run · site _) (Act.bind_assoc _ _ _), fun _ _ => rfl⟩
    | ingressAdmitted ns name =>
      have plain : (act timeout (.ingressAdmitted ns name)).run site w =
          ((ingressAdmitted ns name).plan timeout w.trial.pollingInterval).wait.run site
            ((ingressAdmitted ns name).begun w) := rfl
      refine ⟨pure, ?_, fun _ _ => rfl⟩
      rw [plain, Act.run_bind]
      rcases Act.run _ site _ with ⟨_ | _, _⟩ <;> rfl
    | routeAdmitted ns name => exact ⟨_, rfl, fun _ _ => rfl⟩
  obtain ⟨next, same, returns⟩ := polled
  rw [same]
  exact Act.run_bind_of_returns returns

/-- Each poll makes the call of the lookout. -/
theorem plan_looks (x : Lookout) (timeout interval : τ) (site : Site τ σ) :
    (x.plan timeout interval).Looks site x.task x.call x.make := by
  have asked : ∀ {f : Form} (task : String) (c : Call f) (make : f.Carrier → Except Fault f.Carrier)
      (w : World τ σ),
      (Cluster.ask task c >>= fun v => liftM (make v) : Act τ σ f.Carrier).run site w =
        ((site.answer c w.outside).1.outcome.told task >>= make, w.answered site c) := by
    intro f task c make w
    rw [Act.run_bind_of_returns fun v u => Act.run_liftM site u (make v), Cluster.run_ask_eq]
  have asked' : ∀ {f : Form} (task : String) (c : Call f) (w : World τ σ),
      (Cluster.ask task c : Act τ σ f.Carrier).run site w =
        ((site.answer c w.outside).1.outcome.told task >>= .ok, w.answered site c) := by
    intro f task c w
    rw [Cluster.run_ask_eq]
    cases (site.answer c w.outside).1.outcome <;> rfl
  intro w
  cases x with
  | rayClusterState ns name state => exact asked' _ _ w
  | rayJobTerminal ns name => exact asked' _ _ w
  | appWrapperPhase ns phase => exact asked _ _ _ w
  | rayClustersDeleted ns => exact asked _ _ _ w
  | appWrappersDeleted ns => exact asked _ _ _ w
  | ingressAdmitted ns name => exact asked' _ _ w
  | routeAdmitted ns name => exact asked' _ _ w

/-! ### What a poll decides -/

/-- Among wrappers of the declared form, the first one in a phase can be told. -/
theorem firstInPhase_eq {phase : Json} {wrappers : List Json}
    (declared : ∀ wrapper ∈ wrappers, wrapper.Reports "phase" Json.IsText) :
    Trial.firstInPhase phase wrappers =
      .ok (wrappers.find? (Json.isInPhase phase)) := by
  induction wrappers with
  | nil => rfl
  | cons first rest ih =>
    have asked : Workload.appWrapperPhase first = .ok (first.reported "phase") :=
      (declared first List.mem_cons_self).statusPart_eq
    have others := ih fun wrapper member => declared wrapper (List.mem_cons_of_mem _ member)
    rw [Trial.firstInPhase, asked]
    by_cases met : Json.isInPhase phase first = true
    · rw [List.find?_cons_of_pos met]
      exact if_pos met
    · rw [List.find?_cons_of_neg met, ← others]
      exact if_neg met

/-- If the condition says so without a fault, its answer is the verdict. -/
theorem verdict_of_satisfied (x : Lookout) (timeout interval : τ) {v state : x.form.Carrier}
    {met : Bool} (made : x.make v = .ok state) (asked : x.satisfied state = .ok met) :
    (x.plan timeout interval : Polling τ σ x.form.Carrier).verdict (x.make v) =
      if met then some (.ok (some state)) else none := by
  have told : (x.plan timeout interval : Polling τ σ x.form.Carrier).satisfied state = .ok met :=
    asked
  rw [made, Polling.verdict, told]
  cases met <;> rfl

/-- A reply of the declared form ends a wait if it has what is waited for, with what it is worth,
and does not end it otherwise. -/
theorem map_verdict_make (x : Lookout) (timeout interval : τ) {v : x.form.Carrier}
    (declared : x.Declared v) :
    ((x.plan timeout interval : Polling τ σ x.form.Carrier).verdict (x.make v)).map
      (· >>= x.finish) = (x.result? v).map .ok := by
  -- a declared reply is read without a fault, so the condition alone decides
  have told : ∀ {state : x.form.Carrier} {met : Bool}, x.make v = .ok state →
      x.satisfied state = .ok met →
      (x.plan timeout interval : Polling τ σ x.form.Carrier).verdict (x.make v) =
        if met then some (.ok (some state)) else none := x.verdict_of_satisfied timeout interval
  cases x with
  | rayClusterState ns name state =>
    have asked : satisfied (.rayClusterState ns name state) v =
        .ok ((Json.reported v "state").agrees state) := by
      simp only [satisfied, Workload.rayClusterState, Json.Reports.statusPart_eq declared]
      rfl
    rw [told rfl asked]
    simp only [result?]
    cases (Json.reported v "state").agrees state <;> rfl
  | rayJobTerminal ns name =>
    have asked : satisfied (.rayJobTerminal ns name) v =
        Workload.isJobTerminal (Json.reported v "jobStatus") := by
      simp only [satisfied, Workload.rayJobStatus, Json.Reports.statusPart_eq declared]
      rfl
    have part := declared.part
    simp only [result?]
    rcases part with nothing | ⟨status, text⟩
    · rw [nothing] at asked ⊢
      rw [told rfl asked]
      rfl
    · rw [text] at asked ⊢
      rw [told rfl asked]
      dsimp only
      by_cases terminal : status ∈ Workload.terminalStatuses
      · rw [if_pos terminal, if_pos (List.contains_iff_mem.mpr terminal)]
        rfl
      · rw [if_neg terminal, if_neg (terminal ∘ List.contains_iff_mem.mp)]
        rfl
  | appWrapperPhase ns phase =>
    obtain ⟨lists, reports⟩ := declared
    have found : find phase (.list (Json.listed v)) =
        .ok ((Json.listed v).find? (Json.isInPhase phase)) := firstInPhase_eq reports
    have asked : satisfied (.appWrapperPhase ns phase) (.list (Json.listed v)) =
        .ok ((Json.listed v).find? (Json.isInPhase phase)).isSome := by
      simp only [satisfied, found]
      rfl
    rw [told lists.get_items asked]
    simp only [result?]
    cases first : (Json.listed v).find? (Json.isInPhase phase) with
    | none => rfl
    | some wrapper =>
      have gives : finish (.appWrapperPhase ns phase) (some (.list (Json.listed v))) =
          .ok wrapper := by
        simp only [finish, Option.getD_some, found, first]
        rfl
      exact congrArg some gives
  | rayClustersDeleted ns =>
    have asked : satisfied (.rayClustersDeleted ns) (.list (Json.listed v)) =
        .ok ((Json.listed v).length == 0) := rfl
    rw [told declared.get_items asked]
    simp only [result?]
    cases Json.listed v <;> rfl
  | appWrappersDeleted ns =>
    have asked : satisfied (.appWrappersDeleted ns) (.list (Json.listed v)) =
        .ok ((Json.listed v).length == 0) := rfl
    rw [told declared.get_items asked]
    simp only [result?]
    cases Json.listed v <;> rfl
  | ingressAdmitted ns name =>
    have asked : satisfied (.ingressAdmitted ns name) v =
        .ok ((Cluster.Ingress.loadBalancerPoints v).length == 1) := rfl
    rw [told rfl asked]
    simp only [result?]
    by_cases admitted : (Cluster.Ingress.loadBalancerPoints v).length = 1
    · rw [if_pos admitted, admitted]
      rfl
    · rw [if_neg admitted, if_neg (admitted ∘ beq_iff_eq.mp)]
      rfl
  | routeAdmitted ns name =>
    have asked : Workload.routeIngresses v =
        .ok ((Json.reported v "ingress").orElse (.list [])) := by
      simp only [Workload.routeIngresses, Json.Reports.statusPart_eq declared]
      rfl
    have part := declared.part
    simp only [result?]
    rcases part with nothing | ⟨items, list⟩
    · have none : satisfied (.routeAdmitted ns name) v = .ok false := by
        simp only [satisfied, asked, nothing]
        rfl
      rw [nothing, told rfl none]
      rfl
    · have some : satisfied (.routeAdmitted ns name) v = .ok (0 < items.length) := by
        simp only [satisfied, asked, list]
        cases items <;> rfl
      rw [list, told rfl some]
      cases items <;> rfl

/-- What a poll decides is what its outcome is worth: calls that fail decide nothing. -/
theorem map_verdict_told (x : Lookout) (timeout interval : τ) {o : Outcome x.form.Carrier}
    (regular : x.Regular o) :
    ((x.plan timeout interval : Polling τ σ x.form.Carrier).verdict (o.told x.task >>= x.make)).map
      (· >>= x.finish) = (x.worth o).map .ok := by
  have faults : ∀ f : Fault, f.isOrdinary = true →
      (x.plan timeout interval : Polling τ σ x.form.Carrier).verdict
        (.error (if f.isOrdinary then Cluster.operationFault x.task f else f)) = none := by
    intro f ordinary
    rw [if_pos ordinary, Polling.verdict, if_pos (Cluster.isOrdinary_operationFault x.task f)]
    rfl
  cases o with
  | served v => exact x.map_verdict_make timeout interval regular
  | refused f => exact congrArg (Option.map _) (faults f regular)
  | late f => exact congrArg (Option.map _) (faults f regular)

/-! ### Whole waits -/

/-- The course of the polls. -/
def polls (x : Lookout) (site : Site Rat σ) (s : σ)
    (takesTime : ∀ s, 0 ≤ (site.answer x.call s).1.cost) : Course x.form.Carrier :=
  site.course x.call x.task x.make s takesTime

/-- **Waits give only what was served, once it is what they wait for.**  An interval that does not
fit into the timeout is refused before anything is asked.  Otherwise there is a last poll: each poll
up to it was the same call, which reads; no reply before the last one was worth anything to the
wait; and what the last one is worth is what the wait gives.  If it is worth nothing either, it has
come too late for another one, and the wait ends with a timeout of its own: no fault of the cluster
leaves it. -/
theorem act_fresh (x : Lookout) (timeout : Rat) (site : Site Rat σ) (w : World Rat σ)
    (positive : 0 < w.trial.pollingInterval)
    (takesTime : ∀ s, 0 ≤ (site.answer x.call s).1.cost)
    (regular : ∀ s, x.Regular (site.answer x.call s).1.outcome) :
    let ended := (x.act timeout).run site w
    let worth n := x.worth (site.reply x.call w.outside n).outcome
    let plan : Polling Rat Nat x.form.Carrier := x.plan timeout w.trial.pollingInterval
    let starts := (x.polls site w.outside takesTime).Starts plan w.clock
    (x.call.creates? = none ∧ x.call.deletes? = none) ∧
    (timeout < w.trial.pollingInterval →
      (∃ text, ended.1 = .error (.plain .badValue text)) ∧
        callsMade ended.2.record = callsMade w.record) ∧
    (w.trial.pollingInterval ≤ timeout →
      ∃ last, starts last ∧
        callsMade ended.2.record = site.calls x.call w.outside (last + 1) ++ callsMade w.record ∧
        (∀ m < last, worth m = none) ∧
        ((∃ result, worth last = some result ∧ ended.1 = .ok result) ∨
          worth last = none ∧ ¬starts (last + 1) ∧ ∃ seen, ended.1 = .error (.timedOut
            (s!"Timeout waiting for {x.goal} after {Timescale.text timeout}s" ++ seen)))) := by
  intro ended worth plan starts
  let p : Polling Rat σ x.form.Carrier := x.plan timeout w.trial.pollingInterval
  obtain ⟨outside, clock, calls⟩ := x.begun_eq w
  have run : ended =
      ((p.wait.run site (x.begun w)).1 >>= x.finish, (p.wait.run site (x.begun w)).2) :=
    x.run_act timeout site w
  refine ⟨x.call_reads, fun mismatch => ?_, fun fits => ?_⟩
  · rw [run, Polling.run_wait_of_mismatch mismatch]
    exact ⟨⟨_, rfl⟩, calls⟩
  · obtain ⟨last, started, before, closed, made, seen, answered⟩ :=
      Polling.exists_lastLook (x.plan_looks timeout w.trial.pollingInterval site) takesTime positive
        fits (x.begun w) (q := plan) rfl rfl
    simp only [outside, clock] at started before closed made answered
    -- what a poll decides is what its reply is worth, so both are undecided alike
    have decided : ∀ n, (p.verdict ((site.reply x.call w.outside n).outcome.told x.task >>=
        x.make)).map (· >>= x.finish) = (worth n).map .ok :=
      fun n => x.map_verdict_told timeout _ (regular _)
    have undecided : ∀ n, worth n = none ↔
        p.verdict ((site.reply x.call w.outside n).outcome.told x.task >>= x.make) = none := by
      intro n
      rw [← Option.map_eq_none_iff (f := Except.ok), ← decided n, Option.map_eq_none_iff]
    refine ⟨last, started, ?_, fun m hm => (undecided m).mpr (before m hm), ?_⟩
    · rw [run, made, calls]
    · have gives := decided last
      rw [run]
      dsimp only
      rw [answered]
      cases worthless : worth last with
      | some result =>
        left
        rw [worthless] at gives
        obtain ⟨state, decides, finished⟩ := Option.map_eq_some_iff.mp gives
        refine ⟨result, rfl, ?_⟩
        rw [decides]
        exact finished
      | none =>
        right
        have open_ := (undecided last).mp worthless
        rw [open_]
        exact ⟨rfl, closed open_, seen, rfl⟩

/-- A wrapper that says nothing of its status but a phase. -/
def wrapperIn (phase : Json) : Json :=
  .object [("metadata", .object [("name", "wrapper")]), ("status", .object [("phase", phase)])]

/-- A site whose server refuses the first call, then serves wrappers that have no phase yet, and
then serves one that is running behind one that is not. -/
def startingSite : Site Rat Nat :=
  { Site.vacant with
    answer := fun {f} _ s =>
      let list (wrappers : List Json) : Json := .object [("items", .list wrappers)]
      let outcome : Outcome f.Carrier := match f, s with
        | .value, 1 => .served (list [.object [], .object [("status", .null)]])
        | .value, _ + 2 => .served (list [wrapperIn "Pending", wrapperIn "Running"])
        | _, _ => .refused (.plain (.refused (.int 403)) "forbidden")
      (⟨1 / 2, outcome⟩, s + 1) }

theorem wrapperIn_reports (phase : String) :
    (wrapperIn (.text phase)).Reports "phase" Json.IsText where
  isObject := ⟨_, rfl⟩
  status status there := by
    obtain rfl : _ = status := Option.some.inj there
    exact .inr ⟨_, rfl⟩
  part := .inr ⟨phase, rfl⟩

theorem startingSite_regular (s : Nat) :
    (appWrapperPhase "ns" "Running").Regular
      (startingSite.answer (appWrapperPhase "ns" "Running").call s).1.outcome := by
  have lists : ∀ wrappers, (Json.object [("items", .list wrappers)]).Lists := by
    intro wrappers
    refine ⟨⟨_, rfl⟩, fun items there => ?_⟩
    obtain rfl : _ = items := Option.some.inj there
    exact ⟨_, rfl⟩
  match s with
  | 0 => exact rfl
  | 1 =>
    refine ⟨lists _, fun wrapper member => ?_⟩
    have member : wrapper ∈ [Json.object [], .object [("status", .null)]] := member
    simp only [List.mem_cons, List.not_mem_nil, or_false] at member
    obtain rfl | rfl := member
    · exact ⟨⟨_, rfl⟩, nofun, .inl rfl⟩
    · refine ⟨⟨_, rfl⟩, fun status there => ?_, .inl rfl⟩
      obtain rfl : _ = status := Option.some.inj there
      exact .inl rfl
  | _ + 2 =>
    refine ⟨lists _, fun wrapper member => ?_⟩
    have member : wrapper ∈ [wrapperIn "Pending", wrapperIn "Running"] := member
    simp only [List.mem_cons, List.not_mem_nil, or_false] at member
    obtain rfl | rfl := member
    · exact wrapperIn_reports _
    · exact wrapperIn_reports _

theorem act_fresh_starting :
    let ended := (act (60 : Rat) (.appWrapperPhase "ns" "Running")).run startingSite World.blank
    0 < World.blank.trial.pollingInterval ∧ ended.1 = .ok (wrapperIn "Running") ∧
      (callsMade ended.2.record).length = 3 := by
  intro ended
  let x : Lookout := .appWrapperPhase "ns" "Running"
  have takesTime : ∀ s, 0 ≤ (startingSite.answer x.call s).1.cost := by
    intro s
    show (0 : Rat) ≤ 1 / 2
    norm_num
  have positive : 0 < World.blank.trial.pollingInterval := by norm_num [World.blank]
  have fits : World.blank.trial.pollingInterval ≤ 60 := by norm_num [World.blank]
  obtain ⟨-, -, waits⟩ :=
    act_fresh x 60 startingSite World.blank positive takesTime startingSite_regular
  obtain ⟨last, -, made, before, ends⟩ := waits fits
  let worth n := x.worth (startingSite.reply x.call World.blank.outside n).outcome
  have met : worth 2 = some (wrapperIn "Running") := rfl
  have early : ∀ n < 2, worth n = none := by
    intro n hn
    obtain rfl | rfl : n = 0 ∨ n = 1 := by omega
    · rfl
    · rfl
  let polls := x.polls startingSite World.blank.outside takesTime
  have starts : polls.Starts (x.plan 60 World.blank.trial.pollingInterval) 0 2 := by
    have brief : ∀ n, polls.duration n ≤ 1 / 2 := fun _ => le_rfl
    refine Course.starts_of_duration_le _ _ _ brief positive.le ?_
    norm_num [plan, World.blank]
  -- the second poll leaves time for the third one, which is the first to be worth anything
  rcases lt_trichotomy last 2 with less | rfl | more
  · rcases ends with ⟨result, worthy, -⟩ | ⟨-, closed, -⟩
    · cases (early last less).symm.trans worthy
    · exact absurd (starts.earlier less) closed
  · rcases ends with ⟨result, worthy, gives⟩ | ⟨worthless, -⟩
    · obtain rfl : wrapperIn "Running" = result := Option.some.inj (met.symm.trans worthy)
      refine ⟨positive, gives, ?_⟩
      rw [made]
      rfl
    · cases met.symm.trans worthless
  · cases met.symm.trans (before 2 more)

end Lookout

end TrialRun
