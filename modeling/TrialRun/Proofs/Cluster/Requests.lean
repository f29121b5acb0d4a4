import TrialRun.Cluster.Requests
import TrialRun.Dashboard.Client
import TrialRun.Proofs.Act.Marks

/-!
# What operations on the cluster may change

An operation makes one call and logs what came of it, so that it moves along every calm relation
that allows the call.  A relation is *looking* if it allows all that is looked at as long as nothing
has failed: every call that neither creates nor deletes, but for those that look inside (pods, their
logs, and what happened to them).  It is *probing* if it also allows every probe of a dashboard, and
*inspecting* if it also allows to look inside, and to note that the trial has failed.  What is left
to ask of such relations are the calls that change the cluster, and the requests for more than a
status.

A probing relation that allows all everyday business as well is *glancing*, and *observant* if it is
inspecting too.
-/

set_option autoImplicit false

namespace TrialRun

variable {τ σ α : Type} {R : World τ σ → World τ σ → Prop}

/-- The call looks inside: at pods, at their logs, or at what happened to them. -/
def Cluster.Call.looksInside {f : Cluster.Form} : Call f → Bool
  | .listPods _ _ | .readPodLog _ _ _ | .listOccurrences _ => true
  | _ => false

/-- A relation between worlds that allows looking at the cluster, but not inside. -/
structure Looking (R : World τ σ → World τ σ → Prop) : Prop extends Calm R where
  glances : ∀ {f : Cluster.Form} (c : Cluster.Call f) (o : Outcome f.Carrier), c.creates? = none →
    c.deletes? = none → c.looksInside = false → Allows R (.called c o)

/-- A relation between worlds that also allows looking at the status of dashboards. -/
structure Probing (R : World τ σ → World τ σ → Prop) : Prop extends Looking R where
  probes : ∀ (d : Dashboard) (r : Dashboard.Request) (x : Exchange),
    d.request (d.address ++ "/") = .ok r → Allows R (.requested r x)

/-- A relation between worlds that also allows looking inside, and noting that the trial has
failed. -/
structure Inspecting (R : World τ σ → World τ σ → Prop) : Prop extends Looking R where
  inspects : ∀ {f : Cluster.Form} (c : Cluster.Call f) (o : Outcome f.Carrier), c.creates? = none →
    c.deletes? = none → c.looksInside = true → Allows R (.called c o)
  failed : ∀ w, R w (w.noted fun t => { t with failed := true })

/-- A relation between worlds that allows looking at the cluster and at dashboards, and all everyday
business. -/
structure Glancing (R : World τ σ → World τ σ → Prop) : Prop extends Everyday R, Probing R

/-- A relation between worlds that allows looking inside, and all everyday business. -/
structure Observant (R : World τ σ → World τ σ → Prop) : Prop extends Glancing R, Inspecting R

/-- Whatever neither creates nor deletes may be called, inside or not. -/
theorem Inspecting.reads (h : Inspecting R) {f : Cluster.Form} (c : Cluster.Call f)
    (o : Outcome f.Carrier) (nothing : c.creates? = none) (kept : c.deletes? = none) :
    Allows R (.called c o) := by
  cases looks : c.looksInside with
  | true => exact h.inspects c o nothing kept looks
  | false => exact h.glances c o nothing kept looks

/-- Growth is inspecting if its events include passing ones and readings. -/
theorem inspecting_grows {P : Event τ → Prop} (passing : ∀ e, Event.IsPassing e → P e)
    (reads : ∀ {f : Cluster.Form} (c : Cluster.Call f) (o : Outcome f.Carrier),
      c.creates? = none → c.deletes? = none → P (.called c o)) :
    Inspecting (World.Grows (σ := σ) P) where
  toCalm := (filing_grows passing).toCalm
  glances c o nothing kept _ := World.Grows.of_recorded (reads c o nothing kept)
  inspects c o nothing kept _ := World.Grows.of_recorded (reads c o nothing kept)
  failed w := (filing_grows passing).refl w

/-- Growth is observant if its events include everyday ones, readings and probes. -/
theorem observant_grows {P : Event τ → Prop} (everyday : ∀ e, Event.IsEveryday e → P e)
    (reads : ∀ {f : Cluster.Form} (c : Cluster.Call f) (o : Outcome f.Carrier),
      c.creates? = none → c.deletes? = none → P (.called c o))
    (probes : ∀ (d : Dashboard) (r : Dashboard.Request) (x : Exchange),
      d.request (d.address ++ "/") = .ok r → P (.requested r x)) :
    Observant (World.Grows (σ := σ) P) :=
  { everyday_grows everyday,
    inspecting_grows (fun e passing => everyday e passing.isEveryday) reads with
    probes := fun d r x asked => World.Grows.of_recorded (probes d r x asked) }

/-- The growth of a record allows everything. -/
theorem observant_grown : Observant (World.Grown (τ := τ) (σ := σ)) :=
  observant_grows (fun _ _ => trivial) (fun _ _ _ _ => trivial) fun _ _ _ _ => trivial

namespace Calm

variable [Timescale τ] (h : Calm R)

include h

/-- An operation changes no more than its call does. -/
theorem ask {f : Cluster.Form} (task : String) {c : Cluster.Call f}
    (allowed : ∀ o, Allows R (.called c o)) : (Cluster.ask task c : Act τ σ f.Carrier).Moves R :=
  h.rescue (h.call allowed) fun _ => h.fail _

/-- An operation that changes the cluster has its own call, which has to be allowed; what it logs
behind that is everyday business. -/
theorem createNamespace (name : Json)
    (allowed : ∀ o, Allows R (.called (.createNamespace (Cluster.testNamespace name)) o)) :
    (Cluster.createNamespace name : Act τ σ Cluster.Namespace).Moves R :=
  h.bind (h.ask _ allowed) fun _ => h.bind (h.log _ _) fun _ => h.pure _

/-- Deleting a namespace is one call. -/
theorem deleteNamespace (name : Json)
    (allowed : ∀ o, Allows R (.called (.deleteNamespace name) o)) :
    (Cluster.deleteNamespace name : Act τ σ Unit).Moves R :=
  h.bind (h.ask _ allowed) fun _ => h.log _ _

/-- Creating a config map is one call. -/
theorem createConfigMap (ns : Json) (configMap : Cluster.ConfigMap)
    (allowed : ∀ o, Allows R (.called (.createConfigMap ns configMap) o)) :
    (Cluster.createConfigMap ns configMap : Act τ σ Cluster.ConfigMap).Moves R :=
  h.bind (h.ask _ allowed) fun _ => h.bind (h.log _ _) fun _ => h.pure _

/-- Creating an object is one call, unless the object has no name to ask for. -/
theorem createObject (type : ResourceType) (ns body : Json)
    (allowed : ∀ o, Allows R (.called (.createObject type ns body) o)) :
    (Cluster.createObject type ns body : Act τ σ Json).Moves R := by
  refine h.bind (h.lift _) fun _ => h.bind (h.ask _ allowed) fun _ => ?_
  exact h.bind (h.lift _) fun _ => h.bind (h.lift _) fun _ => h.bind (h.log _ _) fun _ => h.pure _

/-- Deleting an object is one call. -/
theorem deleteObject (type : ResourceType) (ns name : Json)
    (allowed : ∀ o, Allows R (.called (.deleteObject type ns name) o)) :
    (Cluster.deleteObject type ns name : Act τ σ Unit).Moves R :=
  h.bind (h.ask _ allowed) fun _ => h.log _ _

/-- A probe is at most one request, if the address has one. -/
theorem probe (d : Dashboard)
    (allowed : ∀ r x, d.request (d.address ++ "/") = .ok r → Allows R (.requested r x)) :
    (d.probe : Act τ σ Int).Moves R := by
  refine h.lift_bind fun r asked => h.bind (h.request fun x => allowed r x asked) fun x => ?_
  cases x with
  | response status body => exact h.pure _
  | errorStatus code => exact h.pure _
  | failed f => exact h.fail f

end Calm

namespace Looking

variable [Timescale τ] (h : Looking R)

include h

/-- A call that only looks at the cluster from outside is allowed as it is. -/
theorem ask {f : Cluster.Form} (task : String) (c : Cluster.Call f) (nothing : c.creates? = none)
    (kept : c.deletes? = none) (outside : c.looksInside = false) :
    (Cluster.ask task c : Act τ σ f.Carrier).Moves R :=
  h.toCalm.ask task fun o => h.glances c o nothing kept outside

/-- The groups are looked at from outside; so are objects, their lists and ingresses. -/
theorem isOpenshift : (Cluster.isOpenshift : Act τ σ Bool).Moves R :=
  h.bind (h.ask _ _ rfl rfl rfl) fun _ => h.pure _

theorem getObject (type : ResourceType) (ns name : Json) :
    (Cluster.getObject type ns name : Act τ σ Json).Moves R := h.ask _ _ rfl rfl rfl

theorem listObjects (type : ResourceType) (ns : Json) :
    (Cluster.listObjects type ns : Act τ σ Json).Moves R :=
  h.bind (h.ask _ _ rfl rfl rfl) fun _ => h.lift _

theorem getIngress (ns name : Json) :
    (Cluster.getIngress ns name : Act τ σ Cluster.Ingress).Moves R := h.ask _ _ rfl rfl rfl

end Looking

/-- A relation that allows probes allows this one. -/
theorem Probing.probe [Timescale τ] (h : Probing R) (d : Dashboard) :
    (d.probe : Act τ σ Int).Moves R :=
  h.toCalm.probe d fun r x asked => h.probes d r x asked

namespace Inspecting

variable [Timescale τ] (h : Inspecting R)

include h

/-- A call that looks inside is allowed to those that inspect. -/
theorem ask {f : Cluster.Form} (task : String) (c : Cluster.Call f) (nothing : c.creates? = none)
    (kept : c.deletes? = none) : (Cluster.ask task c : Act τ σ f.Carrier).Moves R :=
  h.toCalm.ask task fun o => h.reads c o nothing kept

/-- Pods, their logs and the occurrences are read by those that inspect. -/
theorem listPods (ns selector : Json) :
    (Cluster.listPods ns selector : Act τ σ (List Cluster.Pod)).Moves R :=
  h.bind (h.ask _ _ rfl rfl) fun _ => h.pure _

theorem readPodLogs (ns name container : Json) :
    (Cluster.readPodLogs ns name container : Act τ σ Json).Moves R := h.ask _ _ rfl rfl

theorem listOccurrences (ns : Json) :
    (Cluster.listOccurrences ns : Act τ σ (List Cluster.Occurrence)).Moves R :=
  h.bind (h.ask _ _ rfl rfl) fun _ => h.pure _

end Inspecting

/-! ## Single operations -/

/-- What an operation makes of the outcome of its call: an ordinary fault leads to a fault of the
operation. -/
def Outcome.told (task : String) : Outcome α → Except Fault α
  | .served v => .ok v
  | .refused cause | .late cause =>
    .error (if cause.isOrdinary then Cluster.operationFault task cause else cause)

/-- The wait for the answer to a call.  A call that was refused has none. -/
def Outcome.waits : Outcome α → List (Event τ)
  | .refused _ => []
  | .late _ | .served _ => [.awaited Act.patience]

/-- What is recorded of waiting for an answer is everyday business. -/
theorem Outcome.isEveryday_of_mem_waits {o : Outcome α} {e : Event τ} (h : e ∈ o.waits) :
    e.IsEveryday := by
  cases o with
  | refused cause => cases h
  | _ =>
    obtain rfl := List.mem_singleton.mp h
    trivial

section Answers

variable [Timescale τ] {f : Cluster.Form}

/-- The world behind a call and the wait for its answer. -/
def World.answered (w : World τ σ) (site : Site τ σ) (c : Cluster.Call f) : World τ σ :=
  let called := w.afterCall site c
  { called with record := (site.answer c w.outside).1.outcome.waits ++ called.record }

/-- An answer changes the record, the clock and the outside, each in its own way. -/
@[simp] theorem World.answered_trial (w : World τ σ) (site : Site τ σ) (c : Cluster.Call f) :
    (w.answered site c).trial = w.trial := rfl
@[simp] theorem World.answered_outside (w : World τ σ) (site : Site τ σ) (c : Cluster.Call f) :
    (w.answered site c).outside = (site.answer c w.outside).2 := rfl
@[simp] theorem World.answered_clock (w : World τ σ) (site : Site τ σ) (c : Cluster.Call f) :
    (w.answered site c).clock = Timescale.add w.clock (site.answer c w.outside).1.cost := rfl
@[simp] theorem World.answered_record (w : World τ σ) (site : Site τ σ) (c : Cluster.Call f) :
    (w.answered site c).record = (site.answer c w.outside).1.outcome.waits ++
      .called c (site.answer c w.outside).1.outcome :: w.record := rfl

/-- Making a call for a task ends with what the operation makes of the outcome. -/
theorem Cluster.run_ask_eq (task : String) (c : Call f) (site : Site τ σ) (w : World τ σ) :
    (ask task c).run site w =
      ((site.answer c w.outside).1.outcome.told task, w.answered site c) := by
  rw [ask, Act.run_rescue, Act.run_call, World.answered]
  cases (site.answer c w.outside).1.outcome with
  | served v => rfl
  | refused cause =>
    dsimp only [Outcome.told]
    split <;> rfl
  | late cause =>
    dsimp only [Outcome.told]
    split <;> rfl

/-- A call that is served gives its reply. -/
theorem Cluster.run_ask_of_served (task : String) {c : Call f} {site : Site τ σ} {w : World τ σ}
    {v : f.Carrier} (served : (site.answer c w.outside).1.outcome = .served v) :
    (ask task c).run site w = (.ok v, w.answered site c) := by
  rw [run_ask_eq, served]
  rfl

/-- If it ends with a value, the server has served it. -/
theorem Cluster.served_of_ask {task : String} {c : Call f} {v : f.Carrier} {site : Site τ σ}
    {w w' : World τ σ} (run : (ask task c).run site w = (.ok v, w')) :
    (site.answer c w.outside).1.outcome = .served v := by
  rw [run_ask_eq] at run
  have told := (Prod.mk.inj run).1
  cases outcome : (site.answer c w.outside).1.outcome with
  | served u =>
    rw [outcome] at told
    rw [Except.ok.inj told]
  | _ =>
    rw [outcome] at told
    cases told

/-- What making a call for a task comes to, by the outcome of the call.  Besides the call itself,
only the wait for its answer is recorded. -/
theorem Cluster.run_ask (task : String) (c : Call f) (site : Site τ σ) (w : World τ σ) :
    ∃ later w', w'.trial = w.trial ∧ (∀ e ∈ later, Event.IsEveryday e) ∧
      w'.record = later ++ .called c (site.answer c w.outside).1.outcome :: w.record ∧
      (ask task c).run site w =
        (match (site.answer c w.outside).1.outcome with
          | .served v => .ok v
          | .refused cause | .late cause =>
            .error (if cause.isOrdinary then operationFault task cause else cause), w') := by
  refine ⟨_, w.answered site c, rfl, fun _ => Outcome.isEveryday_of_mem_waits, rfl, ?_⟩
  rw [run_ask_eq]
  cases (site.answer c w.outside).1.outcome <;> rfl

end Answers

/-! ## Milestones -/

namespace Act.Marks

variable [Timescale τ]

/-- A reply was served by the call that was made. -/
theorem ask {f : Cluster.Form} (task : String) (c : Cluster.Call f) :
    (Cluster.ask task c : Act τ σ f.Carrier).Marks fun v e => e = .called c (.served v) := by
  intro site w v w' run
  obtain ⟨later, w₁, -, -, record, ended⟩ := Cluster.run_ask task c site w
  rw [ended] at run
  cases outcome : (site.answer c w.outside).1.outcome with
  | served u =>
    rw [outcome] at run record
    cases run
    exact ⟨later, _, [], record, rfl⟩
  | _ =>
    rw [outcome] at run
    cases run

/-- The object that is given was served. -/
theorem getObject (type : ResourceType) (ns name : Json) :
    (Cluster.getObject type ns name : Act τ σ Json).Marks
      fun v e => e = .called (.getObject type ns name) (.served v) := ask _ _

/-- A created namespace is the one that the server has sent back. -/
theorem createNamespace (name : Json) :
    (Cluster.createNamespace name : Act τ σ Cluster.Namespace).Marks fun made e =>
      e = .called (.createNamespace (Cluster.testNamespace name)) (.served made) := by
  have h : Everyday (World.Grown (τ := τ) (σ := σ)) := everyday_grown
  refine (ask _ _).bind (fun v => h.bind (h.log _ _) fun _ => h.pure _) ?_
  intro v u site w w' run e met
  obtain ⟨-, w₁, -, run⟩ := ok_of_run_bind run
  cases run
  exact met

/-- A created object is the one that the server has sent back. -/
theorem createObject (type : ResourceType) (ns body : Json) :
    (Cluster.createObject type ns body : Act τ σ Json).Marks
      fun v e => e = .called (.createObject type ns body) (.served v) := by
  have h : Everyday (World.Grown (τ := τ) (σ := σ)) := everyday_grown
  refine after (h.lift _) fun name => (ask _ _).bind (fun v => ?_) fun v u site w w' run e met => ?_
  · exact h.bind (h.lift _) fun _ => h.bind (h.lift _) fun _ => h.bind (h.log _ _) fun _ => h.pure _
  · obtain ⟨metadata, w₁, -, run⟩ := ok_of_run_bind run
    obtain ⟨name, w₂, -, run⟩ := ok_of_run_bind run
    obtain ⟨-, w₃, -, run⟩ := ok_of_run_bind run
    cases run
    exact met

/-- A deletion that comes back was served. -/
theorem deleteObject (type : ResourceType) (ns name : Json) :
    (Cluster.deleteObject type ns name : Act τ σ Unit).Marks
      fun _ e => ∃ v, e = .called (.deleteObject type ns name) (.served v) :=
  (ask _ _).bind (fun _ => everyday_grown.log _ _) fun v _ _ _ _ _ _ met => ⟨v, met⟩

/-- What a list is said to hold stands in the reply. -/
theorem listObjects (type : ResourceType) (ns : Json) :
    (Cluster.listObjects type ns : Act τ σ Json).Marks fun items e =>
      ∃ v, e = .called (.listObjects type ns) (.served v) ∧
        v.get "items" (.list []) = .ok items :=
  (ask _ _).lift fun v _ held _ met => ⟨v, met, held⟩

end Act.Marks

end TrialRun
