import TrialRun.Proofs.Act.Everyday
import TrialRun.Workload.Status

/-!
# What a record tells

A record tells what was to be created and deleted, what the server says was created, and in which
order.  The latest event of a record is its first one, so that the events before an event are those
behind it.

Two properties of records are stated here.  A record is *lawful* by a rule if the rule holds of each
event and the events before it (`Lawful`).  It has *passed* some milestones if there are events for
all of them, in their order (`Passed`).  Both are kept by whatever happens later, except that the
rule has to hold of the new events; and that is easier to see if something has been passed already,
since what was passed once stays so.
-/

set_option autoImplicit false

namespace TrialRun

/-! ## What is created and deleted -/

/-- The kinds of what a trial creates and deletes. -/
inductive Kind where
  | namespace
  | configMap
  | object (type : ResourceType)
  deriving DecidableEq, Repr

/-- Something in the cluster.  What belongs to the whole cluster has a null namespace. -/
structure Target where
  kind : Kind
  ns : Json
  name : Json

/-- A namespace by its name. -/
def Target.ofNamespace (name : Json) : Target := ⟨.namespace, .null, name⟩

namespace Cluster.Call

variable {f : Form}

/-- The kind of what a call is to create, and where. -/
def creates? : Call f → Option (Kind × Json)
  | .createNamespace _ => some (.namespace, .null)
  | .createConfigMap ns _ => some (.configMap, ns)
  | .createObject type ns _ => some (.object type, ns)
  | _ => none

/-- What a call is to delete. -/
def deletes? : Call f → Option Target
  | .deleteNamespace name => some ⟨.namespace, .null, name⟩
  | .deleteObject type ns name => some ⟨.object type, ns, name⟩
  | _ => none

/-- No call both deletes and creates. -/
theorem creates?_of_deletes? {c : Call f} {t : Target} (h : c.deletes? = some t) :
    c.creates? = none := by
  cases c with
  | deleteNamespace name => rfl
  | deleteObject type ns name => rfl
  | _ => cases h

/-- No call both creates and deletes. -/
theorem deletes?_of_creates? {c : Call f} {kind : Kind} {ns : Json}
    (h : c.creates? = some (kind, ns)) : c.deletes? = none := by
  cases deletes : c.deletes? with
  | none => rfl
  | some t =>
    rw [creates?_of_deletes? deletes] at h
    cases h

/-- What the answer to a call says was created.  The reply has to name it. -/
def created? : {f : Form} → Call f → f.Carrier → Option Target
  | _, .createNamespace _, made => some ⟨.namespace, .null, made.metadata.name⟩
  | _, .createConfigMap ns _, made => some ⟨.configMap, ns, made.metadata.name⟩
  | _, .createObject type ns _, made =>
    (Workload.name made).toOption.map fun name => ⟨.object type, ns, name⟩
  | _, _, _ => none

/-- A call that was served with an object of some name created that name. -/
theorem created?_createObject {type : ResourceType} {ns body made name : Json}
    (h : Workload.name made = .ok name) :
    (createObject type ns body).created? made = some ⟨.object type, ns, name⟩ := by
  change (Workload.name made).toOption.map _ = _
  rw [h]
  rfl

/-- What the answer says was created is what the call was to create. -/
theorem creates?_of_created? {c : Call f} {v : f.Carrier} {t : Target}
    (h : c.created? v = some t) : c.creates? = some (t.kind, t.ns) := by
  cases c with
  | createNamespace body =>
    cases h
    rfl
  | createConfigMap ns body =>
    cases h
    rfl
  | createObject type ns body =>
    obtain ⟨name, -, rfl⟩ := Option.map_eq_some_iff.mp h
    rfl
  | _ => cases h

end Cluster.Call

namespace Event

variable {τ : Type}

/-- The kind of what an event is to create, and where. -/
def creates? : Event τ → Option (Kind × Json)
  | .called c _ => c.creates?
  | _ => none

/-- What an event is to delete. -/
def deletes? : Event τ → Option Target
  | .called c _ => c.deletes?
  | _ => none

/-- What was created in an event, as the server says. -/
def created? : Event τ → Option Target
  | .called c (.served v) => c.created? v
  | _ => none

theorem creates?_of_created? {e : Event τ} {t : Target} (h : e.created? = some t) :
    e.creates? = some (t.kind, t.ns) := by
  cases e with
  | called c outcome =>
    cases outcome with
    | served v => exact Cluster.Call.creates?_of_created? h
    | _ => cases h
  | _ => cases h

theorem creates?_of_deletes? {e : Event τ} {t : Target} (h : e.deletes? = some t) :
    e.creates? = none := by
  cases e with
  | called c o => exact Cluster.Call.creates?_of_deletes? h
  | _ => rfl

/-- What happens in passing creates nothing and deletes nothing. -/
theorem IsEveryday.creates? {e : Event τ} (h : e.IsEveryday) : e.creates? = none := by
  cases e with
  | called c outcome => exact h.elim
  | _ => rfl

/-- Remarks, reads and requests delete nothing. -/
theorem IsEveryday.deletes? {e : Event τ} (h : e.IsEveryday) : e.deletes? = none := by
  cases e with
  | called c outcome => exact h.elim
  | _ => rfl

/-- The event is a request for what a job has logged. -/
def AsksForLogs (job : Json) : Event τ → Prop
  | .requested r _ => ∃ d : Dashboard,
    d.request (d.address ++ s!"/api/jobs/{job.display}/logs") = .ok r
  | _ => False

theorem IsEveryday.not_asksForLogs {e : Event τ} (h : e.IsEveryday) (job : Json) :
    ¬e.AsksForLogs job := by
  cases e with
  | requested r exchange => exact h.elim
  | _ => exact id

end Event

variable {τ σ : Type}

/-! ## Growth -/

/-- The record has grown by such events. -/
def World.Grows (P : Event τ → Prop) (w w' : World τ σ) : Prop :=
  ∃ es, w'.record = es ++ w.record ∧ ∀ e ∈ es, P e

theorem World.Grows.of_recorded {P : Event τ → Prop} {e : Event τ} (h : P e) :
    Allows (World.Grows (σ := σ) P) e := by
  intro w
  refine ⟨[e], rfl, fun other member => ?_⟩
  obtain rfl := List.mem_singleton.mp member
  exact h

/-- Growth by what includes passing events allows the files to change. -/
theorem filing_grows {P : Event τ → Prop} (h : ∀ e, Event.IsPassing e → P e) :
    Filing (World.Grows (σ := σ) P) where
  refl w := ⟨[], rfl, fun _ member => absurd member List.not_mem_nil⟩
  trans := by
    rintro u v w ⟨first, hv, newer⟩ ⟨second, hw, newest⟩
    refine ⟨second ++ first, ?_, fun e member => ?_⟩
    · rw [hw, hv, List.append_assoc]
    · rcases List.mem_append.mp member with late | early
      · exact newest e late
      · exact newer e early
  clock w t := ⟨[], rfl, fun _ member => absurd member List.not_mem_nil⟩
  outside w s := ⟨[], rfl, fun _ member => absurd member List.not_mem_nil⟩
  passing w e passing := World.Grows.of_recorded (h e passing) w
  volume w v _ := ⟨[], rfl, fun _ member => absurd member List.not_mem_nil⟩
  directory w p _ := ⟨[], rfl, fun _ member => absurd member List.not_mem_nil⟩

/-- Growth by what includes everyday events allows everyday business. -/
theorem everyday_grows {P : Event τ → Prop} (h : ∀ e, Event.IsEveryday e → P e) :
    Everyday (World.Grows (σ := σ) P) where
  toFiling := filing_grows fun e passing => h e passing.isEveryday
  wrote w p contents := World.Grows.of_recorded (h (.wrote p contents) trivial) w

/-! ## Laws -/

/-- The rule holds of each event of the record and the events before it. -/
def Lawful (rule : Event τ → List (Event τ) → Prop) : List (Event τ) → Prop
  | [] => True
  | e :: earlier => rule e earlier ∧ Lawful rule earlier

namespace Lawful

variable {rule rule' : Event τ → List (Event τ) → Prop} {record : List (Event τ)}

/-- A record stays lawful if each event that is added obeys the rule where it is added. -/
theorem append (h : Lawful rule record) (es : List (Event τ))
    (new : ∀ e ∈ es, ∀ since, rule e (since ++ record)) : Lawful rule (es ++ record) := by
  induction es with
  | nil => exact h
  | cons e since ih =>
    exact ⟨new e List.mem_cons_self since,
      ih fun other member => new other (List.mem_cons_of_mem _ member)⟩

/-- What obeys a rule obeys every weaker one. -/
theorem mono (h : Lawful rule record) (weaker : ∀ e earlier, rule e earlier → rule' e earlier) :
    Lawful rule' record := by
  induction record with
  | nil => trivial
  | cons e earlier ih => exact ⟨weaker e earlier h.1, ih h.2⟩

end Lawful

/-! ## Milestones -/

/-- There are events for all milestones, in their order.  The last milestone stands first. -/
inductive Passed : List (Event τ → Prop) → List (Event τ) → Prop where
  | start (record : List (Event τ)) : Passed [] record
  | mark {m : Event τ → Prop} {ms : List (Event τ → Prop)} {e : Event τ}
      {earlier : List (Event τ)} : m e → Passed ms earlier → Passed (m :: ms) (e :: earlier)
  | later {ms : List (Event τ → Prop)} {earlier : List (Event τ)} (e : Event τ) :
      Passed ms earlier → Passed ms (e :: earlier)

namespace Passed

variable {m m' : Event τ → Prop} {ms : List (Event τ → Prop)} {record : List (Event τ)}

/-- What was passed once stays so. -/
theorem append (h : Passed ms record) (es : List (Event τ)) : Passed ms (es ++ record) := by
  induction es with
  | nil => exact h
  | cons e _ ih => exact later e ih

/-- A milestone was passed if an event of the record is one for it. -/
theorem of_mem {e : Event τ} (member : e ∈ record) (holds : m e) : Passed [m] record := by
  obtain ⟨later, earlier, rfl⟩ := List.append_of_mem member
  exact (mark holds (start earlier)).append later

/-- The last milestone may be replaced by a weaker one. -/
theorem mono_head (h : Passed (m :: ms) record) (weaker : ∀ e, m e → m' e) :
    Passed (m' :: ms) record := by
  generalize hms : m :: ms = milestones at h
  induction h with
  | start record => cases hms
  | mark hm before _ =>
    cases hms
    exact mark (weaker _ hm) before
  | later e _ ih => exact later e (ih hms)

/-- Each milestone was passed by some event. -/
theorem exists_mem (h : Passed ms record) (member : m ∈ ms) : ∃ e ∈ record, m e := by
  induction h with
  | start record => cases member
  | @mark m₁ ms₁ e earlier hm _ ih =>
    rcases List.mem_cons.mp member with rfl | before
    · exact ⟨e, List.mem_cons_self, hm⟩
    · obtain ⟨found, there, holds⟩ := ih before
      exact ⟨found, List.mem_cons_of_mem _ there, holds⟩
  | later e _ ih =>
    obtain ⟨found, there, holds⟩ := ih member
    exact ⟨found, List.mem_cons_of_mem _ there, holds⟩

end Passed

end TrialRun
