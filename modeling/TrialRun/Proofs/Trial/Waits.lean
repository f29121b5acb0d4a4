import TrialRun.Proofs.Cluster.Failures
import TrialRun.Proofs.Polling.Look
import TrialRun.Trial.Waits

/-!
# What waits change, and what they have seen

A wait looks at the cluster and changes nothing.  One that ends with an answer has seen, as the last
thing of all, a reply that meets its condition; that reply is the milestone of the wait.  Waiting
for an object to be gone is the exception: its milestone is a fault, behind which the server has
said that there is no such object.
-/

set_option autoImplicit false

namespace TrialRun

variable {τ σ α : Type} [Timescale τ]

/-! ## What waits change -/

namespace Calm

variable {R : World τ σ → World τ σ → Prop} (h : Calm R)

include h

/-- To wait is to look again and again, with a pause between. -/
theorem waitFor {description : String} {timeout : τ} {display : α → String} {fetch : Act τ σ α}
    {satisfied : α → Except Fault Bool} {settled : Option (Fault → Except Fault Bool)}
    (looks : fetch.Moves R) :
    (Trial.waitFor description timeout display fetch satisfied settled).Moves R := by
  apply h.bind h.trial
  intro t
  exact h.wait looks

/-- The same for waits that describe what they have seen as JSON. -/
theorem waitForJson {description : String} {timeout : τ} {fetch : Act τ σ Json}
    {satisfied : Json → Except Fault Bool} (looks : fetch.Moves R) :
    (Trial.waitForJson description timeout fetch satisfied).Moves R :=
  h.bind (h.waitFor looks) fun _ => h.pure _

end Calm

namespace Looking

variable {R : World τ σ → World τ σ → Prop} (h : Looking R)

include h

/-- Each wait looks at an object or a list, and logs what it waits for. -/
theorem waitForRayClusterState (ns name state : Json) (timeout : τ) :
    (Trial.waitForRayClusterState ns name state timeout : Act τ σ Json).Moves R :=
  h.bind (h.log _ _) fun _ => h.waitForJson (h.getObject _ _ _)

theorem waitForRayJobTerminal (ns name : Json) (timeout : τ) :
    (Trial.waitForRayJobTerminal ns name timeout : Act τ σ Json).Moves R :=
  h.bind (h.log _ _) fun _ => h.waitForJson (h.getObject _ _ _)

/-- Wrappers are looked at as a list. -/
theorem waitForAppWrapperPhase (ns phase : Json) (timeout : τ) :
    (Trial.waitForAppWrapperPhase ns phase timeout : Act τ σ Json).Moves R := by
  apply h.bind (h.waitForJson (h.listObjects _ _))
  intro wrappers
  apply h.bind (h.lift _)
  intro found
  cases found with
  | some wrapper => exact h.pure _
  | none => exact h.fail _

/-- What is left is looked at as a list. -/
theorem waitForRayClustersDeleted (ns : Json) (timeout : τ) :
    (Trial.waitForRayClustersDeleted ns timeout : Act τ σ Unit).Moves R :=
  h.bind (h.log _ _) fun _ => h.bind (h.waitForJson (h.listObjects _ _)) fun _ => h.pure _

theorem waitForAppWrappersDeleted (ns : Json) (timeout : τ) :
    (Trial.waitForAppWrappersDeleted ns timeout : Act τ σ Unit).Moves R :=
  h.bind (h.log _ _) fun _ => h.bind (h.waitForJson (h.listObjects _ _)) fun _ => h.pure _

/-- A Ray cluster is looked at until it is missing. -/
theorem waitForRayClusterGone (ns name : Json) (timeout : τ) :
    (Trial.waitForRayClusterGone ns name timeout : Act τ σ Unit).Moves R :=
  h.bind (h.log _ _) fun _ => h.bind (h.waitFor (h.getObject _ _ _)) fun _ => h.pure _

/-- Ingresses and routes are looked at by their names. -/
theorem waitForIngressAdmitted (ns name : Json) (timeout : τ) :
    (Trial.waitForIngressAdmitted ns name timeout : Act τ σ (Option Cluster.Ingress)).Moves R :=
  h.bind (h.log _ _) fun _ => h.waitFor (h.getIngress _ _)

theorem waitForRouteAdmitted (ns name : Json) (timeout : τ) :
    (Trial.waitForRouteAdmitted ns name timeout : Act τ σ Json).Moves R :=
  h.bind (h.log _ _) fun _ => h.waitForJson (h.getObject _ _ _)

end Looking

/-! ## What waits have seen -/

/-- A text agrees with no other value. -/
theorem Json.eq_text_of_agrees {v : Json} {s : String} (h : v.agrees (.text s) = true) :
    v = .text s := by
  cases v with
  | text other =>
    rw [Json.agrees, beq_iff_eq] at h
    rw [h]
  | _ => simp [Json.agrees, Json.asNumber?] at h

/-- Only a text agrees with itself. -/
theorem Json.agrees_text_iff {v : Json} {s : String} : v.agrees (.text s) = true ↔ v = .text s := by
  refine ⟨eq_text_of_agrees, ?_⟩
  rintro rfl
  simp [Json.agrees]

/-- A list of one item agrees with lists of one item only. -/
theorem Json.eq_singleton_of_agrees {v item : Json} (number : item.isNaN = false)
    (h : v.agrees (.list [item]) = true) : ∃ own, v = .list [own] ∧ own.agrees item = true := by
  cases v with
  | list items =>
    rw [Json.agrees] at h
    match items, h with
    | [own], h =>
      simp only [agreesList, number, Bool.and_false, Bool.false_or, Bool.and_true] at h
      exact ⟨own, rfl, h⟩
    | _ :: _ :: _, h => simp [agreesList] at h
  | _ => simp [Json.agrees, Json.asNumber?] at h

/-- An object of one field agrees only with objects of one field, of that name. -/
theorem Json.eq_field_of_agrees {v value : Json} {name : String} (number : value.isNaN = false)
    (h : v.agrees (.object [(name, value)]) = true) :
    ∃ own, v = .object [(name, own)] ∧ own.agrees value = true := by
  cases v with
  | object fields =>
    rw [Json.agrees] at h
    match fields, h with
    | [(other, own)], h =>
      simp only [agreesFields, number, Bool.and_false, Bool.false_or, Bool.and_true,
        Bool.and_eq_true, beq_iff_eq] at h
      obtain ⟨rfl, agrees⟩ := h
      exact ⟨own, rfl, agrees⟩
    | _ :: _ :: _, h => simp [agreesFields] at h
  | _ => simp [Json.agrees, Json.asNumber?] at h

/-- The first wrapper in a phase is one of the wrappers, and is in the phase. -/
theorem Trial.mem_of_firstInPhase {phase wrapper : Json} {wrappers : List Json}
    (found : firstInPhase phase wrappers = .ok (some wrapper)) :
    wrapper ∈ wrappers ∧
      ∃ own, Workload.appWrapperPhase wrapper = .ok own ∧ own.agrees phase = true := by
  induction wrappers with
  | nil => cases found
  | cons first rest ih =>
    obtain ⟨own, asked, found⟩ := ok_of_bind found
    cases agrees : own.agrees phase with
    | true =>
      rw [agrees, if_pos rfl] at found
      cases found
      exact ⟨List.mem_cons_self, own, asked, agrees⟩
    | false =>
      rw [agrees, if_neg Bool.false_ne_true] at found
      obtain ⟨member, inPhase⟩ := ih found
      exact ⟨List.mem_cons_of_mem _ member, inPhase⟩

/-- An operation that ends with a fault has been refused, or its answer did not come. -/
theorem Cluster.error_of_ask {f : Form} {task : String} {c : Call f} {site : Site τ σ}
    {w w' : World τ σ} {fault : Fault} (run : (ask task c).run site w = (.error fault, w')) :
    ∃ later cause o, w'.record = later ++ .called c o :: w.record ∧
      (o = .refused cause ∨ o = .late cause) ∧ fault.isNotFound = cause.isNotFound := by
  obtain ⟨later, w₁, -, -, record, ended⟩ := run_ask task c site w
  rw [ended] at run
  cases outcome : (site.answer c w.outside).1.outcome with
  | served v =>
    rw [outcome] at run
    cases run
  | refused cause =>
    rw [outcome] at run record
    cases run
    exact ⟨later, cause, _, record, .inl rfl, (told_of_fault task cause).missing⟩
  | late cause =>
    rw [outcome] at run record
    cases run
    exact ⟨later, cause, _, record, .inr rfl, (told_of_fault task cause).missing⟩

namespace Act.Marks

/-- A wait that no fault settles has seen a reply that meets its condition. -/
theorem waitFor {description : String} {timeout : τ} {display : α → String} {fetch : Act τ σ α}
    {satisfied : α → Except Fault Bool} {m : α → Event τ → Prop}
    (grows : fetch.Moves World.Grown) (fetched : fetch.Marks m) :
    (Trial.waitFor description timeout display fetch satisfied).Marks fun answer e =>
      ∃ v, answer = some v ∧ satisfied v = .ok true ∧ m v e := by
  apply after everyday_grown.trial
  intro t site w answer w' run
  obtain ⟨w₁, w₂, r, ⟨before, grown, -⟩, reply, decides, remarks, noted, -⟩ :=
    everyday_grown.ok_of_wait grows run
  cases decides with
  | @satisfied v yes =>
    obtain ⟨later, e, earlier, record, met⟩ := fetched site w₁ v w₂ reply
    refine ⟨remarks ++ later, e, earlier ++ before, ?_, v, rfl, yes, met⟩
    rw [noted, record, grown, List.append_assoc, List.append_assoc]
  | settled _ given _ => cases given

/-- A wait that only a missing object settles has seen that it is missing. -/
theorem waitForMissing {description : String} {timeout : τ} (type : ResourceType)
    (ns name : Json) :
    (Trial.waitFor description timeout Json.display (Cluster.getObject type ns name)
      (fun _ => .ok false) (some fun f => .ok f.isNotFound) : Act τ σ (Option Json)).Marks
      fun _ e => ∃ cause o, e = .called (.getObject type ns name) o ∧
        (o = .refused cause ∨ o = .late cause) ∧ cause.isNotFound = true := by
  apply after everyday_grown.trial
  intro t site w answer w' run
  obtain ⟨w₁, w₂, r, ⟨before, grown, -⟩, reply, decides, remarks, noted, -⟩ :=
    everyday_grown.ok_of_wait (observant_grown.getObject _ _ _) run
  cases decides with
  | satisfied yes => cases yes
  | @settled fault settles _ given yes =>
    cases given
    obtain ⟨later, cause, o, record, ended, missing⟩ := Cluster.error_of_ask reply
    have absent : cause.isNotFound = true := missing.symm.trans (Except.ok.inj yes)
    refine ⟨remarks ++ later, _, before, ?_, cause, o, rfl, ended, absent⟩
    rw [noted, record, grown, List.append_assoc]

/-- What is given at the end was fetched, and meets the condition. -/
theorem waitForJson {description : String} {timeout : τ} {fetch : Act τ σ Json}
    {satisfied : Json → Except Fault Bool} {m : Json → Event τ → Prop}
    (grows : fetch.Moves World.Grown) (fetched : fetch.Marks m) :
    (Trial.waitForJson description timeout fetch satisfied).Marks fun v e =>
      satisfied v = .ok true ∧ m v e := by
  refine (waitFor grows fetched).bind (fun _ => everyday_grown.pure _) ?_
  rintro answer v site w w' run e ⟨u, rfl, yes, met⟩
  cases run
  exact ⟨yes, met⟩

end Act.Marks

end TrialRun
