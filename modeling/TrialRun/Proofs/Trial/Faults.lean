import TrialRun.Proofs.Act.Objections
import TrialRun.Proofs.Trial.Parts

/-!
# Which faults an act ends with

What cleaning up does not deal with are faults that nothing may deal with.  They come from the
outside alone: from a call or a request that ends so, or from the disk.  So if the disk has none of
them, an act that ends with one has left in the record the event that it came from (`Candid`).

Only those acts are looked at here that cleaning up may lead to.
-/

set_option autoImplicit false

namespace TrialRun

variable {τ σ α β : Type}

/-- The event ended with a fault that nothing may deal with. -/
def Event.IsStrange : Event τ → Prop
  | .called _ (.refused f) | .called _ (.late f) | .requested _ (.failed f) => f.isOrdinary = false
  | _ => False

/-- The server has sent back a created object without its name. -/
def Event.IsNameless : Event τ → Prop
  | .called c (.served v) => c.creates?.isSome = true ∧ c.created? v = none
  | _ => False

/-- Something was interrupted. -/
def Interrupted (record : List (Event τ)) : Prop := ∃ e ∈ record, e.IsStrange

/-- The outside has not kept to what a trial may expect: something was interrupted, or the name of
what was created is not known. -/
def Spoiled (record : List (Event τ)) : Prop := ∃ e ∈ record, e.IsStrange ∨ e.IsNameless

instance : (e : Event τ) → Decidable e.IsStrange
  | .called _ (.refused f) | .called _ (.late f) | .requested _ (.failed f) =>
    inferInstanceAs (Decidable (f.isOrdinary = false))
  | .called _ (.served _) | .requested _ (.response _ _) | .requested _ (.errorStatus _)
  | .log _ _ | .slept _ | .fetched | .marked _ | .awaited _ | .wrote _ _ => isFalse id

instance : (e : Event τ) → Decidable e.IsNameless
  | .called c (.served v) =>
    inferInstanceAs (Decidable (c.creates?.isSome = true ∧ c.created? v = none))
  | .called _ (.refused _) | .called _ (.late _) | .requested _ _
  | .log _ _ | .slept _ | .fetched | .marked _ | .awaited _ | .wrote _ _ => isFalse id

instance (record : List (Event τ)) : Decidable (Interrupted record) :=
  inferInstanceAs (Decidable (∃ e ∈ record, e.IsStrange))

instance (record : List (Event τ)) : Decidable (Spoiled record) :=
  inferInstanceAs (Decidable (∃ e ∈ record, e.IsStrange ∨ e.IsNameless))

/-- What has spoiled a record stays in it. -/
theorem Spoiled.append {record : List (Event τ)} (h : Spoiled record) (es : List (Event τ)) :
    Spoiled (es ++ record) := by
  obtain ⟨e, member, spoils⟩ := h
  exact ⟨e, List.mem_append_right es member, spoils⟩

/-- An interruption stays in the record. -/
theorem Interrupted.append {record : List (Event τ)} (h : Interrupted record)
    (es : List (Event τ)) : Interrupted (es ++ record) := by
  obtain ⟨e, member, strange⟩ := h
  exact ⟨e, List.mem_append_right es member, strange⟩

/-- An interruption is one way of spoiling a record. -/
theorem Interrupted.spoiled {record : List (Event τ)} (h : Interrupted record) :
    Spoiled record := by
  obtain ⟨e, member, strange⟩ := h
  exact ⟨e, member, .inl strange⟩

/-- All faults of the disk can be dealt with. -/
def Site.HasPlainDisk (site : Site τ σ) : Prop :=
  ∀ action s f, (site.obstacle action s).1 = some f → f.isOrdinary = true

/-- A fault of the act that nothing may deal with is one that the record tells of. -/
def Act.Candid (site : Site τ σ) (a : Act τ σ α) : Prop :=
  a.Ensures site (fun _ => True) (fun _ _ => True)
    fun f w => f.isOrdinary = true ∨ Interrupted w.record

namespace Act.Candid

variable {site : Site τ σ} {a : Act τ σ α} {next : α → Act τ σ β}

/-- A value is no fault. -/
theorem pure (v : α) : (Pure.pure v : Act τ σ α).Candid site := Ensures.pure fun _ _ => trivial

/-- An ordinary fault can be dealt with, and so has to be in no record. -/
theorem fail {f : Fault} (h : f.isOrdinary = true) : (Act.fail f : Act τ σ α).Candid site :=
  Ensures.fail fun _ _ => .inl h

/-- Two acts in a row end with a fault of one of them. -/
theorem bind (first : a.Candid site) (second : ∀ v, (next v).Candid site) :
    (a >>= next).Candid site :=
  Ensures.bind first second

/-- What is done with an act that was attempted may be to pass its fault on. -/
theorem attempt_bind {next : Except Fault α → Act τ σ β} (tried : a.Candid site)
    (value : ∀ v, (next (.ok v)).Candid site)
    (fault : ∀ f, Ensures site (fun w => f.isOrdinary = true ∨ Interrupted w.record)
      (next (.error f)) (fun _ _ => True) fun g w => g.isOrdinary = true ∨ Interrupted w.record) :
    (a.attempt >>= next).Candid site := by
  apply Ensures.bind (Ensures.attempt tried)
  intro r
  cases r with
  | ok v => exact value v
  | error f => exact fault f

/-- What does not end with the fault at hand may be done in any world. -/
theorem anyhow {P : World τ σ → Prop} (h : a.Candid site) :
    Ensures site P a (fun _ _ => True) fun f w => f.isOrdinary = true ∨ Interrupted w.record :=
  h.mono (fun _ _ => trivial) (fun _ _ => id) fun _ _ => id

/-- A fault that was told of may be passed on. -/
theorem passOn (f : Fault) :
    Ensures site (fun w => f.isOrdinary = true ∨ Interrupted w.record) (Act.fail f : Act τ σ α)
      (fun _ _ => True) fun g w => g.isOrdinary = true ∨ Interrupted w.record :=
  Ensures.fail fun _ => id

/-- Either branch of a choice. -/
theorem ite {c : Prop} [Decidable c] {b : Act τ σ α} (yes : a.Candid site) (no : b.Candid site) :
    (if c then a else b).Candid site := by
  split
  · exact yes
  · exact no

/-- A fault of dealing with items is one of dealing with an item. -/
theorem forEach {act : β → Act τ σ Unit} (each : ∀ item, (act item).Candid site)
    (items : List β) : (Act.forEach act items).Candid site :=
  Ensures.forEach fun item _ => each item

/-- What only looks at the world, changes it or logs something has no faults at all. -/
theorem site' : (Act.site : Act τ σ (Site τ σ)).Candid site := Ensures.site' fun _ _ => trivial

theorem world : (Act.world : Act τ σ (World τ σ)).Candid site := Ensures.world fun _ _ => trivial

theorem trial : (Act.trial : Act τ σ (Trial τ)).Candid site := Ensures.trial fun _ _ => trivial

theorem change (f : World τ σ → World τ σ) : (Act.change f).Candid site :=
  Ensures.change fun _ _ => trivial

theorem log (level : Level) (text : String) : (Act.log level text : Act τ σ Unit).Candid site :=
  Ensures.log fun _ _ => trivial

/-! ## The disk -/

section Disk

variable (disk : site.HasPlainDisk)

include disk

/-- Whatever the files of a site object to can be dealt with. -/
theorem of_objects (h : a.Objects site) : a.Candid site := by
  refine h.mono (fun _ => id) (fun _ _ => id) fun f _ objects => .inl ?_
  cases objects with
  | obstacle met => exact disk _ _ f met
  | disk e path => rfl
  | nullByte => rfl
  | tooDeep => rfl

/-- The faults of making directories are objections of the disk. -/
theorem makeDirectory (p : Path) : (Act.makeDirectory p : Act τ σ Unit).Candid site :=
  of_objects disk (.makeDirectory p)

/-- So are those of writing a text. -/
theorem writeFile (p : Path) (contents : String) :
    (Act.writeFile p contents : Act τ σ Unit).Candid site :=
  of_objects disk (.writeFile p contents)

/-- So are those of making a temporary directory. -/
theorem makeTemporary (beginning : String) :
    (Act.makeTemporary beginning : Act τ σ Path).Candid site :=
  of_objects disk (.makeTemporary beginning)

/-- The base of the output is set, or made. -/
theorem outputBase : (Trial.outputBase : Act τ σ Path).Candid site := by
  apply bind site'
  intro known
  cases known.settings.outputDir with
  | some base => exact ite (pure _) (makeTemporary disk _)
  | none => exact makeTemporary disk _

/-- Only the disk can keep a directory from being made. -/
theorem outputPath : (Trial.outputPath : Act τ σ Path).Candid site := by
  apply bind trial
  intro t
  cases t.outputDirectory with
  | some p => exact pure p
  | none =>
    refine bind (outputBase disk) fun base => bind trial fun t => bind (change _) fun _ => ?_
    exact bind (makeDirectory disk _) fun _ => bind (log _ _) fun _ => pure _

/-- What is no text cannot be written, which is an ordinary fault. -/
theorem writeOutput (fileName : String) (contents : Json) :
    (Trial.writeOutput fileName contents : Act τ σ Path).Candid site := by
  refine bind (outputPath disk) fun directory => bind (makeDirectory disk _) fun _ => ?_
  cases contents with
  | text s => exact bind (writeFile disk _ _) fun _ => pure _
  | brokenText codes => exact bind (writeFile disk _ _) fun _ => fail rfl
  | _ => exact fail rfl

end Disk

/-! ## Calls -/

section Calls

variable [Timescale τ]

/-- A fault of an operation can be dealt with, unless it is that of its call. -/
theorem ask {f : Cluster.Form} (task : String) (c : Cluster.Call f) :
    (Cluster.ask task c : Act τ σ f.Carrier).Candid site := by
  refine ⟨fun w _ => ?_⟩
  obtain ⟨later, w', -, -, record, ended⟩ := Cluster.run_ask task c site w
  -- the operation wraps an ordinary cause; the other causes stand in the record
  have told : ∀ cause,
      (.called c (.refused cause) ∈ w'.record ∨ .called c (.late cause) ∈ w'.record) →
      (if cause.isOrdinary then Cluster.operationFault task cause else cause).isOrdinary = true ∨
        Interrupted w'.record := by
    intro cause called
    by_cases ordinary : cause.isOrdinary = true
    · rw [if_pos ordinary]
      exact .inl (Cluster.isOrdinary_operationFault task cause)
    · right
      have strange : cause.isOrdinary = false := Bool.eq_false_iff.mpr ordinary
      rcases called with member | member <;> exact ⟨_, member, strange⟩
  rw [ended]
  cases outcome : (site.answer c w.outside).1.outcome with
  | served v => trivial
  | refused cause =>
    rw [outcome] at record
    refine told cause (.inl ?_)
    rw [record]
    exact List.mem_append_right _ List.mem_cons_self
  | late cause =>
    rw [outcome] at record
    refine told cause (.inr ?_)
    rw [record]
    exact List.mem_append_right _ List.mem_cons_self

/-- An operation passes on what its call has ended with, if nothing may deal with that. -/
theorem deleteNamespace (name : Json) :
    (Cluster.deleteNamespace name : Act τ σ Unit).Candid site :=
  bind (ask _ _) fun _ => log _ _

theorem deleteObject (type : ResourceType) (ns name : Json) :
    (Cluster.deleteObject type ns name : Act τ σ Unit).Candid site :=
  bind (ask _ _) fun _ => log _ _

theorem listPods (ns selector : Json) :
    (Cluster.listPods ns selector : Act τ σ (List Cluster.Pod)).Candid site :=
  bind (ask _ _) fun _ => pure _

theorem listOccurrences (ns : Json) :
    (Cluster.listOccurrences ns : Act τ σ (List Cluster.Occurrence)).Candid site :=
  bind (ask _ _) fun _ => pure _

/-- A failure to read a log is passed over; any other fault is passed on as it came. -/
theorem storeContainerLog (disk : site.HasPlainDisk) (ns pod container : Json) :
    (Trial.storeContainerLog ns pod container : Act τ σ Unit).Candid site := by
  refine attempt_bind (ask _ _) (fun logs => ?_) fun f => ?_
  · exact bind (writeOutput disk _ _) fun _ => pure _
  · exact Ensures.ite (fun _ => anyhow (log _ _)) fun _ => passOn f

/-- The diagnostics of a namespace have the faults of their parts. -/
theorem storeDiagnostics (disk : site.HasPlainDisk) (ns : Json) :
    (Trial.storeDiagnostics ns : Act τ σ Unit).Candid site := by
  apply bind (listPods _ _)
  intro pods
  apply bind (forEach (fun pod => forEach (fun _ => storeContainerLog disk _ _ _) _) _)
  intro _
  exact bind (listOccurrences _) fun _ => bind (writeOutput disk _ _) fun _ => pure _

end Calls

end Act.Candid

end TrialRun
