import TrialRun.Proofs.Json.Memory
import TrialRun.Proofs.Json.Objects
import TrialRun.Proofs.Json.Paths
import TrialRun.Workload.AppWrapper
import TrialRun.Workload.RayCluster

/-!
# Wrapping

A wrapper is made from a copy of the object that goes into it, and from this copy the time of
creation is taken away.  In memory that comes out as it does for the values themselves
(`wrapOn_eq`), so that the object is what it was before, whatever happens.  The template lacks the
time of creation in its own metadata and nothing else (`exists_wrappedTemplate`).
-/

set_option autoImplicit false

namespace TrialRun.Workload

open InMemory

variable {v given named template metadata w : Json} {fields : List (String × Json)} {m : Memory}

/-! ## The template of a wrapper -/

/-- Only an object has a creation time to lose. -/
theorem withoutCreationTime_of_other (other : ∀ fields, v ≠ .object fields) :
    withoutCreationTime v = .error v.cannotPop := by
  cases v with
  | object fields => exact absurd rfl (other fields)
  | _ => rfl

theorem wrappedTemplate_of_other (other : ∀ fields, v ≠ .object fields) :
    wrappedTemplate v = .error (.noAttribute v "get") := by
  cases v with
  | object fields => exact absurd rfl (other fields)
  | _ => rfl

/-- A template without metadata is taken as it is. -/
theorem wrappedTemplate_of_missing (missing : Json.lookup "metadata" fields = none) :
    wrappedTemplate (.object fields) = .ok (.object fields) := by
  simp only [wrappedTemplate, missing]

/-- In a template with metadata the creation time is taken out of it and nothing else is touched. -/
theorem wrappedTemplate_of_found (found : Json.lookup "metadata" fields = some metadata) :
    wrappedTemplate (.object fields) = (withoutCreationTime metadata).map fun metadata =>
      .object (Json.replaceField "metadata" metadata fields) := by
  simp only [wrappedTemplate, found]
  cases withoutCreationTime metadata <;> rfl

/-- Where the name of an object is. -/
def namePath : List Json.Key := [.field "metadata", .field "name"]

/-- Where the time of creation of an object is. -/
def creationTimePath : List Json.Key := [.field "metadata", .field "creationTimestamp"]

/-- The name is what the path to it leads to. -/
theorem name_eq_ok_iff : name given = .ok named ↔ Json.follow? namePath given = some named := by
  rw [namePath, Json.follow?_field_eq_some_iff]
  constructor
  · intro found
    cases outer : given.field "metadata" with
    | error f => simp [name, outer, bind, Except.bind] at found
    | ok metadata =>
      obtain ⟨fields, _, same, there, ⟨⟩⟩ :=
        Json.follow?_field_eq_some_iff.mp (Json.field_eq_ok_iff.mp outer)
      rw [name, outer] at found
      exact ⟨fields, metadata, same, there, Json.field_eq_ok_iff.mp found⟩
  · rintro ⟨fields, metadata, rfl, there, found⟩
    have outer : (Json.object fields).field "metadata" = .ok metadata := by
      simp only [Json.field, there]
    rw [name, outer]
    exact Json.field_eq_ok_iff.mpr found

/-- An object with a name goes into a wrapper without the time of its creation, and would go into
another one as it is then. -/
theorem exists_wrappedTemplate (there : Json.follow? namePath given = some named) : ∃ template,
    wrappedTemplate given = .ok template ∧ wrappedTemplate template = .ok template ∧
      Json.IsWithout creationTimePath given template := by
  obtain ⟨fields, _, rfl, outer, inside⟩ := Json.follow?_field_eq_some_iff.mp there
  obtain ⟨inner, _, rfl, -, -⟩ := Json.follow?_field_eq_some_iff.mp inside
  have removed := Json.isWithout_removeField "creationTimestamp" inner
  have replaced := Json.lookup_replaceField_self
    (.object (Json.removeField "creationTimestamp" inner)) (Option.isSome_of_eq_some outer)
  refine ⟨_, wrappedTemplate_of_found outer, ?_, removed.within outer⟩
  have again : Json.removeField "creationTimestamp" (Json.removeField "creationTimestamp" inner) =
      Json.removeField "creationTimestamp" inner := by
    simp [Json.removeField]
  rw [wrappedTemplate_of_found replaced, withoutCreationTime, Except.map, again,
    Json.replaceField_eq_self replaced]

/-! ## Wrapping values -/

/-- The local queue that an object is assigned to. -/
def queue? (v : Json) : Option Json :=
  Json.follow? [.field "metadata", .field "labels", .field queueNameLabel] v

/-- A wrapper of a value has one component, which holds the value without the time of its creation,
is named after the value and is assigned to the queue. -/
structure Wraps (given localQueue template w : Json) : Prop where
  component : ∃ component,
    Json.follow? [.field "spec", .field "components"] w = some (.list [component]) ∧
    component.field? "template" = some template
  template : Json.IsWithout creationTimePath given template
  generateName :
    Json.follow? [.field "metadata", .field "generateName"] w = Json.follow? namePath given
  queue : queue? w = some localQueue

/-- The wrapper as it is built is one for the named object. -/
theorem wraps_wrapper (ns localQueue : Json) (there : Json.follow? namePath given = some named)
    (without : Json.IsWithout creationTimePath given template) :
    Wraps given localQueue template (wrapper ns named template localQueue) where
  component := by
    refine ⟨.ofFields [("template", template)], ?_, ?_⟩
    · simp [wrapper, Json.follow?_field, Json.field?_ofFields, Json.lookup, Json.follow?]
    · simp [Json.field?_ofFields, Json.lookup]
  template := without
  generateName := by
    rw [there]
    simp [wrapper, Json.follow?_field, Json.field?_ofFields, Json.lookup, Json.follow?]
  queue := by
    simp [queue?, wrapper, Json.follow?_field, Json.field?_ofFields, Json.lookup, Json.follow?]

/-- An object with a name has a wrapper, which is the wrapper of its template, too. -/
theorem exists_wraps (ns localQueue : Json) (there : Json.follow? namePath given = some named) :
    ∃ w template, appWrapper ns given localQueue = .ok w ∧ Wraps given localQueue template w ∧
      appWrapper ns template localQueue = .ok w := by
  obtain ⟨template, made, again, without⟩ := exists_wrappedTemplate there
  have kept : Json.follow? namePath template = some named :=
    (without.apart namePath (by simp [namePath, creationTimePath])
      (by simp [namePath, creationTimePath])).trans there
  refine ⟨wrapper ns named template localQueue, template, ?_,
    wraps_wrapper ns localQueue there without, ?_⟩
  · rw [appWrapper, made, name_eq_ok_iff.mpr there]
    rfl
  · rw [appWrapper, again, name_eq_ok_iff.mpr kept]
    rfl

/-- Only an object with a name has a wrapper. -/
theorem exists_name {ns localQueue : Json} (made : appWrapper ns given localQueue = .ok w) :
    ∃ named, Json.follow? namePath given = some named := by
  cases inside : wrappedTemplate given with
  | error f => simp [appWrapper, inside, bind, Except.bind] at made
  | ok template =>
    cases found : name given with
    | error f => simp [appWrapper, inside, found, bind, Except.bind] at made
    | ok named => exact ⟨named, name_eq_ok_iff.mp found⟩

/-- A cluster that is made for a wrapper has a name. -/
theorem name_rayCluster (c : RayCluster) (wrapped : c.wrapped = true) :
    Json.follow? namePath c.toJson = some rayClusterName := by
  simp [namePath, RayCluster.toJson, wrapped, Json.follow?_field, Json.field?_ofFields,
    Json.lookup, Json.follow?]

/-- It is assigned to no queue itself. -/
theorem queue?_rayCluster (c : RayCluster) (wrapped : c.wrapped = true) :
    queue? c.toJson = none := by
  simp [queue?, RayCluster.toJson, wrapped, Json.follow?_field, Json.field?_ofFields, Json.lookup]

/-! ## Wrapping in memory -/

/-- In memory the time of creation is taken away from a value that was laid out as it is from the
value itself, and nothing below it is touched. -/
def RemovedAlike (m : Memory) (v : Json) : Prop :=
  ∃ after : Memory,
    (removeCreationTime (m.lay v).1).run (m.lay v).2 =
      ((wrappedTemplate v).map fun _ => (), after) ∧
    m <:+ after ∧
    ∀ template, wrappedTemplate v = .ok template → after.read (m.lay v).1 = template

theorem removedAlike_of_other (m : Memory) (other : ∀ fields, v ≠ .object fields) :
    RemovedAlike m v := by
  rw [RemovedAlike, removeCreationTime, run_bind_of_ok (run_empty _),
    run_bind_of_error (run_getField_of_other m [.object []] "metadata" other _),
    wrappedTemplate_of_other other]
  exact ⟨_, rfl, (Memory.suffix_lay m v).trans (List.suffix_append _ _),
    fun _ made => nomatch made⟩

theorem removedAlike_of_missing (m : Memory) (missing : Json.lookup "metadata" fields = none) :
    RemovedAlike m (.object fields) := by
  rw [RemovedAlike, removeCreationTime, run_bind_of_ok (run_empty _),
    run_bind_of_ok (run_getField_of_object m [.object []] fields "metadata" _),
    (Memory.holds_layOutFields m _ rfl fields).lookup_eq_none missing,
    wrappedTemplate_of_missing missing]
  -- Without metadata the field is taken away from the empty object that stands in for them.
  have popped := run_popField_of_object (m.lay (.object fields)).2 [] [] "creationTimestamp"
  refine ⟨_, popped, (Memory.suffix_lay m _).trans (List.suffix_append [Cell.object []] _), ?_⟩
  rintro _ ⟨⟩
  exact Memory.holds_lay m _ [.object []]

/-- The metadata of the copy is a place of its own, so that the change is seen in the copy alone. -/
theorem removedAlike_of_found (m : Memory)
    (found : Json.lookup "metadata" fields = some metadata) : RemovedAlike m (.object fields) := by
  obtain ⟨later, before, cells, there, changed⟩ := Memory.exists_lay_object found m
  have below : m <:+ before ++ m := List.suffix_append _ _
  rw [RemovedAlike, removeCreationTime, run_bind_of_ok (run_empty _),
    run_bind_of_ok (run_getField_of_object m [.object []] fields "metadata" _), there, cells,
    ← List.append_assoc, Option.getD_some, wrappedTemplate_of_found found]
  by_cases object : ∃ inner, metadata = .object inner
  · obtain ⟨inner, rfl⟩ := object
    have kept := Memory.suffix_without (before ++ m) inner "creationTimestamp"
    have template := changed _ _ kept (Memory.length_without _ _ _) (Memory.holds_without _ _ _)
    rw [run_popField_of_object]
    refine ⟨_, rfl, (below.trans kept).trans (List.suffix_append _ _), ?_⟩
    rintro _ ⟨⟩
    rw [List.append_assoc]
    exact template [.object []]
  · have other : ∀ inner, metadata ≠ .object inner := fun inner same => object ⟨inner, same⟩
    rw [withoutCreationTime_of_other other, run_popField_of_other _ _ _ other]
    exact ⟨_, rfl, (below.trans (Memory.suffix_lay _ _)).trans (List.suffix_append _ _),
      fun _ made => nomatch made⟩

/-- In memory the creation time is removed as it is from the value. -/
theorem removedAlike (m : Memory) (v : Json) : RemovedAlike m v := by
  by_cases object : ∃ fields, v = .object fields
  · obtain ⟨fields, rfl⟩ := object
    cases found : Json.lookup "metadata" fields with
    | none => exact removedAlike_of_missing m found
    | some metadata => exact removedAlike_of_found m found
  · exact removedAlike_of_other m fun fields same => object ⟨fields, same⟩

/-- Wrapping a value that is laid out on top of a memory. -/
def wrapOn (ns given localQueue : Json) (m : Memory) : Except Fault Json × Memory :=
  (wrap ns (m.lay given).1 localQueue).run (m.lay given).2

/-- Wrapping in memory makes the wrapper of the value, and all that was in memory stays there. -/
theorem wrapOn_eq (ns given localQueue : Json) (m : Memory) : ∃ after : Memory,
    wrapOn ns given localQueue m = (appWrapper ns given localQueue, after) ∧
    (m.lay given).2 <:+ after := by
  obtain ⟨base, copies, copied⟩ := run_copy m given
  obtain ⟨after, removed, above, read⟩ := removedAlike base given
  have kept : (m.lay given).2 <:+ after := copies.trans above
  refine ⟨after, ?_, kept⟩
  rw [wrapOn, wrap, run_bind_of_ok copied, appWrapper]
  cases made : wrappedTemplate given with
  | error f =>
    rw [made] at removed
    exact run_bind_of_error removed _
  | ok template =>
    rw [made] at removed
    rw [run_bind_of_ok removed, run_bind_of_ok (run_get _),
      (Memory.holds_lay m given).of_suffix kept, read template made]
    cases name given <;> rfl

/-- Wrapping succeeds exactly for an object with a name.  Whatever comes of it, the value that was
given is there as before.  The template lacks the time of creation in its own metadata and nothing
else, and has the same wrapper.  A cluster that is made for a wrapper is assigned to the queue by
the wrapper and not by itself. -/
theorem wrapOn_changesCreationTimeOnly (ns given localQueue : Json) (m : Memory) :
    ((∃ w, (wrapOn ns given localQueue m).1 = .ok w) ↔
      ∃ named, Json.follow? namePath given = some named) ∧
    ((m.lay given).2.read (m.lay given).1 = given ∧
      (m.lay given).2 <:+ (wrapOn ns given localQueue m).2 ∧
      (wrapOn ns given localQueue m).2.read (m.lay given).1 = given) ∧
    (∀ w, (wrapOn ns given localQueue m).1 = .ok w → ∃ template,
      Wraps given localQueue template w ∧ ∀ m, (wrapOn ns template localQueue m).1 = .ok w) ∧
    ∀ c : RayCluster, let body := { c with wrapped := true : RayCluster }.toJson
      ∃ w template, (wrapOn ns body localQueue m).1 = .ok w ∧ Wraps body localQueue template w ∧
        queue? w = some localQueue ∧ queue? template = none := by
  obtain ⟨after, ran, kept⟩ := wrapOn_eq ns given localQueue m
  -- what is given back depends on the value alone, and not on the memory it lies in
  have result (v : Json) (m : Memory) :
      (wrapOn ns v localQueue m).1 = appWrapper ns v localQueue := by
    obtain ⟨_, ran, -⟩ := wrapOn_eq ns v localQueue m
    rw [ran]
  refine ⟨?succeeds, ⟨(Memory.holds_lay m given).read, ?stays, ?unchanged⟩, ?wraps, ?cluster⟩
  case succeeds =>
    rw [result]
    constructor
    · rintro ⟨w, made⟩
      exact exists_name made
    · rintro ⟨named, there⟩
      obtain ⟨w, template, made, -⟩ := exists_wraps ns localQueue there
      exact ⟨w, made⟩
  case stays =>
    rw [ran]
    exact kept
  case unchanged =>
    rw [ran]
    exact (Memory.holds_lay m given).of_suffix kept
  case wraps =>
    intro w made
    rw [result] at made
    obtain ⟨named, there⟩ := exists_name made
    obtain ⟨other, template, other_made, wraps, again⟩ := exists_wraps ns localQueue there
    obtain rfl : other = w := Except.ok.inj (other_made.symm.trans made)
    exact ⟨template, wraps, fun m => (result template m).trans again⟩
  case cluster =>
    intro c body
    have there : Json.follow? namePath body = some rayClusterName := name_rayCluster _ rfl
    obtain ⟨w, template, made, wraps, -⟩ := exists_wraps ns localQueue there
    have alone : queue? template = queue? body :=
      wraps.template.apart _ (by simp [creationTimePath]) (by simp [creationTimePath])
    exact ⟨w, template, (result body m).trans made, wraps, wraps.queue,
      alone.trans (queue?_rayCluster _ rfl)⟩

/-- The time of creation that a pod has is kept. -/
theorem wrapOn_changesCreationTimeOnly_pod :
    let pod : Json := .object [("creationTimestamp", .null)]
    let metadata : Json := .object [("creationTimestamp", .null), ("name", "raycluster")]
    let template : Json := .object [("metadata", .object [("name", "raycluster")]), ("spec", pod)]
    let w := wrapper "test-ns" "raycluster" template "queue"
    (wrapOn "test-ns" (.object [("metadata", metadata), ("spec", pod)]) "queue" []).1 = .ok w ∧
      ∃ template, Wraps (.object [("metadata", metadata), ("spec", pod)]) "queue" template w := by
  intro pod metadata template w
  have made : (wrapOn "test-ns" (.object [("metadata", metadata), ("spec", pod)]) "queue" []).1 =
      .ok w := by
    obtain ⟨_, ran, -⟩ :=
      wrapOn_eq "test-ns" (.object [("metadata", metadata), ("spec", pod)]) "queue" []
    rw [ran]
    rfl
  obtain ⟨-, -, wraps, -⟩ := wrapOn_changesCreationTimeOnly "test-ns"
    (.object [("metadata", metadata), ("spec", pod)]) "queue" []
  obtain ⟨template, wraps, -⟩ := wraps w made
  exact ⟨made, template, wraps⟩

end TrialRun.Workload
