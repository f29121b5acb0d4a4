import TrialRun.Proofs.Cluster.Requests
import TrialRun.Proofs.Json.Objects

/-!
# How operations fail

Every operation on the cluster makes one call (`Operation.call`) and goes on only with the answer to
it (`Act.AsksFirst`).  So there is one account of what a call that fails leads to, for all of them:
nothing else is asked or logged, and the fault of the operation tells of the fault of the call
(`Act.FailsWith`, `Fault.Told`).

An operation whose arguments have a fault of their own makes no call at all.  This can only be a
script that is empty, or an object to create that is no object or whose metadata are none
(`Operation.IsWellFormed`).
-/

set_option autoImplicit false

namespace TrialRun

variable {τ σ α β γ : Type}

/-! ## Faults that lead to others -/

/-- A fault that an operation ends with, and the fault of its call. -/
structure Fault.Told (task : String) (cause fault : Fault) : Prop where
  /-- What nothing may deal with is passed on as it is. -/
  passed : cause.isOrdinary = false → fault = cause
  /-- An answer that did not come in time is a timeout of the operation. -/
  late : cause.kind = .awaitTimedOut → fault.kind = .timedOut ∧ fault.text = s!"Timeout to {task}"
  /-- Anything else is a failure of the operation, even a timeout of another kind. -/
  failed : cause.isOrdinary = true → cause.kind ≠ .awaitTimedOut →
    fault.kind = .failure ∧ fault.text = s!"Failed to {task}"
  /-- The fault of the call is the cause, with all that caused it and all around it. -/
  causes : cause.isOrdinary = true → fault.causes = cause.chain ∧ fault.setting = cause.setting
  /-- Nothing is lost or gained of what the server has said about a missing object.  It has said so
  if some fault in the chain of causes is its answer 404, whatever else was being dealt with. -/
  missing : fault.isNotFound = cause.isNotFound
  missing_iff : fault.isNotFound = true ↔
    ∃ l ∈ cause.chain, ∃ status, l.kind = .refused status ∧ status.agrees (.int 404) = true

/-- The server has said that there is no such object if one of the faults in the chain says so. -/
theorem Fault.isNotFound_iff (f : Fault) : f.isNotFound = true ↔
    ∃ l ∈ f.chain, ∃ status, l.kind = .refused status ∧ status.agrees (.int 404) = true := by
  have kinds : ∀ kind : FaultKind, kind.isNotFound = true ↔
      ∃ status, kind = .refused status ∧ status.agrees (.int 404) = true := by
    intro kind
    cases kind with
    | refused status =>
      refine ⟨fun missing => ⟨status, rfl, missing⟩, ?_⟩
      rintro ⟨_, ⟨rfl⟩, missing⟩
      exact missing
    | _ => simp [FaultKind.isNotFound]
  simp only [isNotFound, List.any_eq_true, kinds]

namespace Cluster

/-- The fault of an operation tells of a missing object if the fault of its call does. -/
theorem isNotFound_operationFault (task : String) (f : Fault) :
    (operationFault task f).isNotFound = f.isNotFound := by
  unfold operationFault
  split
  · rfl
  · rfl

/-- The fault of an operation can be dealt with. -/
theorem isOrdinary_operationFault (task : String) (f : Fault) :
    (operationFault task f).isOrdinary = true := by
  unfold operationFault
  split
  · rfl
  · rfl

/-- An operation tells of an ordinary cause by a fault of its own that it leads to. -/
theorem told_operationFault {task : String} {cause : Fault} (ordinary : cause.isOrdinary = true) :
    Fault.Told task cause (operationFault task cause) where
  passed strange := by
    rw [ordinary] at strange
    cases strange
  late late := by
    simp only [operationFault, late]
    exact ⟨rfl, rfl⟩
  failed _ other := by
    unfold operationFault
    split
    · contradiction
    · exact ⟨rfl, rfl⟩
  causes _ := by
    unfold operationFault
    split <;> exact ⟨rfl, rfl⟩
  missing := isNotFound_operationFault task cause
  missing_iff := by
    rw [isNotFound_operationFault]
    exact cause.isNotFound_iff

/-- A cause that nothing may deal with is told as it is. -/
theorem told_self {task : String} {cause : Fault} (strange : cause.isOrdinary = false) :
    Fault.Told task cause cause where
  passed _ := rfl
  late late := by
    rw [Fault.isOrdinary, late] at strange
    cases strange
  failed ordinary _ := by
    rw [strange] at ordinary
    cases ordinary
  causes ordinary := by
    rw [strange] at ordinary
    cases ordinary
  missing := rfl
  missing_iff := cause.isNotFound_iff

/-- What an operation makes of a fault tells of it. -/
theorem told_of_fault (task : String) (cause : Fault) :
    Fault.Told task cause (if cause.isOrdinary then operationFault task cause else cause) := by
  cases ordinary : cause.isOrdinary with
  | true => exact told_operationFault ordinary
  | false => exact told_self ordinary

end Cluster

/-! ## One call -/

namespace Act

theorem bind_assoc (a : Act τ σ α) (next : α → Act τ σ β) (last : β → Act τ σ γ) :
    (a >>= next) >>= last = a >>= fun v => next v >>= last := by
  funext site w
  change ((a >>= next) >>= last).run site w = (a >>= fun v => next v >>= last).run site w
  simp only [run_bind]
  rcases a.run site w with ⟨_ | v, w'⟩ <;> rfl

variable [Timescale τ] {f : Cluster.Form}

/-- What becomes of an act that makes a call for a task, if the call fails. -/
structure FailsWith (task : String) (c : Cluster.Call f) (a : Act τ σ α) : Prop where
  /-- A call that is refused is all that happens. -/
  refused : ∀ site w cause, (site.answer c w.outside).1.outcome = .refused cause →
    (a.run site w).2.record = .called c (.refused cause) :: w.record
  /-- A call that is taken is awaited once, and that is all that happens. -/
  late : ∀ site w cause, (site.answer c w.outside).1.outcome = .late cause →
    (a.run site w).2.record = .awaited 120 :: .called c (.late cause) :: w.record
  /-- In either case the act ends with a fault that tells of the fault of the call. -/
  told : ∀ site w cause, (site.answer c w.outside).1.outcome = .refused cause ∨
      (site.answer c w.outside).1.outcome = .late cause →
    ∃ fault, (a.run site w).1 = .error fault ∧ Fault.Told task cause fault

/-- The act makes a call for a task, and goes on only with the answer to it. -/
def AsksFirst (task : String) (c : Cluster.Call f) (a : Act τ σ α) : Prop :=
  ∃ next, a = Cluster.ask task c >>= next

namespace AsksFirst

variable {task : String} {c : Cluster.Call f}

theorem ask : (Cluster.ask task c : Act τ σ f.Carrier).AsksFirst task c := by
  refine ⟨Pure.pure, ?_⟩
  funext site w
  change (Cluster.ask task c).run site w = (Cluster.ask task c >>= Pure.pure).run site w
  rw [run_bind]
  rcases (Cluster.ask task c).run site w with ⟨_ | v, w'⟩ <;> rfl

theorem bind {a : Act τ σ α} (h : a.AsksFirst task c) (next : α → Act τ σ β) :
    (a >>= next).AsksFirst task c := by
  obtain ⟨rest, rfl⟩ := h
  exact ⟨_, bind_assoc _ _ _⟩

/-- A computation that ends with a value may come before. -/
theorem lift_bind {r : Except Fault α} {v : α} {next : α → Act τ σ β} (value : r = .ok v)
    (h : (next v).AsksFirst task c) : ((liftM r : Act τ σ α) >>= next).AsksFirst task c := by
  subst value
  exact h

/-- If the call fails, nothing else is done. -/
theorem run_of_failed {a : Act τ σ α} (h : a.AsksFirst task c) (site : Site τ σ) (w : World τ σ)
    {cause : Fault} (failed : (site.answer c w.outside).1.outcome = .refused cause ∨
      (site.answer c w.outside).1.outcome = .late cause) :
    a.run site w =
      (.error (if cause.isOrdinary then Cluster.operationFault task cause else cause),
        w.answered site c) := by
  obtain ⟨next, rfl⟩ := h
  rw [run_bind, Cluster.run_ask_eq]
  rcases failed with outcome | outcome <;> rw [outcome] <;> rfl

/-- An act that asks first fails as the call does, with that one call in the record. -/
theorem failsWith {a : Act τ σ α} (h : a.AsksFirst task c) : a.FailsWith task c where
  refused site w cause refused := by
    rw [h.run_of_failed site w (.inl refused), World.answered_record, refused]
    rfl
  late site w cause late := by
    rw [h.run_of_failed site w (.inr late), World.answered_record, late]
    rfl
  told site w cause failed := by
    rw [h.run_of_failed site w failed]
    exact ⟨_, rfl, Cluster.told_of_fault task cause⟩

end AsksFirst

end Act

namespace Cluster.Operation

/-- The call that an operation makes, if its arguments have no fault. -/
def call : Operation → Except Fault ((f : Form) × Call f)
  | .isOpenshift => .ok ⟨_, .listGroups⟩
  | .createNamespace name => .ok ⟨_, .createNamespace (testNamespace name)⟩
  | .getNamespace name => .ok ⟨_, .readNamespace name⟩
  | .deleteNamespace name => .ok ⟨_, .deleteNamespace name⟩
  | .createConfigMap ns script => do
    let configMap ← mnistConfigMap ns script
    pure ⟨_, .createConfigMap ns configMap⟩
  | .getConfigMap ns name => .ok ⟨_, .readConfigMap ns name⟩
  | .create type ns body => do
    let _ ← requestedName body
    pure ⟨_, .createObject type ns body⟩
  | .get type ns name => .ok ⟨_, .getObject type ns name⟩
  | .list type ns => .ok ⟨_, .listObjects type ns⟩
  | .delete type ns name => .ok ⟨_, .deleteObject type ns name⟩
  | .getIngress ns name => .ok ⟨_, .readIngress ns name⟩
  | .listPods ns selector => .ok ⟨_, .listPods ns selector⟩
  | .readPodLogs ns name container => .ok ⟨_, .readPodLog ns name container⟩
  | .getJob ns name => .ok ⟨_, .readJob ns name⟩
  | .listOccurrences ns => .ok ⟨_, .listOccurrences ns⟩

/-- A script is not empty, and what is to be created is an object whose metadata, if there are any,
are an object. -/
def IsWellFormed : Operation → Prop
  | .createConfigMap _ script => script ≠ []
  | .create _ _ body => ∃ fields, body = .object fields ∧
    ∀ metadata, Json.lookup "metadata" fields = some metadata → ∃ parts, metadata = .object parts
  | _ => True

/-- Every operation makes its call and goes on only with the answer. -/
theorem asksFirst_of_call [Timescale τ] (op : Operation) {f : Form} {c : Call f}
    (made : op.call = .ok ⟨f, c⟩) : ∃ task, (op.run : Act τ σ Json).AsksFirst task c := by
  cases op with
  | createConfigMap ns script =>
    obtain ⟨configMap, built, made⟩ := ok_of_bind made
    cases made
    exact ⟨_, .lift_bind built ((Act.AsksFirst.ask.bind _).bind _)⟩
  | create type ns body =>
    obtain ⟨name, asked, made⟩ := ok_of_bind made
    cases made
    exact ⟨_, .lift_bind asked (Act.AsksFirst.ask.bind _)⟩
  | get type ns name | readPodLogs ns name container =>
    cases made
    exact ⟨_, .ask⟩
  | list type ns =>
    cases made
    exact ⟨_, Act.AsksFirst.ask.bind _⟩
  | getNamespace name | getConfigMap ns name | getIngress ns name | getJob ns name =>
    cases made
    exact ⟨_, Act.AsksFirst.ask.bind _⟩
  | _ =>
    cases made
    exact ⟨_, (Act.AsksFirst.ask.bind _).bind _⟩

/-- An object whose metadata are an object asks for some name. -/
theorem exists_requestedName {fields : List (String × Json)}
    (parts : ∀ metadata, Json.lookup "metadata" fields = some metadata →
      ∃ parts, metadata = .object parts) :
    ∃ name, requestedName (.object fields) = .ok name := by
  have metadata : ∃ own, (Json.object fields).get "metadata" (.object []) = .ok (.object own) := by
    cases there : Json.lookup "metadata" fields with
    | none =>
      refine ⟨[], ?_⟩
      rw [Json.get, there]
      rfl
    | some metadata =>
      obtain ⟨own, rfl⟩ := parts metadata there
      refine ⟨own, ?_⟩
      rw [Json.get, there]
      rfl
  obtain ⟨own, metadata⟩ := metadata
  unfold requestedName
  rw [metadata]
  by_cases given : ((Json.lookup "name" own).getD .null).isGiven = true
  · refine ⟨(Json.lookup "name" own).getD .null, ?_⟩
    simp only [bind, Except.bind, Json.get, given, if_true]
    rfl
  · refine ⟨(Json.lookup "generateName" own).getD (.text ""), ?_⟩
    simp only [bind, Except.bind, Json.get, given]
    rfl

/-- Nothing is wrong with well-formed arguments. -/
theorem exists_call_of_isWellFormed (op : Operation) (wellFormed : op.IsWellFormed) :
    ∃ (f : Form) (c : Call f), op.call = .ok ⟨f, c⟩ := by
  cases op with
  | createConfigMap ns script =>
    have given : ¬script.isEmpty = true := fun empty => wellFormed (List.isEmpty_iff.mp empty)
    have built : ∃ configMap, mnistConfigMap ns script = .ok configMap := by
      rw [mnistConfigMap, if_neg given]
      exact ⟨_, rfl⟩
    obtain ⟨configMap, built⟩ := built
    refine ⟨_, .createConfigMap ns configMap, ?_⟩
    rw [call, built]
    rfl
  | create type ns body =>
    obtain ⟨fields, rfl, parts⟩ := wellFormed
    obtain ⟨name, named⟩ := exists_requestedName parts
    refine ⟨_, .createObject type ns (.object fields), ?_⟩
    rw [call, named]
    rfl
  | _ => exact ⟨_, _, rfl⟩

/-- Every call is made asynchronously. -/
theorem asynchronous {f : Form} (c : Call f) :
    c.options.field? "async_req" = some (.bool true) := by
  cases c <;> exact (Json.field?_ofFields (by simp) _).trans (if_pos rfl)

end Cluster.Operation

namespace Cluster

/-- **How operations fail.**  Every operation makes one call, asynchronously.  If the call fails or
its answer does not come, the operation does nothing else: it asks for nothing more, it logs
nothing, and it ends with a fault that tells of the fault of the call.  The same holds of creating
any config map, which an operation only does with the one that holds a script. -/
theorem operations_failWith [Timescale τ] :
    (∀ op : Operation, op.IsWellFormed →
      ∃ (f : Form) (c : Call f) (task : String), op.call = .ok ⟨f, c⟩ ∧
        c.options.field? "async_req" = some (.bool true) ∧
        (op.run : Act τ σ Json).FailsWith task c) ∧
    ∀ (ns : Json) (configMap : ConfigMap), ∃ task,
      (createConfigMap ns configMap : Act τ σ ConfigMap).FailsWith task
        (.createConfigMap ns configMap) := by
  refine ⟨fun op wellFormed => ?_, fun ns configMap => ?_⟩
  · obtain ⟨f, c, made⟩ := op.exists_call_of_isWellFormed wellFormed
    obtain ⟨task, asks⟩ := op.asksFirst_of_call (τ := τ) (σ := σ) made
    exact ⟨f, c, task, made, Operation.asynchronous c, asks.failsWith⟩
  · exact ⟨_, (Act.AsksFirst.ask.bind _).failsWith⟩

/-- The creation of a Ray cluster by its name. -/
def createNamedCluster : Operation :=
  .create .rayCluster "ns" (.object [("metadata", .object [("name", "mnist")])])

/-- The answer to a call did not come in time, while an object was found missing. -/
def lateAndMissing : Fault := ⟨⟨.awaitTimedOut, ""⟩, [⟨.refused (.int 404), "not found"⟩], []⟩

/-- A site whose server takes every call and answers none. -/
def silentSite : Site Number Unit where
  answer _ s := (⟨.int 0, .late lateAndMissing⟩, s)
  react _ s := (⟨.int 0, .failed lateAndMissing⟩, s)
  obstacle _ s := (none, s)
  temporary := Path.ofText
  settings := {}
  apiKeys := .null

def silentWorld : World Number Unit where
  clock := .int 0
  outside := ()
  volume := {}
  trial := { name := "trial", pollingInterval := .int 2 }

theorem operations_failWith_createNamedCluster :
    createNamedCluster.IsWellFormed ∧
      ∃ fault, (createNamedCluster.run.run silentSite silentWorld).1 = .error fault ∧
        fault.kind = .timedOut ∧ fault.isNotFound = true := by
  have wellFormed : createNamedCluster.IsWellFormed := by
    refine ⟨_, rfl, fun metadata there => ?_⟩
    cases there
    exact ⟨_, rfl⟩
  obtain ⟨f, c, task, made, -, fails⟩ :=
    (operations_failWith (τ := Number) (σ := Unit)).1 _ wellFormed
  cases made
  obtain ⟨fault, ended, told⟩ := fails.told silentSite silentWorld lateAndMissing (.inr rfl)
  exact ⟨wellFormed, fault, ended, (told.late rfl).1, told.missing.trans rfl⟩

end Cluster

end TrialRun
