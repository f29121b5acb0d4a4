import TrialRun.Proofs.Cluster.Failures
import TrialRun.Proofs.Cluster.Store

/-!
# Objects by their kinds and names

A trial asks for an object by its kind, by a namespace if this kind has namespaces, and by a name.
That is all that matters (`IsStore.isMapped`): if the API server is a store, the operations of a
trial act on a registry of their own, whose places are kinds with their namespaces (`Place`).

The argument goes from the wire inwards.  The server reads in the call of an operation what the
operation was for (`action?_call`), and no two places are one on the wire (`collection_injective`),
so that a step of the server's registry is a step of the trial's.  What is replied to the call, the
operation tells the trial (`Action.told`).  Hence one operation is one step (`IsStore.step`), and
many are a run (`IsStore.runs`).
-/

set_option autoImplicit false

namespace TrialRun

variable {τ σ : Type}

/-! ## What a trial asks for -/

/-- Types of objects that belong to the whole cluster. -/
inductive WideType where
  | resourceFlavor
  | clusterQueue
  deriving DecidableEq, Repr

def WideType.type : WideType → ResourceType
  | .resourceFlavor => .resourceFlavor
  | .clusterQueue => .clusterQueue

/-- Types of the whole cluster are told apart by their plurals. -/
theorem WideType.plural_injective (t u : WideType) (same : t.type.plural = u.type.plural) :
    t = u := by
  cases t <;> cases u <;> first | rfl | exact absurd same (by decide)

/-- Types of objects that live in namespaces. -/
inductive NarrowType where
  | localQueue
  | rayCluster
  | rayJob
  | appWrapper
  | route
  deriving DecidableEq, Repr

def NarrowType.type : NarrowType → ResourceType
  | .localQueue => .localQueue
  | .rayCluster => .rayCluster
  | .rayJob => .rayJob
  | .appWrapper => .appWrapper
  | .route => .route

/-- So are types that live in namespaces. -/
theorem NarrowType.plural_injective (t u : NarrowType) (same : t.type.plural = u.type.plural) :
    t = u := by
  cases t <;> cases u <;> first | rfl | exact absurd same (by decide)

/-- Where a trial looks for objects: their kind says whether there is a namespace. -/
inductive Place where
  | wide (type : WideType)
  | narrow (type : NarrowType) (ns : Given)
  deriving DecidableEq

namespace Place

def type : Place → ResourceType
  | .wide type => type.type
  | .narrow type _ => type.type

def ns : Place → Json
  | .wide _ => .null
  | .narrow _ ns => .text ns.val

/-- What requests for objects of the place point at. -/
def collection (p : Place) : Collection where
  scope := match p with
    | .wide _ => none
    | .narrow _ ns => some ns.val
  group := p.type.group
  version := p.type.version
  plural := p.type.plural

/-- No two places are mixed up on the wire. -/
theorem collection_injective (p q : Place) (same : p.collection = q.collection) : p = q := by
  have scope : p.collection.scope = q.collection.scope := congrArg Collection.scope same
  have plural : p.type.plural = q.type.plural := congrArg Collection.plural same
  cases p with
  | wide type =>
    cases q with
    | wide other => rw [type.plural_injective other plural]
    | narrow other ns => cases scope
  | narrow type ns =>
    cases q with
    | wide other => cases scope
    | narrow other ns' =>
      obtain rfl : ns = ns' := Subtype.ext (Option.some.inj scope)
      rw [type.plural_injective other plural]

end Place

/-- What is to be deleted is given by name. -/
theorem Cluster.Call.name_deleteObject (type : ResourceType) (ns name : Json) :
    (Cluster.Call.deleteObject type ns name).options.field? "name" = some name := by
  simp only [Cluster.Call.options, Json.ofFields, List.foldl, Json.field?]
  exact Json.lookup_insertField_self _ _ _

namespace Action

/-- What a trial can do with objects: only those of a namespace can be listed. -/
def IsOffered : Action Place → Prop
  | .list (.wide _) => False
  | a => a.IsProper

/-- What a trial can do is something that the server understands. -/
theorem IsOffered.isProper {a : Action Place} (offered : a.IsOffered) : a.IsProper := by
  cases a with
  | create place body => exact offered
  | _ => trivial

/-- The operation that a trial does for an action. -/
def operation : Action Place → Cluster.Operation
  | .create p body => .create p.type p.ns body
  | .get p name => .get p.type p.ns (.text name.val)
  | .list p => .list p.type p.ns
  | .delete p name => .delete p.type p.ns (.text name.val)

/-- The call that this operation makes. -/
def call : Action Place → Cluster.Call .value
  | .create p body => .createObject p.type p.ns body
  | .get p name => .getObject p.type p.ns (.text name.val)
  | .list p => .listObjects p.type p.ns
  | .delete p name => .deleteObject p.type p.ns (.text name.val)

open Cluster.Call in
/-- The server reads in a call what it was made for. -/
theorem action?_call {a : Action Place} (offered : a.IsOffered) :
    a.call.action? = some (a.map Place.collection) := by
  cases a with
  | create p body =>
    cases p with
    | wide type => rfl
    | narrow type ns =>
      simp only [action?, call, Place.ns, interface, method, arguments, reach, place,
        Json.isGiven_val, if_true]
      rfl
  | get p name =>
    cases p with
    | wide type => exact congrArg (Option.map _) (Json.given?_val name)
    | narrow type ns =>
      simp only [action?, call, Place.ns, interface, method, arguments, reach, place,
        Json.isGiven_val, if_true]
      exact congrArg (Option.map _) (Json.given?_val name)
  | list p =>
    cases p with
    | wide type => cases offered
    | narrow type ns => rfl
  | delete p name =>
    have asked := name_deleteObject p.type p.ns (.text name.val)
    have given : ((Cluster.Call.deleteObject p.type p.ns (.text name.val)).options.field?
        "name").bind Json.given? = some name := by
      rw [asked]
      exact Json.given?_val name
    cases p with
    | wide type => exact congrArg (Option.map _) given
    | narrow type ns =>
      simp only [action?, call, Place.ns, interface, method, arguments, reach, place,
        Json.isGiven_val, if_true]
      exact congrArg (Option.map _) given

/-- A body that asks for a name has one that can be read. -/
theorem exists_requestedName {body : Json} (asks : body.naming?.isSome = true) :
    ∃ name, Cluster.requestedName body = .ok name := by
  obtain ⟨fields, own, rfl, there⟩ := Json.exists_metadata_of_naming? asks
  refine Cluster.Operation.exists_requestedName fun metadata other => ?_
  obtain rfl := Option.some.inj (there.symm.trans other)
  exact ⟨own, rfl⟩

/-- The operation of an action makes the call of that action. -/
theorem call_operation {a : Action Place} (proper : a.IsProper) :
    a.operation.call = .ok ⟨.value, a.call⟩ := by
  cases a with
  | create p body =>
    obtain ⟨name, asks⟩ := exists_requestedName proper
    rw [operation, Cluster.Operation.call, asks]
    rfl
  | _ => rfl

end Action

/-- What a trial makes of a reply. -/
def Reply.IsToldAs : Reply → Except Fault Json → Prop
  | .object v, r => r = .ok v
  | .objects vs, r => r = .ok (.list vs)
  | .done, r => r = .ok .null
  | .conflict, r => ∃ f, r = .error f ∧ f.kind = .failure ∧ f.isNotFound = false
  | .missing, r => ∃ f, r = .error f ∧ f.kind = .failure ∧ f.isNotFound = true

section Operations

variable [Timescale τ]

/-- A status that the server refuses with is told as a failure. -/
theorem Cluster.Operation.run_of_failsWith {op : Operation} {c : Call .value}
    (made : op.call = .ok ⟨.value, c⟩) {site : Site τ σ} {w : World τ σ} {status : Int}
    (fails : (site.answer c w.outside).1.outcome.FailsWith status) :
    ∃ f, op.run.run site w = (.error f, w.answered site c) ∧ f.kind = .failure ∧
      f.isNotFound = (FaultKind.refused (.int status)).isNotFound := by
  obtain ⟨cause, failed, refused, alone⟩ := fails
  obtain ⟨task, asks⟩ := op.asksFirst_of_call (τ := τ) (σ := σ) made
  have ordinary : cause.isOrdinary = true := by rw [Fault.isOrdinary, refused]; rfl
  have told : Fault.Told task cause (Cluster.operationFault task cause) :=
    Cluster.told_operationFault ordinary
  have ended := asks.run_of_failed site w failed
  rw [if_pos ordinary] at ended
  refine ⟨_, ended, (told.failed ordinary ?_).1, told.missing.trans ?_⟩
  · rw [refused]
    intro late
    cases late
  · show cause.chain.any _ = _
    rw [Fault.chain, alone, List.any_cons, refused]
    exact Bool.or_false _

/-! ## Served operations -/

namespace Cluster

/-- The act ends with a value, and one call is all that has changed the outside. -/
def ServedBy (a : Act τ σ Json) (site : Site τ σ) (w : World τ σ) (c : Call .value) (v : Json) :
    Prop :=
  (a.run site w).1 = .ok v ∧ (a.run site w).2.outside = (site.answer c w.outside).2

variable {type : ResourceType} {ns name body v : Json} {site : Site τ σ} {w : World τ σ}

/-- A creation ends with the object that is served, if this one has a name. -/
theorem createObject_servedBy (asked : ∃ name, requestedName body = .ok name)
    (named : Workload.name v = .ok name)
    (served : (site.answer (.createObject type ns body) w.outside).1.outcome = .served v) :
    ServedBy (createObject type ns body) site w (.createObject type ns body) v := by
  obtain ⟨name, asked⟩ := asked
  obtain ⟨metadata, there, own⟩ := ok_of_bind named
  unfold ServedBy createObject
  rw [asked, Act.run_bind_of_ok _ (Act.run_liftM ..),
    Act.run_bind_of_ok _ (run_ask_of_served _ served), there,
    Act.run_bind_of_ok _ (Act.run_liftM ..), own, Act.run_bind_of_ok _ (Act.run_liftM ..)]
  exact ⟨rfl, rfl⟩

/-- Reading ends with the object that is served. -/
theorem getObject_servedBy
    (served : (site.answer (.getObject type ns name) w.outside).1.outcome = .served v) :
    ServedBy (getObject type ns name) site w (.getObject type ns name) v := by
  unfold ServedBy getObject
  rw [run_ask_of_served _ served]
  exact ⟨rfl, rfl⟩

/-- Listing ends with the items that are served. -/
theorem listObjects_servedBy {items : Json}
    (served : (site.answer (.listObjects type ns) w.outside).1.outcome = .served v)
    (held : v.get "items" (.list []) = .ok items) :
    ServedBy (listObjects type ns) site w (.listObjects type ns) items := by
  unfold ServedBy listObjects
  rw [Act.run_bind_of_ok _ (run_ask_of_served _ served), held, Act.run_liftM]
  exact ⟨rfl, rfl⟩

/-- A deletion has no result, whatever is served. -/
theorem deleteObject_servedBy
    (served : (site.answer (.deleteObject type ns name) w.outside).1.outcome = .served v) :
    ServedBy (deleteObject type ns name >>= fun _ => pure .null) site w
      (.deleteObject type ns name) .null := by
  unfold ServedBy deleteObject
  rw [Act.run_bind, Act.run_bind_of_ok _ (run_ask_of_served _ served)]
  exact ⟨rfl, rfl⟩

end Cluster

/-! ## One action -/

variable {keeping : Registry.Keeping} {site : Site τ σ} {w : World τ σ} {a : Action Place}
  {m m' : Registry Place} {reply : Reply}

/-- What an action of a trial ends with. -/
abbrev Action.result (a : Action Place) (site : Site τ σ) (w : World τ σ) : Except Fault Json :=
  (a.operation.run.run site w).1

/-- The world that an action of a trial leaves. -/
abbrev Action.behind (a : Action Place) (site : Site τ σ) (w : World τ σ) : World τ σ :=
  (a.operation.run.run site w).2

/-- What a trial is told after an action that the server replied to, and the outside then. -/
theorem Action.told (named : keeping.Named) (proper : a.IsProper)
    (step : Registry.Step keeping m a reply m')
    (sent : reply.IsSentAs (site.answer a.call w.outside).1.outcome) :
    reply.IsToldAs (a.operation.run.run site w).1 ∧
      (a.operation.run.run site w).2.outside = (site.answer a.call w.outside).2 := by
  -- conflicts and missing objects are refusals with a status, and are told alike by all operations
  have fails : ∀ {status}, (site.answer a.call w.outside).1.outcome.FailsWith status → ∃ f,
      a.operation.run.run site w = (.error f, w.answered site a.call) ∧ f.kind = .failure ∧
        f.isNotFound = (FaultKind.refused (.int status)).isNotFound :=
    Cluster.Operation.run_of_failsWith (call_operation proper)
  have missing (sent : (site.answer a.call w.outside).1.outcome.FailsWith 404) :
      Reply.missing.IsToldAs (a.operation.run.run site w).1 ∧
        (a.operation.run.run site w).2.outside = (site.answer a.call w.outside).2 := by
    obtain ⟨f, ended, failure, missing⟩ := fails sent
    rw [ended]
    exact ⟨⟨f, rfl, failure, missing⟩, rfl⟩
  cases a with
  | create place body =>
    cases step with
    | created asks allowed free kept =>
      have asked := exists_requestedName proper
      exact Cluster.createObject_servedBy asked (named _ _ _ proper kept) sent
    | taken asks there =>
      obtain ⟨f, ended, failure, found⟩ := fails sent
      rw [ended]
      exact ⟨⟨f, rfl, failure, found⟩, rfl⟩
  | get place name =>
    cases step with
    | got there => exact Cluster.getObject_servedBy sent
    | notThere free => exact missing sent
  | list place =>
    cases step with
    | listed different each all =>
      obtain ⟨v, served, held⟩ := sent
      exact Cluster.listObjects_servedBy served held
  | delete place name =>
    cases step with
    | deleted there =>
      obtain ⟨v, served⟩ := sent
      exact Cluster.deleteObject_servedBy served
    | alreadyGone free => exact missing sent

/-- The registry that a trial acts on, of what the server holds. -/
def Registry.seen (objects : σ → Registry Collection) (w : World τ σ) : Registry Place :=
  (objects w.outside).through Place.collection

variable {objects : σ → Registry Collection}

namespace IsStore

/-- An action of a trial at a store is a step of the registry that the trial acts on. -/
theorem step (store : IsStore site keeping objects) (offered : a.IsOffered) (w : World τ σ) :
    ∃ reply, reply.IsToldAs (a.operation.run.run site w).1 ∧
      Registry.Step keeping (.seen objects w) a reply
        (.seen objects (a.operation.run.run site w).2) := by
  have proper := offered.isProper
  obtain ⟨reply, sent, step⟩ :=
    store.answers a.call _ w.outside (Action.action?_call offered) proper.map
  have seen := step.comap Place.collection_injective
  obtain ⟨told, outside⟩ := Action.told store.named proper seen sent
  refine ⟨reply, told, ?_⟩
  rw [Registry.seen, Registry.seen, outside]
  exact seen

end IsStore

/-! ## Many actions -/

namespace Action

/-- Does some actions, one after the other and whatever comes of each, and tells what came of it. -/
def performAll : List (Action Place) → Act τ σ (List (Action Place × Except Fault Json))
  | [] => pure []
  | a :: rest => do
    let told ← a.operation.run.attempt
    let others ← performAll rest
    pure ((a, told) :: others)

end Action

/-- What a trial is told of some actions is what was replied to them. -/
def AreTold (history : List (Action Place × Reply))
    (results : List (Action Place × Except Fault Json)) : Prop :=
  List.Forall₂ (fun e t => t.1 = e.1 ∧ e.2.IsToldAs t.2) history results

namespace IsStore

/-- Many actions are a run of the registry, by induction on their list. -/
theorem runs (store : IsStore site keeping objects) (actions : List (Action Place))
    (offered : ∀ a ∈ actions, a.IsOffered) (w : World τ σ) :
    ∃ history results w', (Action.performAll actions).run site w = (.ok results, w') ∧
      history.map Prod.fst = actions ∧ AreTold history results ∧
      Registry.Runs keeping (.seen objects w) history (.seen objects w') := by
  induction actions generalizing w with
  | nil => exact ⟨[], [], w, rfl, rfl, .nil, .nil _⟩
  | cons a rest ih =>
    obtain ⟨reply, told, step⟩ := store.step (offered a List.mem_cons_self) w
    obtain ⟨history, results, w', run, same, others, runs⟩ :=
      ih (fun b member => offered b (List.mem_cons_of_mem _ member)) (a.operation.run.run site w).2
    refine ⟨(a, reply) :: history, (a, (a.operation.run.run site w).1) :: results, w', ?_, ?_,
      .cons ⟨rfl, told⟩ others, .cons step runs⟩
    · rw [Action.performAll, Act.run_bind_of_ok _ (Act.run_attempt ..), Act.run_bind_of_ok _ run]
      rfl
    · rw [List.map_cons, same]

end IsStore

/-! ## The refinement -/

/-- Whatever was done, something was told of it. -/
theorem AreTold.exists_of_mem {history : List (Action Place × Reply)}
    {results : List (Action Place × Except Fault Json)} (told : AreTold history results)
    {e : Action Place × Reply} (member : e ∈ history) :
    ∃ t ∈ results, t.1 = e.1 ∧ e.2.IsToldAs t.2 := by
  induction told with
  | nil => cases member
  | cons first rest ih =>
    rcases List.mem_cons.mp member with rfl | member
    · exact ⟨_, List.mem_cons_self, first⟩
    · obtain ⟨t, there, same⟩ := ih member
      exact ⟨t, List.mem_cons_of_mem _ there, same⟩

/-- No action has created an object under a name, as far as a trial is told. -/
def NoneNames (results : List (Action Place × Except Fault Json)) (place : Place) (name : Given) :
    Prop :=
  ∀ t ∈ results, ∀ v, t.2 = .ok v → ¬t.1.Names v place name

/-- If no reply names an object, as far as a trial is told, then none of them does. -/
theorem AreTold.noneNames {history : List (Action Place × Reply)}
    {results : List (Action Place × Except Fault Json)} {place : Place} {name : Given}
    (told : AreTold history results) (other : NoneNames results place name) :
    ∀ e ∈ history, ∀ v, e.2 = .object v → ¬e.1.Names v place name := by
  intro e member v created
  obtain ⟨t, there, same, ended⟩ := told.exists_of_mem member
  rw [created] at ended
  rw [← same]
  exact other t there v ended

/-- A fault that says that there is no such object. -/
def SaysMissing (r : Except Fault Json) : Prop :=
  ∃ f, r = .error f ∧ f.kind = .failure ∧ f.isNotFound = true

/-- At a site, objects are dealt with as on a map, by their kind, by their namespace if they have
one, and by their name. -/
structure IsMapped (site : Site τ σ) (keeping : Registry.Keeping)
    (held : World τ σ → Registry Place) : Prop where
  /-- All that is done, whatever it is, are steps on the map, and a trial is told what is replied.
  -/
  runs : ∀ (actions : List (Action Place)) (w : World τ σ), (∀ a ∈ actions, a.IsOffered) →
    ∃ history results w', (Action.performAll actions).run site w = (.ok results, w') ∧
      history.map Prod.fst = actions ∧ AreTold history results ∧
      Registry.Runs keeping (held w) history (held w')
  /-- What is held can be read, and nothing else. -/
  read : ∀ (place : Place) (name : Given) (w : World τ σ),
    match held w place name with
    | some v => (Action.get place name).result site w = .ok v
    | none => SaysMissing ((Action.get place name).result site w)
  /-- What was created has a name, the one that was asked for if there was one, and can be read
  under it until it is deleted. -/
  created : ∀ (place : Place) (body v : Json) (w : World τ σ), body.naming?.isSome = true →
    (Action.create place body).result site w = .ok v → ∃ name, v.IsNamed name ∧
      (∀ asked, body.naming? = some (.own asked) → name = asked) ∧
      ∀ (actions : List (Action Place)) (results : List (Action Place × Except Fault Json))
        (w' : World τ σ), (∀ a ∈ actions, a.IsOffered) → .delete place name ∉ actions →
        (Action.performAll actions).run site ((Action.create place body).behind site w) =
          (.ok results, w') → (Action.get place name).result site w' = .ok v
  /-- What was deleted, or is not there, is missing until an object is created under its name. -/
  deleted : ∀ (place : Place) (name : Given) (actions : List (Action Place))
      (results : List (Action Place × Except Fault Json)) (w w' : World τ σ),
    (∀ a ∈ actions, a.IsOffered) → NoneNames results place name →
    (Action.performAll actions).run site ((Action.delete place name).behind site w) =
      (.ok results, w') → SaysMissing ((Action.get place name).result site w')
  /-- A list has what can be read in a namespace by one kind, each object once. -/
  listed : ∀ (type : NarrowType) (ns : Given) (w : World τ σ), ∃ names vs,
    (Action.list (.narrow type ns)).result site w = .ok (.list vs) ∧ names.Nodup ∧
      List.Forall₂ (fun name v => (Action.get (.narrow type ns) name).result site w = .ok v)
        names vs ∧
      ∀ name v, (Action.get (.narrow type ns) name).result site w = .ok v → name ∈ names
  /-- What is done under other names, in other namespaces or by other kinds, changes nothing. -/
  framed : ∀ (place : Place) (name : Given) (actions : List (Action Place))
      (results : List (Action Place × Except Fault Json)) (w w' : World τ σ),
    (∀ a ∈ actions, a.IsOffered) → .delete place name ∉ actions → NoneNames results place name →
    (Action.performAll actions).run site w = (.ok results, w') →
    held w' place name = held w place name

/-- What is not among the actions is not among what was done. -/
theorem ne_of_not_mem {history : List (Action Place × Reply)} {actions : List (Action Place)}
    (same : history.map Prod.fst = actions) (absent : a ∉ actions) : ∀ e ∈ history, e.1 ≠ a := by
  rintro e member rfl
  rw [← same] at absent
  exact absent (List.mem_map.mpr ⟨e, member, rfl⟩)

namespace IsStore

/-- What a list of actions comes to at a store, given what it ends with. -/
theorem runs_of_run (store : IsStore site keeping objects) {actions : List (Action Place)}
    (offered : ∀ a ∈ actions, a.IsOffered) {results : List (Action Place × Except Fault Json)}
    {w' : World τ σ} (run : (Action.performAll actions).run site w = (.ok results, w')) :
    ∃ history, history.map Prod.fst = actions ∧ AreTold history results ∧
      Registry.Runs keeping (.seen objects w) history (.seen objects w') := by
  obtain ⟨history, results₁, w₁, run₁, same, told, runs⟩ := store.runs actions offered w
  cases run₁.symm.trans run
  exact ⟨history, same, told, runs⟩

/-- Reading shows what is held under a name, or that nothing is. -/
theorem read (store : IsStore site keeping objects) (place : Place) (name : Given)
    (w : World τ σ) :
    match Registry.seen objects w place name with
    | some v => (Action.get place name).result site w = .ok v
    | none => SaysMissing ((Action.get place name).result site w) := by
  obtain ⟨reply, told, step⟩ := store.step (a := .get place name) trivial w
  rcases step.of_get with ⟨v, there, rfl⟩ | ⟨free, rfl⟩
  · rw [there]
    exact told
  · rw [free]
    exact told

/-- What is held can be read. -/
theorem read_of_some (store : IsStore site keeping objects) {place : Place} {name : Given}
    {v : Json} (there : Registry.seen objects w place name = some v) :
    (Action.get place name).result site w = .ok v := by
  have read := store.read place name w
  rw [there] at read
  exact read

/-- What is not held is missing. -/
theorem read_of_none (store : IsStore site keeping objects) {place : Place} {name : Given}
    (free : Registry.seen objects w place name = none) :
    SaysMissing ((Action.get place name).result site w) := by
  have read := store.read place name w
  rw [free] at read
  exact read

/-- What was read is held. -/
theorem held_of_read (store : IsStore site keeping objects) {place : Place} {name : Given}
    {v : Json} (read : (Action.get place name).result site w = .ok v) :
    Registry.seen objects w place name = some v := by
  cases there : Registry.seen objects w place name with
  | some u =>
    have other := (store.read_of_some there).symm.trans read
    rw [Except.ok.inj other]
  | none =>
    obtain ⟨f, missing, -⟩ := store.read_of_none there
    cases missing.symm.trans read

/-- A creation that ends with an object has a name for it, under which it is held. -/
theorem created (store : IsStore site keeping objects) {place : Place} {body v : Json}
    (asks : body.naming?.isSome = true) (ended : (Action.create place body).result site w = .ok v) :
    ∃ name, v.IsNamed name ∧ (∀ asked, body.naming? = some (.own asked) → name = asked) ∧
      Registry.seen objects ((Action.create place body).behind site w) place name = some v := by
  obtain ⟨reply, told, step⟩ := store.step (a := .create place body) asks w
  cases reply with
  | object u =>
    obtain rfl : u = v := Except.ok.inj (told.symm.trans ended)
    exact step.exists_name store.named
  | conflict =>
    obtain ⟨f, failed, -⟩ := told
    cases failed.symm.trans ended
  | _ => cases step

/-- Nothing is held under a name after its deletion, whether there was an object or not. -/
theorem deleted (store : IsStore site keeping objects) (place : Place) (name : Given)
    (w : World τ σ) :
    Registry.seen objects ((Action.delete place name).behind site w) place name = none := by
  obtain ⟨reply, told, step⟩ := store.step (a := .delete place name) trivial w
  exact step.gone

/-- A list has all that is held in a namespace, each under its own name. -/
theorem listed (store : IsStore site keeping objects) (type : NarrowType) (ns : Given)
    (w : World τ σ) : ∃ names vs,
    (Action.list (.narrow type ns)).result site w = .ok (.list vs) ∧ names.Nodup ∧
      List.Forall₂ (fun name v => (Action.get (.narrow type ns) name).result site w = .ok v)
        names vs ∧
      ∀ name v, (Action.get (.narrow type ns) name).result site w = .ok v → name ∈ names := by
  obtain ⟨reply, told, step⟩ := store.step (a := .list (.narrow type ns)) trivial w
  obtain ⟨names, vs, rfl, different, each, all⟩ := step.exists_names
  refine ⟨names, vs, told, different, each.imp fun name v => store.read_of_some, ?_⟩
  exact fun name v read => all name v (store.held_of_read read)

/-- **Objects are dealt with as on a map.**  If the API server is a store of what its requests
point at, then to a trial it is one of kinds, namespaces and names.  Whatever is created, read,
listed and deleted, in whatever order, the results are those of a map: an object can be read from
its creation to its deletion and is missing before and after, a list has the objects of a kind in a
namespace, and nothing depends on what is done under another key. -/
theorem isMapped (store : IsStore site keeping objects) :
    IsMapped site keeping (Registry.seen objects) where
  runs actions w offered := store.runs actions offered w
  read := store.read
  created place body v w asks ended := by
    obtain ⟨name, named, own, there⟩ := store.created asks ended
    refine ⟨name, named, own, fun actions results w' offered kept run => ?_⟩
    obtain ⟨history, same, -, runs⟩ := store.runs_of_run offered run
    exact store.read_of_some (runs.live there (ne_of_not_mem same kept))
  deleted place name actions results w w' offered other run := by
    obtain ⟨history, -, told, runs⟩ := store.runs_of_run offered run
    have free := store.deleted place name w
    exact store.read_of_none (runs.free store.named free (told.noneNames other))
  listed := store.listed
  framed place name actions results w w' offered kept other run := by
    obtain ⟨history, same, told, runs⟩ := store.runs_of_run offered run
    exact runs.frame store.named (ne_of_not_mem same kept) (told.noneNames other)

end IsStore

/-- There is such a store, and what is asked of it is dealt with as on a map. -/
theorem Shelves.site_isMapped : IsStore Shelves.site Shelves.keeping Shelves.registry ∧
    IsMapped Shelves.site Shelves.keeping (Registry.seen Shelves.registry) :=
  ⟨Shelves.isStore_site, IsStore.isMapped Shelves.isStore_site⟩

end Operations

end TrialRun
