import Mathlib.Algebra.Order.BigOperators.Group.List
import Mathlib.Algebra.Order.Ring.Nat
import Mathlib.Data.List.AList
import TrialRun.World
import TrialRun.Proofs.Cluster.Registry

/-!
# The API server as a store

What goes over the wire for a custom resource is a method of the server's interface, with arguments
by position and by name.  `Action.ofWire` reads it as the server does: the method says whether a
namespace is among the arguments, and which of them is which.  A site is a store if it answers what
it reads in this way as a registry does (`IsStore`); it may answer anything else as it likes.

There are such sites: one whose server keeps all objects on shelves is a store
(`Shelves.isStore_site`).
-/

set_option autoImplicit false

namespace TrialRun

variable {τ σ : Type}

/-! ## What the server reads -/

/-- What a request for custom resources points at: a type of objects, in a namespace or in the
cluster as a whole. -/
structure Collection where
  scope : Option String
  group : String
  version : String
  plural : String
  deriving DecidableEq, Repr

/-- What is asked of the server by a method of its interface for custom resources. -/
def Action.ofWire (method : String) (arguments : List Json) (options : Json) :
    Option (Action Collection) :=
  match method, arguments with
  | "create_namespaced_custom_object",
    [.text group, .text version, .text ns, .text plural, body] =>
    some (.create ⟨some ns, group, version, plural⟩ body)
  | "create_cluster_custom_object", [.text group, .text version, .text plural, body] =>
    some (.create ⟨none, group, version, plural⟩ body)
  | "get_namespaced_custom_object", [.text group, .text version, .text ns, .text plural, name] =>
    name.given?.map (.get ⟨some ns, group, version, plural⟩)
  | "get_cluster_custom_object", [.text group, .text version, .text plural, name] =>
    name.given?.map (.get ⟨none, group, version, plural⟩)
  | "list_namespaced_custom_object", [.text group, .text version, .text ns, .text plural] =>
    some (.list ⟨some ns, group, version, plural⟩)
  | "delete_namespaced_custom_object", [.text group, .text version, .text ns, .text plural] =>
    ((options.field? "name").bind Json.given?).map (.delete ⟨some ns, group, version, plural⟩)
  | "delete_cluster_custom_object", [.text group, .text version, .text plural] =>
    ((options.field? "name").bind Json.given?).map (.delete ⟨none, group, version, plural⟩)
  | _, _ => none

/-- What the server reads in a call. -/
def Cluster.Call.action? {f : Cluster.Form} (c : Cluster.Call f) : Option (Action Collection) :=
  if c.interface = "custom" then Action.ofWire c.method c.arguments c.options else none

/-! ## What the server answers -/

/-- The call fails with a status of the server's. -/
def Outcome.FailsWith {α : Type} (o : Outcome α) (status : Int) : Prop :=
  ∃ f : Fault, (o = .refused f ∨ o = .late f) ∧ f.kind = .refused (.int status) ∧ f.causes = []

/-- How a reply is sent.  No objects may also be sent as no items. -/
def Reply.IsSentAs : Reply → Outcome Json → Prop
  | .object v, o => o = .served v
  | .objects vs, o => ∃ v, o = .served v ∧ v.get "items" (.list []) = .ok (.list vs)
  | .done, o => ∃ v, o = .served v
  | .conflict, o => o.FailsWith 409
  | .missing, o => o.FailsWith 404

/-- The server of a site answers for custom resources as a registry does, which is part of the state
of the outside.  What it holds under a name says so. -/
structure IsStore (site : Site τ σ) (keeping : Registry.Keeping)
    (objects : σ → Registry Collection) : Prop where
  named : keeping.Named
  answers : ∀ (c : Cluster.Call .value) (a : Action Collection) (s : σ), c.action? = some a →
    a.IsProper → ∃ reply, reply.IsSentAs (site.answer c s).1.outcome ∧
      Registry.Step keeping (objects s) a reply (objects (site.answer c s).2)

/-! ## A server that is a store -/

/-- The body with a name among its metadata, if it has metadata. -/
def Json.withName (body : Json) (name : Given) : Json :=
  match body with
  | .object fields =>
    match lookup "metadata" fields with
    | some (.object own) =>
      .object (insertField "metadata" (.object (insertField "name" (.text name.val) own)) fields)
    | _ => body
  | _ => body

/-- Objects on shelves, each shelf and each place on it used once. -/
abbrev Shelves : Type := AList fun _ : Collection × Given => Json

namespace Shelves

/-- The registry that the shelves are. -/
def registry (s : Shelves) : Registry Collection := fun place name => s.lookup (place, name)

/-- The names in use at a place. -/
def names (s : Shelves) (place : Collection) : List Given :=
  (s.keys.filter fun k => k.1 = place).map Prod.snd

/-- A name that is longer than all that are in use. -/
def fresh (s : Shelves) : Given :=
  ⟨String.ofList (List.replicate ((s.keys.map fun k => k.2.val.length).sum + 1) 'x'),
    fun empty => by
      have length := congrArg String.length empty
      simp at length⟩

/-- A fresh name is not on the shelves yet. -/
theorem lookup_fresh (s : Shelves) (place : Collection) : s.lookup (place, s.fresh) = none := by
  rw [AList.lookup_eq_none, AList.mem_keys]
  intro member
  have bound : s.fresh.val.length ≤ (s.keys.map fun k => k.2.val.length).sum :=
    List.le_sum_of_mem (List.mem_map.mpr ⟨_, member, rfl⟩)
  simp only [fresh, String.length_ofList, List.length_replicate] at bound
  omega

/-- The name for an object that asks so. -/
def nameFor (s : Shelves) : Naming → Given
  | .own name => name
  | .generated _ => s.fresh

def refusal (status : Int) : Outcome Json := .refused (.plain (.refused (.int status)) "")

/-- What is replied to an action, and how the shelves are then. -/
def reply (s : Shelves) : Action Collection → Outcome Json × Shelves
  | .create place body =>
    match body.naming? with
    | none => (refusal 422, s)
    | some naming =>
      let name := s.nameFor naming
      match s.lookup (place, name) with
      | some _ => (refusal 409, s)
      | none => (.served (body.withName name), s.insert (place, name) (body.withName name))
  | .get place name =>
    match s.lookup (place, name) with
    | some v => (.served v, s)
    | none => (refusal 404, s)
  | .list place =>
    (.served (.object [("items", .list ((s.names place).filterMap (s.registry place)))]), s)
  | .delete place name =>
    match s.lookup (place, name) with
    | some _ => (.served .null, s.erase (place, name))
    | none => (refusal 404, s)

/-- To put an object on the shelves is to set its entry of the registry. -/
theorem registry_insert (s : Shelves) (place : Collection) (name : Given) (v : Json) :
    registry (s.insert (place, name) v) = s.registry.set place name (some v) := by
  funext other own
  by_cases same : other = place ∧ own = name
  · obtain ⟨rfl, rfl⟩ := same
    simp [registry]
  · rw [Registry.set_of_ne _ _ same, registry, AList.lookup_insert_ne]
    · rfl
    · exact fun equal => same (Prod.mk.inj equal)

/-- To take an object away is to clear its entry. -/
theorem registry_erase (s : Shelves) (place : Collection) (name : Given) :
    registry (s.erase (place, name)) = s.registry.set place name none := by
  funext other own
  by_cases same : other = place ∧ own = name
  · obtain ⟨rfl, rfl⟩ := same
    simp [registry]
  · rw [Registry.set_of_ne _ _ same, registry, AList.lookup_erase_ne]
    · rfl
    · exact fun equal => same (Prod.mk.inj equal)

theorem mem_names {s : Shelves} {place : Collection} {name : Given} :
    name ∈ s.names place ↔ (place, name) ∈ s.keys := by
  simp only [names, List.mem_map, List.mem_filter, decide_eq_true_eq]
  constructor
  · rintro ⟨⟨_, _⟩, ⟨member, rfl⟩, rfl⟩
    exact member
  · exact fun member => ⟨_, ⟨member, rfl⟩, rfl⟩

/-- No name is listed twice. -/
theorem nodup_names (s : Shelves) (place : Collection) : (s.names place).Nodup := by
  refine List.Nodup.map_on ?_ (s.keys_nodup.filter _)
  rintro ⟨p, n⟩ here ⟨q, k⟩ there rfl
  have one := of_decide_eq_true (List.mem_filter.mp here).2
  have two := of_decide_eq_true (List.mem_filter.mp there).2
  rw [show p = place from one, show q = place from two]

/-- The names that are listed are those the registry holds something under. -/
theorem isSome_registry {s : Shelves} {place : Collection} {name : Given} :
    (s.registry place name).isSome = true ↔ name ∈ s.names place := by
  rw [mem_names, registry, AList.lookup_isSome, AList.mem_keys]

/-- The objects under some names in use. -/
theorem forall₂_filterMap (s : Shelves) (place : Collection) (names : List Given)
    (held : ∀ name ∈ names, name ∈ s.names place) :
    List.Forall₂ (fun name v => s.registry place name = some v) names
      (names.filterMap (s.registry place)) := by
  induction names with
  | nil => exact .nil
  | cons name rest ih =>
    have there := isSome_registry.mpr (held name List.mem_cons_self)
    obtain ⟨v, there⟩ := Option.isSome_iff_exists.mp there
    rw [List.filterMap_cons_some there]
    exact .cons there (ih fun other member => held other (List.mem_cons_of_mem _ member))

def keeping : Registry.Keeping := fun body name v => v = body.withName name

theorem named_keeping : keeping.Named := by
  rintro body name _ asks rfl
  obtain ⟨fields, own, rfl, there⟩ := Json.exists_metadata_of_naming? asks
  simp only [Json.IsNamed, Workload.name, Json.withName, there, Json.field,
    Json.lookup_insertField_self, bind, Except.bind]

/-- A refusal is the answer of an API that fails with this status. -/
theorem failsWith_refusal (status : Int) : (refusal status).FailsWith status :=
  ⟨_, .inl rfl, rfl, rfl⟩

/-- The replies are those of a registry. -/
theorem step_reply (s : Shelves) {a : Action Collection} (proper : a.IsProper) :
    ∃ reply : Reply, reply.IsSentAs (s.reply a).1 ∧
      Registry.Step keeping s.registry a reply (s.reply a).2.registry := by
  cases a with
  | create place body =>
    obtain ⟨naming, asks⟩ := Option.isSome_iff_exists.mp proper
    cases there : s.lookup (place, s.nameFor naming) with
    | some v =>
      cases naming with
      | own name =>
        refine ⟨.conflict, ?_, ?_⟩ <;> simp only [reply, asks, there]
        · exact failsWith_refusal 409
        · exact .taken asks there
      -- a generated name is fresh, hence never taken
      | generated beginning => cases (s.lookup_fresh place).symm.trans there
    | none =>
      refine ⟨.object (body.withName (s.nameFor naming)), ?_, ?_⟩ <;>
        simp only [reply, asks, there]
      · rfl
      · rw [registry_insert]
        refine .created asks ?_ there rfl
        cases naming with
        | own name => rfl
        | generated beginning => trivial
  | get place name =>
    cases there : s.lookup (place, name) with
    | some v =>
      refine ⟨.object v, ?_, ?_⟩ <;> simp only [reply, there]
      · rfl
      · exact .got there
    | none =>
      refine ⟨.missing, ?_, ?_⟩ <;> simp only [reply, there]
      · exact failsWith_refusal 404
      · exact .notThere there
  | list place =>
    refine ⟨.objects ((s.names place).filterMap (s.registry place)), ⟨_, rfl, rfl⟩, ?_⟩
    refine .listed (s.nodup_names place) (s.forall₂_filterMap place _ fun _ => id) ?_
    exact fun name v there => isSome_registry.mp (Option.isSome_iff_exists.mpr ⟨v, there⟩)
  | delete place name =>
    cases there : s.lookup (place, name) with
    | some v =>
      refine ⟨.done, ?_, ?_⟩ <;> simp only [reply, there]
      · exact ⟨_, rfl⟩
      · rw [registry_erase]
        exact .deleted there
    | none =>
      refine ⟨.missing, ?_, ?_⟩ <;> simp only [reply, there]
      · exact failsWith_refusal 404
      · exact .alreadyGone there

/-- A site whose server keeps the objects on shelves, and refuses everything else. -/
def site : Site Number Shelves where
  answer {f} c s :=
    match f, c with
    | .value, c =>
      match c.action? with
      | some a => (⟨.int 0, (s.reply a).1⟩, (s.reply a).2)
      | none => (⟨.int 0, refusal 405⟩, s)
    | _, _ => (⟨.int 0, .refused (.plain (.refused (.int 405)) "")⟩, s)
  react _ s := (⟨.int 0, .errorStatus 404⟩, s)
  obstacle _ s := (none, s)
  temporary := Path.ofText
  settings := {}
  apiKeys := .null

/-- This site is a store in the sense of the specification, so there is one. -/
theorem isStore_site : IsStore site keeping registry where
  named := named_keeping
  answers c a s reads proper := by
    have answered : site.answer c s = (⟨.int 0, (s.reply a).1⟩, (s.reply a).2) := by
      simp only [site, reads]
    rw [answered]
    exact s.step_reply proper

end Shelves

end TrialRun
