import Mathlib.Data.List.Forall2
import TrialRun.Workload.Status

/-!
# Registries

A registry holds objects by a place and a name.  What a place is stays open: for the API server it
is what a path of a request spells out, for a trial it is a kind of objects and, if objects of this
kind live in namespaces, a namespace.

`Registry.Step` says what can be done to a registry and what is replied: an object is created under
the name it asks for, or under a free one that is chosen for it; reading and deleting ask for a
place and a name; a list has exactly the objects of one place, each once.  It does not say which
free name is chosen, what the server adds to an object, nor the order of a list.

A registry may be seen through any way to tell places apart (`Registry.Step.comap`): if different
places stay different, each step is still a step.
-/

set_option autoImplicit false

namespace TrialRun

/-! ## Names -/

/-- A text that is not empty. -/
abbrev Given : Type := {s : String // s ≠ ""}

def Given.of? (s : String) : Option Given :=
  if given : s ≠ "" then some ⟨s, given⟩ else none

/-- A given name is read back as itself. -/
@[simp] theorem Given.of?_val (name : Given) : Given.of? name.val = some name :=
  dif_pos name.property

/-- The text that a value is, if it is one that is not empty. -/
def Json.given? : Json → Option Given
  | .text s => Given.of? s
  | _ => none

@[simp] theorem Json.given?_val (name : Given) : (Json.text name.val).given? = some name :=
  name.of?_val

theorem Json.isGiven_val (name : Given) : (Json.text name.val).isGiven = true :=
  decide_eq_true name.property

/-- What an object asks to be named: by its own name, or by one that begins in a way. -/
inductive Naming where
  | own (name : Given)
  | generated (beginning : Given)

/-- The names that may be given to what asks so. -/
def Naming.Allows : Naming → Given → Prop
  | .own asked, name => name = asked
  | .generated _, _ => True

/-- How a body asks to be named; nothing if it does not ask, or not with a text. -/
def Json.naming? (body : Json) : Option Naming := do
  let metadata ← body.field? "metadata"
  let generated := ((metadata.field? "generateName").bind Json.given?).map Naming.generated
  match metadata.field? "name" with
  | some (.text name) => ((Given.of? name).map .own).or generated
  | some .null | none => generated
  | some _ => none

/-- What asks for a name has metadata. -/
theorem Json.exists_metadata_of_naming? {body : Json} (asks : body.naming?.isSome = true) :
    ∃ fields own, body = .object fields ∧ lookup "metadata" fields = some (.object own) := by
  obtain ⟨naming, asks⟩ := Option.isSome_iff_exists.mp asks
  obtain ⟨metadata, there, asks⟩ := Option.bind_eq_some_iff.mp asks
  cases body with
  | object fields =>
    cases metadata with
    | object own => exact ⟨fields, own, rfl, there⟩
    | _ => cases asks
  | _ => cases there

/-- An object says that this is its name. -/
def Json.IsNamed (v : Json) (name : Given) : Prop := Workload.name v = .ok (.text name.val)

/-! ## Actions and replies -/

/-- Something to be done to a registry. -/
inductive Action (P : Type) where
  | create (place : P) (body : Json)
  | get (place : P) (name : Given)
  | list (place : P)
  | delete (place : P) (name : Given)

namespace Action

variable {P Q : Type}

/-- The same with other places. -/
def map (f : P → Q) : Action P → Action Q
  | .create place body => .create (f place) body
  | .get place name => .get (f place) name
  | .list place => .list (f place)
  | .delete place name => .delete (f place) name

/-- What is to be created asks for a name. -/
def IsProper : Action P → Prop
  | .create _ body => body.naming?.isSome = true
  | _ => True

/-- Other collections make no action improper, since it is the name that must be given. -/
theorem IsProper.map {f : P → Q} {a : Action P} (proper : a.IsProper) :
    (a.map f).IsProper := by
  cases a with
  | create place body => exact proper
  | _ => trivial

/-- The action creates an object under the name, if this is the object that it ends with. -/
def Names (a : Action P) (v : Json) (place : P) (name : Given) : Prop :=
  match a with
  | .create other _ => other = place ∧ v.IsNamed name
  | _ => False

end Action

/-- What is replied to an action. -/
inductive Reply where
  | object (v : Json)
  | objects (vs : List Json)
  | done
  /-- The name is taken. -/
  | conflict
  | missing

/-- What holds objects, each under a name at a place. -/
abbrev Registry (P : Type) : Type := P → Given → Option Json

namespace Registry

variable {P Q : Type}

/-- The registry seen through another way to tell places. -/
def through (m : Registry Q) (f : P → Q) : Registry P := fun place => m (f place)

variable [DecidableEq P] [DecidableEq Q]

/-- The registry with something else, or nothing, under one name. -/
def set (m : Registry P) (place : P) (name : Given) (held : Option Json) : Registry P :=
  fun other own => if other = place ∧ own = name then held else m other own

/-- What was set is what is held. -/
@[simp] theorem set_self (m : Registry P) (place : P) (name : Given) (held : Option Json) :
    m.set place name held place name = held := if_pos ⟨rfl, rfl⟩

/-- What is held elsewhere, or under another name, stays. -/
theorem set_of_ne (m : Registry P) {place other : P} {name own : Given} (held : Option Json)
    (different : ¬(other = place ∧ own = name)) : m.set place name held other own = m other own :=
  if_neg different

/-- An entry can be set through any naming of the collections that confuses no two of them. -/
theorem through_set {f : P → Q} (injective : ∀ p q, f p = f q → p = q) (m : Registry Q) (place : P)
    (name : Given) (held : Option Json) :
    (m.set (f place) name held).through f = (m.through f).set place name held := by
  funext other own
  by_cases same : other = place
  · subst same
    simp only [through, set, true_and]
  · have different : f other ≠ f place := same ∘ injective other place
    simp only [through, set, same, different, false_and, if_false]

/-! ## Steps -/

/-- What may be held for a body under a name. -/
abbrev Keeping : Type := Json → Given → Json → Prop

/-- What is held under a name says so. -/
def Keeping.Named (keeping : Keeping) : Prop :=
  ∀ body name v, body.naming?.isSome = true → keeping body name v → v.IsNamed name

variable {keeping : Keeping}

/-- What can be done to a registry, what is replied, and what it holds then. -/
inductive Step (keeping : Keeping) : Registry P → Action P → Reply → Registry P → Prop where
  | created {m : Registry P} {place : P} {body v : Json} {naming : Naming} {name : Given} :
      body.naming? = some naming → naming.Allows name → m place name = none → keeping body name v →
      Step keeping m (.create place body) (.object v) (m.set place name (some v))
  | taken {m : Registry P} {place : P} {body v : Json} {name : Given} :
      body.naming? = some (.own name) → m place name = some v →
      Step keeping m (.create place body) .conflict m
  | got {m : Registry P} {place : P} {name : Given} {v : Json} : m place name = some v →
      Step keeping m (.get place name) (.object v) m
  | notThere {m : Registry P} {place : P} {name : Given} : m place name = none →
      Step keeping m (.get place name) .missing m
  /-- A list has the objects of a place, one for each name in use. -/
  | listed {m : Registry P} {place : P} {names : List Given} {vs : List Json} : names.Nodup →
      List.Forall₂ (fun name v => m place name = some v) names vs →
      (∀ name v, m place name = some v → name ∈ names) →
      Step keeping m (.list place) (.objects vs) m
  | deleted {m : Registry P} {place : P} {name : Given} {v : Json} : m place name = some v →
      Step keeping m (.delete place name) .done (m.set place name none)
  | alreadyGone {m : Registry P} {place : P} {name : Given} : m place name = none →
      Step keeping m (.delete place name) .missing m

namespace Step

variable {m m' : Registry P} {a : Action P} {reply : Reply} {place : P} {name : Given}

/-- A step is a step for all who can tell the places apart. -/
theorem comap {f : P → Q} (injective : ∀ p q, f p = f q → p = q) {m m' : Registry Q}
    (step : Step keeping m (a.map f) reply m') :
    Step keeping (m.through f) a reply (m'.through f) := by
  cases a with
  | create place body =>
    cases step with
    | created asks allowed free kept =>
      rw [through_set injective]
      exact .created asks allowed free kept
    | taken asks there => exact .taken asks there
  | get place name =>
    cases step with
    | got there => exact .got there
    | notThere free => exact .notThere free
  | list place =>
    cases step with
    | listed different each all => exact .listed different each all
  | delete place name =>
    cases step with
    | deleted there =>
      rw [through_set injective]
      exact .deleted there
    | alreadyGone free => exact .alreadyGone free

/-- What is held stays, unless it is deleted: nothing is created in its place. -/
theorem live {v : Json} (step : Step keeping m a reply m') (there : m place name = some v)
    (kept : a ≠ .delete place name) : m' place name = some v := by
  cases step with
  | created asks allowed free =>
    refine (set_of_ne _ _ fun same => ?_).trans there
    rw [same.1, same.2, free] at there
    cases there
  | deleted held =>
    refine (set_of_ne _ _ fun same => kept ?_).trans there
    rw [same.1, same.2]
  | _ => exact there

/-- A free name stays free, unless an object is created under it. -/
theorem free (named : keeping.Named) (step : Step keeping m a reply m') (free : m place name = none)
    (other : ∀ v, reply = .object v → ¬a.Names v place name) : m' place name = none := by
  cases step with
  | created asks allowed unused kept =>
    refine (set_of_ne _ _ fun same => ?_).trans free
    have asking := Option.isSome_iff_exists.mpr ⟨_, asks⟩
    refine other _ rfl ⟨same.1.symm, ?_⟩
    rw [same.2]
    exact named _ _ _ asking kept
  | deleted held =>
    unfold set
    split
    · rfl
    · exact free
  | _ => exact free

/-- A creation has a name for what it ends with, the one that was asked for if there was one. -/
theorem exists_name (named : keeping.Named) {body v : Json}
    (step : Step keeping m (.create place body) (.object v) m') :
    ∃ name, v.IsNamed name ∧ (∀ asked, body.naming? = some (.own asked) → name = asked) ∧
      m' place name = some v := by
  cases step with
  | created asks allowed free kept =>
    have asking := Option.isSome_iff_exists.mpr ⟨_, asks⟩
    refine ⟨_, named _ _ _ asking kept, fun asked own => ?_, set_self ..⟩
    cases asks.symm.trans own
    exact allowed

/-- What is held is replied, and what is not held is missing. -/
theorem of_get (step : Step keeping m (.get place name) reply m') :
    (∃ v, m place name = some v ∧ reply = .object v) ∨
      (m place name = none ∧ reply = .missing) := by
  cases step with
  | got there => exact .inl ⟨_, there, rfl⟩
  | notThere free => exact .inr ⟨free, rfl⟩

/-- What is deleted is not there, whether or not it was. -/
theorem gone (step : Step keeping m (.delete place name) reply m') : m' place name = none := by
  cases step with
  | deleted held => exact set_self ..
  | alreadyGone free => exact free

/-- A list has what is held at a place, each object once. -/
theorem exists_names (step : Step keeping m (.list place) reply m') : ∃ names vs,
    reply = .objects vs ∧ names.Nodup ∧
      List.Forall₂ (fun name v => m place name = some v) names vs ∧
      ∀ name v, m place name = some v → name ∈ names := by
  cases step with
  | listed different each all => exact ⟨_, _, rfl, different, each, all⟩

end Step

/-! ## Runs -/

/-- Actions done one after the other, each with its reply. -/
inductive Runs (keeping : Keeping) : Registry P → List (Action P × Reply) → Registry P → Prop where
  | nil (m : Registry P) : Runs keeping m [] m
  | cons {m m₁ m' : Registry P} {a : Action P} {reply : Reply} {rest : List (Action P × Reply)} :
      Step keeping m a reply m₁ → Runs keeping m₁ rest m' → Runs keeping m ((a, reply) :: rest) m'

namespace Runs

variable {m m' : Registry P} {history : List (Action P × Reply)} {place : P} {name : Given}

/-- What is held and never deleted is held at the end, as it was. -/
theorem live {v : Json} (runs : Runs keeping m history m') (there : m place name = some v)
    (kept : ∀ e ∈ history, e.1 ≠ .delete place name) : m' place name = some v := by
  induction runs with
  | nil m => exact there
  | cons step rest ih =>
    have still := step.live there (kept _ List.mem_cons_self)
    exact ih still fun e member => kept e (List.mem_cons_of_mem _ member)

/-- A name that is free stays free until an object of that name is created. -/
theorem free (named : keeping.Named) (runs : Runs keeping m history m') (free : m place name = none)
    (other : ∀ e ∈ history, ∀ v, e.2 = .object v → ¬e.1.Names v place name) :
    m' place name = none := by
  induction runs with
  | nil m => exact free
  | cons step rest ih =>
    have still := step.free named free (other _ List.mem_cons_self)
    exact ih still fun e member => other e (List.mem_cons_of_mem _ member)

/-- What is neither created nor deleted is as it was. -/
theorem frame (named : keeping.Named) (runs : Runs keeping m history m')
    (kept : ∀ e ∈ history, e.1 ≠ .delete place name)
    (other : ∀ e ∈ history, ∀ v, e.2 = .object v → ¬e.1.Names v place name) :
    m' place name = m place name := by
  cases there : m place name with
  | some v => exact runs.live there kept
  | none => exact runs.free named there other

end Runs

end Registry

end TrialRun
