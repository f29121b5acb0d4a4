import TrialRun.Json.Access

/-!
# Paths into a value

A path leads from a value to one of its parts, through fields and items.  Here is what it means that
a value lacks the part at one path and is the same everywhere else (`Json.IsWithout`).
-/

set_option autoImplicit false

namespace TrialRun.Json

/-- A step from a value to one of its parts. -/
inductive Key where
  | field (name : String)
  | item (position : Nat)

/-- The part that a path leads to. -/
def follow? : List Key → Json → Option Json
  | [], v => some v
  | .field name :: path, .object fields => (lookup name fields).bind (follow? path)
  | .item position :: path, .list items => items[position]?.bind (follow? path)
  | _ :: _, _ => none

theorem follow?_field (name : String) (path : List Key) (v : Json) :
    follow? (.field name :: path) v = (v.field? name).bind (follow? path) := by
  cases v <;> rfl

/-- A field is followed in an object that has it. -/
theorem follow?_field_eq_some_iff {name : String} {path : List Key} {v part : Json} :
    follow? (.field name :: path) v = some part ↔
      ∃ fields inner, v = .object fields ∧ lookup name fields = some inner ∧
        follow? path inner = some part := by
  constructor
  · intro found
    cases v with
    | object fields =>
      obtain ⟨inner, there, found⟩ := Option.bind_eq_some_iff.mp found
      exact ⟨fields, inner, rfl, there, found⟩
    | _ => cases found
  · rintro ⟨fields, inner, rfl, there, found⟩
    rw [follow?, there]
    exact found

theorem field_eq_ok_iff {name : String} {v part : Json} :
    v.field name = .ok part ↔ follow? [.field name] v = some part := by
  rw [follow?_field_eq_some_iff]
  constructor
  · intro found
    cases v with
    | object fields =>
      rw [field] at found
      split at found
      · rename_i value there
        exact ⟨fields, value, rfl, there, congrArg some (Except.ok.inj found)⟩
      · cases found
    | _ => cases found
  · rintro ⟨fields, inner, rfl, there, ⟨⟩⟩
    simp only [field, there]

/-- The value on its own: a list and an object without their parts. -/
def bare : Json → Json
  | .list _ => .list []
  | .object _ => .object []
  | v => v

/-- The value `rest` lacks what is at a path in `v`, and is the same at every depth elsewhere. -/
structure IsWithout (path : List Key) (v rest : Json) : Prop where
  absent : ∀ p, path <+: p → follow? p rest = none
  /-- On the way to the path lists stay lists and objects stay objects. -/
  along : ∀ p, p <+: path → p ≠ path → (follow? p rest).map bare = (follow? p v).map bare
  /-- Apart from that all parts are the same. -/
  apart : ∀ p, ¬ p <+: path → ¬ path <+: p → follow? p rest = follow? p v

variable {path : List Key} {v rest : Json} {name : String} {fields : List (String × Json)}

/-- An object without one of its fields. -/
theorem isWithout_removeField (name : String) (fields : List (String × Json)) :
    IsWithout [.field name] (.object fields) (.object (removeField name fields)) where
  absent := by
    rintro _ ⟨below, rfl⟩
    rw [List.singleton_append, follow?, lookup_removeField_self]
    rfl
  along p onWay short := by
    cases p with
    | nil => rfl
    | cons key p =>
      obtain ⟨rfl, atEnd⟩ := List.cons_prefix_cons.mp onWay
      exact absurd (congrArg _ (List.prefix_nil.mp atEnd)) short
  apart p off beyond := by
    cases p with
    | nil => exact absurd List.nil_prefix off
    | cons key p =>
      cases key with
      | item position => rfl
      | field wanted =>
        have other : wanted ≠ name := by
          rintro rfl
          exact beyond (List.cons_prefix_cons.mpr ⟨rfl, List.nil_prefix⟩)
        rw [follow?, follow?, lookup_removeField_of_ne fields other]

/-- An object lacks what one of its fields lacks. -/
theorem IsWithout.within (without : IsWithout path v rest) (found : lookup name fields = some v) :
    IsWithout (.field name :: path) (.object fields) (.object (replaceField name rest fields)) := by
  have replaced := lookup_replaceField_self rest (Option.isSome_of_eq_some found)
  refine ⟨?absent, ?along, ?apart⟩
  case absent =>
    rintro _ ⟨below, rfl⟩
    rw [List.cons_append, follow?, replaced]
    exact without.absent _ (List.prefix_append _ _)
  case along =>
    intro p onWay short
    cases p with
    | nil => rfl
    | cons key p =>
      obtain ⟨rfl, inner⟩ := List.cons_prefix_cons.mp onWay
      rw [follow?, follow?, found, replaced]
      exact without.along p inner fun same => short (congrArg _ same)
  case apart =>
    intro p off beyond
    cases p with
    | nil => exact absurd List.nil_prefix off
    | cons key p =>
      cases key with
      | item position => rfl
      | field wanted =>
        rw [follow?, follow?]
        by_cases same : wanted = name
        · subst same
          rw [found, replaced]
          exact without.apart p (fun inner => off (List.cons_prefix_cons.mpr ⟨rfl, inner⟩))
            fun inner => beyond (List.cons_prefix_cons.mpr ⟨rfl, inner⟩)
        · rw [lookup_replaceField_of_ne rest fields same]

end TrialRun.Json
