import TrialRun.Json.Basic

/-!
# The fields of an object

An object sorts the fields that it is made of.  As long as their names differ nothing is lost by
that: a name is looked up in the object as it is in the list (`field?_ofFields`).
-/

set_option autoImplicit false

namespace TrialRun.Json

variable {name : String} {value : Json} {f : String × Json} {fields : List (String × Json)}

/-- A field of the result is the one that was put in, or an old one. -/
theorem mem_insertField (inside : f ∈ insertField name value fields) :
    f = (name, value) ∨ f ∈ fields := by
  induction fields with
  | nil => exact .inl (List.mem_singleton.mp inside)
  | cons g rest ih =>
    rw [insertField] at inside
    split at inside
    · exact List.mem_cons.mp inside
    · split at inside
      · exact (List.mem_cons.mp inside).imp id (List.mem_cons_of_mem _)
      · rcases List.mem_cons.mp inside with head | later
        · exact .inr (head ▸ List.mem_cons_self)
        · exact (ih later).imp id (List.mem_cons_of_mem _)

/-- Every field of an object is one of those it is made of. -/
theorem mem_of_mem_sorted {sorted : List (String × Json)}
    (inside : f ∈ fields.foldl (fun sorted f => insertField f.1 f.2 sorted) sorted) :
    f ∈ fields ∨ f ∈ sorted := by
  induction fields generalizing sorted with
  | nil => exact .inr inside
  | cons g rest ih =>
    rcases ih inside with later | earlier
    · exact .inl (List.mem_cons_of_mem _ later)
    · rcases mem_insertField earlier with same | earlier
      · exact .inl (same ▸ List.mem_cons_self)
      · exact .inr earlier

theorem lookup_eq_none (other : name ∉ fields.map Prod.fst) : lookup name fields = none := by
  induction fields with
  | nil => rfl
  | cons g rest ih =>
    rw [List.map_cons, List.mem_cons, not_or] at other
    rw [lookup, if_neg other.1, ih other.2]

/-- Fields of different names are found where they are sorted in, and so is what was there. -/
theorem lookup_sorted (nodup : (fields.map Prod.fst).Nodup) (sorted : List (String × Json)) :
    lookup name (fields.foldl (fun sorted f => insertField f.1 f.2 sorted) sorted) =
      (lookup name fields).or (lookup name sorted) := by
  induction fields generalizing sorted with
  | nil => rfl
  | cons g rest ih =>
    obtain ⟨fresh, nodup⟩ := List.nodup_cons.mp nodup
    rw [List.foldl_cons, ih nodup, lookup]
    by_cases same : name = g.1
    · subst same
      rw [lookup_eq_none fresh, lookup_insertField_self, if_pos rfl]
      rfl
    · rw [lookup_insertField_of_ne _ _ same, if_neg same]

/-- An object made of fields of different names has each of them. -/
theorem field?_ofFields (nodup : (fields.map Prod.fst).Nodup) (name : String) :
    (ofFields fields).field? name = lookup name fields := by
  rw [ofFields, field?, lookup_sorted nodup]
  exact Option.or_none

end TrialRun.Json
