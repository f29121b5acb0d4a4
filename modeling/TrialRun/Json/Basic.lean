import TrialRun.Number
import TrialRun.Text.Surrogates

/-!
# JSON values

The values that requests, replies and configuration files are made of.  The fields of an object have
no order of their own: they are kept sorted by name, each name once, so that equal objects are equal
lists.  `Json.ofFields` brings any list of fields into this form.
-/

set_option autoImplicit false

namespace TrialRun

/-- A JSON value.  Objects made by `Json.ofFields` list their fields in ascending order of name. -/
inductive Json where
  | null
  | bool (b : Bool)
  | number (n : Number)
  | text (s : String)
  /-- A text with halves of surrogate pairs that have no partner, by its code points. -/
  | brokenText (codes : List Nat)
  | list (items : List Json)
  | object (fields : List (String × Json))
  deriving Inhabited

namespace Json

instance : Coe String Json := ⟨.text⟩

def int (n : Int) : Json := .number (.int n)

/-- A text that may be missing. -/
def textOrNull : Option String → Json
  | some s => .text s
  | none => .null

/-- The text with these code points. -/
def ofCodePoints (codes : List Nat) : Json :=
  if codes.any Text.isHalf then .brokenText codes
  else .text (String.ofList (Text.ofCodePoints codes))

/-! ## Fields -/

/-- Puts a field in its place; a field of the same name gives way to it. -/
def insertField (name : String) (value : Json) : List (String × Json) → List (String × Json)
  | [] => [(name, value)]
  | (other, old) :: rest =>
    if name < other then (name, value) :: (other, old) :: rest
    else if name = other then (name, value) :: rest
    else (other, old) :: insertField name value rest

/-- The object with these fields; of two fields of one name the later one holds. -/
def ofFields (fields : List (String × Json)) : Json :=
  .object (fields.foldl (fun sorted f => insertField f.1 f.2 sorted) [])

/-- The value of the field of that name in a list of fields. -/
def lookup (name : String) : List (String × Json) → Option Json
  | [] => none
  | (other, value) :: rest => if name = other then some value else lookup name rest

def removeField (name : String) (fields : List (String × Json)) : List (String × Json) :=
  fields.filter (fun f => f.1 ≠ name)

/-- Gives the field of that name another value, where there is one. -/
def replaceField (name : String) (value : Json) : List (String × Json) → List (String × Json)
  | [] => []
  | (other, old) :: rest =>
    if name = other then (name, value) :: rest else (other, old) :: replaceField name value rest

/-- A field that was just put in is found. -/
theorem lookup_insertField_self (name : String) (value : Json) (fields : List (String × Json)) :
    lookup name (insertField name value fields) = some value := by
  induction fields with
  | nil => simp [insertField, lookup]
  | cons f rest ih =>
    obtain ⟨other, old⟩ := f
    simp only [insertField]
    split
    · simp [lookup]
    · split
      · simp [lookup]
      · rename_i h; simp [lookup, h, ih]

/-- Putting a field in leaves the others as they were. -/
theorem lookup_insertField_of_ne {name wanted : String} (value : Json)
    (fields : List (String × Json)) (h : wanted ≠ name) :
    lookup wanted (insertField name value fields) = lookup wanted fields := by
  induction fields with
  | nil => simp [insertField, lookup, h]
  | cons f rest ih =>
    obtain ⟨other, old⟩ := f
    simp only [insertField]
    split
    · simp [lookup, h]
    · split
      · rename_i e; subst e; simp [lookup, h]
      · simp [lookup, ih]

/-- A field that was removed is not found. -/
theorem lookup_removeField_self (name : String) (fields : List (String × Json)) :
    lookup name (removeField name fields) = none := by
  induction fields with
  | nil => rfl
  | cons f rest ih =>
    by_cases h : f.1 = name
    · simpa [removeField, h] using ih
    · have : name ≠ f.1 := fun e => h e.symm
      simpa [removeField, h, lookup, this] using ih

/-- Removing a field leaves the others as they were. -/
theorem lookup_removeField_of_ne {name wanted : String} (fields : List (String × Json))
    (h : wanted ≠ name) : lookup wanted (removeField name fields) = lookup wanted fields := by
  induction fields with
  | nil => rfl
  | cons f rest ih =>
    by_cases same : f.1 = name
    · have other : wanted ≠ f.1 := fun e => h (e.trans same)
      simpa [removeField, same, lookup, other, h] using ih
    · simp only [removeField, ne_eq, decide_not] at ih
      simp [removeField, same, lookup, ih]

/-- A field that is there has the value it was given. -/
theorem lookup_replaceField_self {name : String} (value : Json) {fields : List (String × Json)}
    (h : (lookup name fields).isSome) :
    lookup name (replaceField name value fields) = some value := by
  induction fields with
  | nil => simp [lookup] at h
  | cons f rest ih =>
    obtain ⟨other, old⟩ := f
    rw [replaceField]
    split
    · simp [lookup]
    · rename_i ne
      rw [lookup, if_neg ne] at h ⊢
      exact ih h

/-- Giving a field another value leaves the others as they were. -/
theorem lookup_replaceField_of_ne {name wanted : String} (value : Json)
    (fields : List (String × Json)) (h : wanted ≠ name) :
    lookup wanted (replaceField name value fields) = lookup wanted fields := by
  induction fields with
  | nil => rfl
  | cons f rest ih =>
    obtain ⟨other, old⟩ := f
    rw [replaceField]
    split
    · rename_i e; subst e; simp [lookup, h]
    · simp [lookup, ih]

/-- A field that has the value already is left as it is. -/
theorem replaceField_eq_self {name : String} {value : Json} {fields : List (String × Json)}
    (h : lookup name fields = some value) : replaceField name value fields = fields := by
  induction fields with
  | nil => rfl
  | cons f rest ih =>
    obtain ⟨other, old⟩ := f
    rw [lookup] at h
    rw [replaceField]
    split
    · rename_i e
      rw [if_pos e] at h
      rw [e, Option.some.inj h]
    · rename_i ne
      rw [if_neg ne] at h
      rw [ih h]

/-- The value of a field; `none` also for what is no object. -/
def field? (name : String) : Json → Option Json
  | .object fields => lookup name fields
  | _ => none

/-! ## Truth -/

/-- Whether a value counts as given: all values do but `null`, `false`, zero and what is empty. -/
def isGiven : Json → Bool
  | .null => false
  | .bool b => b
  | .number n => !n.isZero
  | .text s => s ≠ ""
  | .brokenText codes => !codes.isEmpty
  | .list items => !items.isEmpty
  | .object fields => !fields.isEmpty

/-- The value, or the other one if this one is not given. -/
def orElse (v other : Json) : Json := if v.isGiven then v else other

/-! ## Equality -/

/-- What a value counts for where numbers are expected: the truth values are one and zero. -/
def asNumber? : Json → Option Number
  | .bool b => some (.int (if b then 1 else 0))
  | .number n => some n
  | _ => none

/-- Whether the value is the one that is no number. -/
def isNaN : Json → Bool
  | .number (.double x) => x.isNaN
  | _ => false

mutual

/-- Whether two values are equal: numbers by what they are worth, whatever their kind, and the truth
values as one and zero.  What is no number differs from itself, but not as a part of other
values. -/
def agrees : Json → Json → Bool
  | .null, .null => true
  | .text a, .text b => a == b
  | .brokenText a, .brokenText b => a == b
  | .list a, .list b => agreesList a b
  | .object a, .object b => agreesFields a b
  | a, b =>
    match a.asNumber?, b.asNumber? with
    | some x, some y => x.same y
    | _, _ => false

/-- Lists agree item by item. -/
def agreesList : List Json → List Json → Bool
  | [], [] => true
  | a :: as, b :: bs => ((a.isNaN && b.isNaN) || agrees a b) && agreesList as bs
  | _, _ => false

/-- Objects agree field by field. -/
def agreesFields : List (String × Json) → List (String × Json) → Bool
  | [], [] => true
  | (m, a) :: as, (n, b) :: bs =>
    m == n && ((a.isNaN && b.isNaN) || agrees a b) && agreesFields as bs
  | _, _ => false

end

end Json

end TrialRun
