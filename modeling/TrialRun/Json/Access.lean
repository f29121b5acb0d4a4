import TrialRun.Fault

/-!
# Taking values apart

Replies are taken apart without looking at their shape first: asking a value for a part it cannot
have is a fault, and its kind tells what was wrong.
-/

set_option autoImplicit false

namespace TrialRun.Json

/-- The value of an optional field: `fallback` when the object has none.  What is no object has no
fields to ask for. -/
def get (v : Json) (name : String) (fallback : Json := .null) : Except Fault Json :=
  match v with
  | .object fields => .ok ((lookup name fields).getD fallback)
  | v => .error (.noAttribute v "get")

/-- What comes of taking a field away from what is no object. -/
def cannotPop : Json → Fault
  | .list _ => .plain .badType "pop expected at most 1 argument, got 2"
  | v => .noAttribute v "pop"

/-- The value of a field that has to be there. -/
def field (v : Json) (name : String) : Except Fault Json :=
  match v with
  | .object fields =>
    match lookup name fields with
    | some value => .ok value
    | none => .error (.missingKey (.text name))
  | .list _ => .error (.plain .badType "list indices must be integers or slices, not str")
  | .text _ | .brokenText _ =>
    .error (.plain .badType "string indices must be integers, not 'str'")
  | v => .error (.notSubscriptable v)

/-- The item at a position.  An object is asked for a field, and its fields have no numbers. -/
def item (v : Json) (position : Nat) : Except Fault Json :=
  match v with
  | .list items =>
    match items[position]? with
    | some value => .ok value
    | none => .error (.outOfRange "list")
  | .text s =>
    match s.toList[position]? with
    | some c => .ok (.text (String.singleton c))
    | none => .error (.outOfRange "string")
  | .brokenText codes =>
    match codes[position]? with
    | some code => .ok (ofCodePoints [code])
    | none => .error (.outOfRange "string")
  | .object _ => .error (.missingKey (.int position))
  | v => .error (.notSubscriptable v)

/-- The number of items, fields or characters. -/
def size (v : Json) : Except Fault Nat :=
  match v with
  | .list items => .ok items.length
  | .object fields => .ok fields.length
  | .text s => .ok s.length
  | .brokenText codes => .ok codes.length
  | v => .error (.plain .badType s!"object of type '{v.kindName}' has no len()")

/-- What a walk over the value meets: the items of a list, the names of an object's fields, the
characters of a text. -/
def elements (v : Json) : Except Fault (List Json) :=
  match v with
  | .list items => .ok items
  | .object fields => .ok (fields.map fun f => .text f.1)
  | .text s => .ok (s.toList.map fun c => .text (String.singleton c))
  | .brokenText codes => .ok (codes.map fun code => ofCodePoints [code])
  | v => .error (.plain .badType s!"'{v.kindName}' object is not iterable")

/-- Whether the value is one of some texts.  Lists and objects cannot be looked up. -/
def isOneOf (v : Json) (texts : List String) : Except Fault Bool :=
  match v with
  | .text s => .ok (texts.contains s)
  | .list _ => .error (.plain .badType "unhashable type: 'list'")
  | .object _ => .error (.plain .badType "unhashable type: 'dict'")
  | _ => .ok false

end TrialRun.Json
