import TrialRun.Json.Access

/-!
# Values in memory

A list or an object is kept in memory, at a place of its own, and others hold it by this place.
What is changed there is changed for all of them, but for nobody who holds a copy.
-/

set_option autoImplicit false

namespace TrialRun

/-- Whether the value is made of others. -/
def Json.hasParts : Json → Bool
  | .list _ | .object _ => true
  | _ => false

/-- A value as others hold it. -/
inductive Held where
  /-- The value itself, as it has no parts that could change. -/
  | plain (v : Json) (whole : v.hasParts = false)
  /-- What is kept at a place. -/
  | kept (place : Nat)

/-- A list or an object in memory. -/
inductive Cell where
  | list (items : List Held)
  | object (fields : List (String × Held))

/-- The lists and objects that there are, the latest first.  The place of each is the number of
those before it, and its parts are among these. -/
abbrev Memory := List Cell

/-! ## Reading -/

/-- The value of a cell, by the values of its parts. -/
def Cell.value (read : Held → Json) : Cell → Json
  | .list items => .list (items.map read)
  | .object fields => .object (fields.map fun f => (f.1, read f.2))

def Cell.fields? : Cell → Option (List (String × Held))
  | .list _ => none
  | .object fields => some fields

namespace Memory

/-- The value that is held. -/
def read : Memory → Held → Json
  | _, .plain v _ => v
  | [], .kept _ => .null
  | cell :: older, .kept place =>
    if place = older.length then cell.value (read older) else read older (.kept place)

/-- The fields of what is held; `none` if it is no object. -/
def fields? : Memory → Held → Option (List (String × Held))
  | _, .plain _ _ => none
  | [], .kept _ => none
  | cell :: older, .kept place =>
    if place = older.length then cell.fields? else fields? older (.kept place)

/-! ## Writing -/

/-- Puts a cell in the place of another one. -/
def put (place : Nat) (new : Cell) : Memory → Memory
  | [] => []
  | cell :: older => if place = older.length then new :: older else cell :: put place new older

mutual

/-- The new cells for a value, on top of so many others, and how the value is held then. -/
def layOut (n : Nat) : Json → Held × Memory
  | .list items =>
    let parts := layOutItems n items
    (.kept (n + parts.2.length), .list parts.1 :: parts.2)
  | .object fields =>
    let parts := layOutFields n fields
    (.kept (n + parts.2.length), .object parts.1 :: parts.2)
  | .null => (.plain .null rfl, [])
  | .bool b => (.plain (.bool b) rfl, [])
  | .number x => (.plain (.number x) rfl, [])
  | .text s => (.plain (.text s) rfl, [])
  | .brokenText codes => (.plain (.brokenText codes) rfl, [])

/-- The items of a list are laid out one on top of the other. -/
def layOutItems (n : Nat) : List Json → List Held × Memory
  | [] => ([], [])
  | v :: rest =>
    let first := layOut n v
    let others := layOutItems (n + first.2.length) rest
    (first.1 :: others.1, others.2 ++ first.2)

/-- So are the fields of an object. -/
def layOutFields (n : Nat) : List (String × Json) → List (String × Held) × Memory
  | [] => ([], [])
  | (name, v) :: rest =>
    let first := layOut n v
    let others := layOutFields (n + first.2.length) rest
    ((name, first.1) :: others.1, others.2 ++ first.2)

end

/-- Lays a value out on top of a memory. -/
def lay (m : Memory) (v : Json) : Held × Memory :=
  ((layOut m.length v).1, (layOut m.length v).2 ++ m)

end Memory

/-! ## Copying -/

/-- What is held after everything has moved up by so many places. -/
def Held.up (n : Nat) : Held → Held
  | .plain v whole => .plain v whole
  | .kept place => .kept (place + n)

def Cell.up (n : Nat) : Cell → Cell
  | .list items => .list (items.map (·.up n))
  | .object fields => .object (fields.map fun f => (f.1, f.2.up n))

/-- The memory with a copy of all that is kept on top of it.  A copy holds copies, and what was
shared has one copy, which is shared too.  Copies that nobody comes to hold make no difference. -/
def Memory.twice (m : Memory) : Memory := m.map (·.up m.length) ++ m

/-! ## Working in memory -/

/-- Something done in a memory, with its value or its fault.  What was done before a fault is not
undone. -/
abbrev InMemory := ExceptT Fault (StateM Memory)

namespace InMemory

/-- How it ends, and the memory then. -/
def run {α : Type} (a : InMemory α) (m : Memory) : Except Fault α × Memory :=
  StateT.run (ExceptT.run a) m

/-- Makes a new object without fields. -/
def empty : InMemory Held := do
  let m ← get
  set (.object [] :: m : Memory)
  pure (.kept m.length)

/-- Makes a copy of a value and of all its parts, however deep they lie.  A copy has no bound on the
depth of nesting, as reading a text has (`Json.Reader.nestingLimit`) and making directories
(`Act.missingLimit`): that values too deep to be copied at all are refused is left out. -/
def copy (h : Held) : InMemory Held := do
  let m ← get
  set m.twice
  pure (h.up m.length)

/-- What a field holds, or the fallback if the object has no such field. -/
def getField (h : Held) (name : String) (fallback : Held) : InMemory Held := do
  let m ← get
  match m.fields? h with
  | some fields => pure ((fields.lookup name).getD fallback)
  | none => throw (.noAttribute (m.read h) "get")

/-- Takes a field away from an object, if it is there. -/
def popField (h : Held) (name : String) : InMemory Unit := do
  let m ← get
  match h, m.fields? h with
  | .kept place, some fields => set (m.put place (.object (fields.filter fun f => f.1 ≠ name)))
  | _, _ => throw (m.read h).cannotPop

end InMemory

end TrialRun
