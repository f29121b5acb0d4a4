import Mathlib.Data.List.Forall2
import TrialRun.Json.Memory

/-!
# What memory holds

What is held stays the same as long as memory only grows (`Memory.Holds`).  A value that is laid out
reads as itself (`Memory.holds_lay`), its copy is the same value laid out higher up
(`Memory.exists_twice_lay`), and a change to one field of it is a change to that field only
(`Memory.exists_lay_object`), as its parts share nothing.
-/

set_option autoImplicit false

namespace TrialRun

namespace Memory

variable {m : Memory} {n : Nat} {h : Held} {v : Json}

/-! ## Places -/

/-- The place of a cell is below the length of the memory above it. -/
theorem length_ne (later : Memory) (cell : Cell) (older : Memory) :
    older.length ≠ (later ++ cell :: older).length := by
  simp only [List.length_append, List.length_cons]
  omega

/-- What has no parts is held as it is. -/
theorem read_plain (m : Memory) (v : Json) (whole : v.hasParts = false) :
    read m (.plain v whole) = v := by
  cases m <;> rfl

/-- What is kept on top of something else is read from there. -/
theorem read_kept (later : Memory) (cell : Cell) (older : Memory) :
    read (later ++ cell :: older) (.kept older.length) = cell.value (read older) := by
  induction later with
  | nil => exact if_pos rfl
  | cons newer later ih =>
    exact (if_neg (length_ne later cell older)).trans ih

/-- The fields of a cell are found at its place, whatever came later. -/
theorem fields?_kept (later : Memory) (cell : Cell) (older : Memory) :
    fields? (later ++ cell :: older) (.kept older.length) = cell.fields? := by
  induction later with
  | nil => exact if_pos rfl
  | cons newer later ih =>
    exact (if_neg (length_ne later cell older)).trans ih

/-- What has no parts has no fields. -/
theorem fields?_plain (m : Memory) (v : Json) (whole : v.hasParts = false) :
    fields? m (.plain v whole) = none := by
  cases m <;> rfl

/-- A cell is replaced at its place, and all else stays. -/
theorem put_kept (later : Memory) (old new : Cell) (older : Memory) :
    put older.length new (later ++ old :: older) = later ++ new :: older := by
  induction later with
  | nil => exact if_pos rfl
  | cons newer later ih =>
    exact (if_neg (length_ne later old older)).trans (congrArg (newer :: ·) ih)

/-! ## Growing memory -/

/-- The value is held so, however memory grows. -/
def Holds (m : Memory) (h : Held) (v : Json) : Prop := ∀ later : Memory, read (later ++ m) h = v

/-- The items are held so, however memory grows. -/
def HoldsItems (m : Memory) (held : List Held) (items : List Json) : Prop :=
  List.Forall₂ (Holds m) held items

/-- The fields are held so, however memory grows. -/
def HoldsFields (m : Memory) (held : List (String × Held)) (fields : List (String × Json)) : Prop :=
  List.Forall₂ (fun f g => f.1 = g.1 ∧ Holds m f.2 g.2) held fields

/-- More memory on top changes nothing. -/
theorem Holds.grow (holds : Holds m h v) (new : Memory) : Holds (new ++ m) h v := fun later => by
  rw [← List.append_assoc]
  exact holds (later ++ new)

/-- What is held is read at once. -/
theorem Holds.read (holds : Holds m h v) : Memory.read m h = v := holds []

/-- What is held is read from any memory that has grown since. -/
theorem Holds.of_suffix (holds : Holds m h v) {larger : Memory} (kept : m <:+ larger) :
    Memory.read larger h = v := by
  obtain ⟨later, rfl⟩ := kept
  exact holds later

/-- A list is held once its items are. -/
theorem HoldsItems.holds {held : List Held} {items : List Json} (parts : HoldsItems m held items) :
    Holds (.list held :: m) (.kept m.length) (.list items) := by
  have values : held.map (Memory.read m) = items := by
    induction parts with
    | nil => rfl
    | cons first _ ih => rw [List.map_cons, ih, first.read]
  intro later
  rw [read_kept, Cell.value, values]

/-- An object is held once its fields are. -/
theorem HoldsFields.holds {held : List (String × Held)} {fields : List (String × Json)}
    (parts : HoldsFields m held fields) :
    Holds (.object held :: m) (.kept m.length) (.object fields) := by
  have values : (held.map fun f => (f.1, Memory.read m f.2)) = fields := by
    induction parts with
    | nil => rfl
    | cons first _ ih => rw [List.map_cons, ih, first.1, first.2.read]
  intro later
  rw [read_kept, Cell.value, values]

/-- A field that is taken away in memory is taken away from the value. -/
theorem HoldsFields.filter {held : List (String × Held)} {fields : List (String × Json)}
    (holds : HoldsFields m held fields) (name : String) :
    HoldsFields m (held.filter fun f => f.1 ≠ name) (Json.removeField name fields) :=
  List.rel_filter (fun _ _ same => by simp [same.1]) holds

/-- A field that the value lacks is not held either. -/
theorem HoldsFields.lookup_eq_none {held : List (String × Held)} {fields : List (String × Json)}
    (holds : HoldsFields m held fields) {name : String} (missing : Json.lookup name fields = none) :
    held.lookup name = none := by
  induction holds with
  | nil => rfl
  | @cons f g held fields same _ ih =>
    rw [Json.lookup] at missing
    split at missing
    · cases missing
    · rename_i other
      rw [List.lookup_cons, beq_eq_false_iff_ne.mpr (same.1 ▸ other)]
      exact ih missing

/-! ## Laying out -/

/-- Cells on top count from the length below them. -/
theorem length_on_top (size : m.length = n) (new : Memory) :
    (new ++ m).length = n + new.length := by
  rw [List.length_append, size, Nat.add_comm]

mutual

/-- A value that is laid out is held by what it is laid out as. -/
theorem holds_layOut (m : Memory) (n : Nat) (size : m.length = n) :
    ∀ v, Holds ((layOut n v).2 ++ m) (layOut n v).1 v
  | .list items => by
    rw [layOut, ← length_on_top size]
    exact (holds_layOutItems m n size items).holds
  | .object fields => by
    rw [layOut, ← length_on_top size]
    exact (holds_layOutFields m n size fields).holds
  | .null | .bool _ | .number _ | .text _ | .brokenText _ => fun _ => read_plain _ _ _

/-- Items are laid out one on the other, and the later ones leave the earlier ones as they are. -/
theorem holds_layOutItems (m : Memory) (n : Nat) (size : m.length = n) :
    ∀ items, HoldsItems ((layOutItems n items).2 ++ m) (layOutItems n items).1 items
  | [] => .nil
  | v :: rest => by
    have first := holds_layOut m n size v
    have others := holds_layOutItems ((layOut n v).2 ++ m) _ (length_on_top size _) rest
    rw [layOutItems, List.append_assoc]
    exact .cons (first.grow _) others

/-- The same for the fields of an object. -/
theorem holds_layOutFields (m : Memory) (n : Nat) (size : m.length = n) :
    ∀ fields, HoldsFields ((layOutFields n fields).2 ++ m) (layOutFields n fields).1 fields
  | [] => .nil
  | (name, v) :: rest => by
    have first := holds_layOut m n size v
    have others := holds_layOutFields ((layOut n v).2 ++ m) _ (length_on_top size _) rest
    rw [layOutFields, List.append_assoc]
    exact .cons ⟨rfl, first.grow _⟩ others

end

/-- A value that is laid out is held from then on. -/
theorem holds_lay (m : Memory) (v : Json) : Holds (m.lay v).2 (m.lay v).1 v :=
  holds_layOut m m.length rfl v

/-- Laying out only adds to memory. -/
theorem suffix_lay (m : Memory) (v : Json) : m <:+ (m.lay v).2 := List.suffix_append _ _

/-- An object is the last cell of all that is laid out for it. -/
theorem lay_object (m : Memory) (fields : List (String × Json)) :
    m.lay (.object fields) =
      (.kept ((layOutFields m.length fields).2 ++ m).length,
        .object (layOutFields m.length fields).1 :: ((layOutFields m.length fields).2 ++ m)) := by
  rw [lay, layOut, length_on_top rfl]
  rfl

/-- The fields of an object are those that were laid out for it, whatever came later. -/
theorem fields?_lay_object (m later : Memory) (fields : List (String × Json)) :
    fields? (later ++ (m.lay (.object fields)).2) (m.lay (.object fields)).1 =
      some (layOutFields m.length fields).1 := by
  rw [lay_object]
  exact fields?_kept later _ _

/-- What is no object has no fields in memory either. -/
theorem fields?_lay_eq_none (m later : Memory) (other : ∀ fields, v ≠ .object fields) :
    fields? (later ++ (m.lay v).2) (m.lay v).1 = none := by
  cases v with
  | object fields => exact absurd rfl (other fields)
  | list items =>
    rw [lay, layOut, ← length_on_top rfl]
    exact fields?_kept later _ _
  | _ => exact fields?_plain _ _ _

/-! ## Copies -/

mutual

/-- A value that is moved up is laid out higher up. -/
theorem up_layOut (n k : Nat) : ∀ v,
    ((layOut n v).1.up k, (layOut n v).2.map (·.up k)) = layOut (n + k) v
  | .list items => by
    have parts := up_layOutItems n k items
    rw [layOut, layOut, ← parts, Held.up, List.map_cons, Cell.up, List.length_map,
      Nat.add_right_comm]
  | .object fields => by
    have parts := up_layOutFields n k fields
    rw [layOut, layOut, ← parts, Held.up, List.map_cons, Cell.up, List.length_map,
      Nat.add_right_comm]
  | .null | .bool _ | .number _ | .text _ | .brokenText _ => rfl

/-- To lay items out higher up is to move them up, by induction on them. -/
theorem up_layOutItems (n k : Nat) : ∀ items,
    ((layOutItems n items).1.map (·.up k), (layOutItems n items).2.map (·.up k)) =
      layOutItems (n + k) items
  | [] => rfl
  | v :: rest => by
    have first := up_layOut n k v
    have others := up_layOutItems (n + (layOut n v).2.length) k rest
    rw [Nat.add_right_comm] at others
    rw [layOutItems, layOutItems, ← first, List.length_map, ← others, List.map_cons,
      List.map_append]

/-- The same for the fields of an object. -/
theorem up_layOutFields (n k : Nat) : ∀ fields,
    ((layOutFields n fields).1.map fun f => (f.1, f.2.up k),
      (layOutFields n fields).2.map (·.up k)) = layOutFields (n + k) fields
  | [] => rfl
  | (name, v) :: rest => by
    have first := up_layOut n k v
    have others := up_layOutFields (n + (layOut n v).2.length) k rest
    rw [Nat.add_right_comm] at others
    rw [layOutFields, layOutFields, ← first, List.length_map, ← others, List.map_cons,
      List.map_append]

end

/-- The copy of a value that was laid out is laid out on top of what was there. -/
theorem exists_twice_lay (m : Memory) (v : Json) : ∃ base : Memory, (m.lay v).2 <:+ base ∧
    (m.lay v).1.up (m.lay v).2.length = (base.lay v).1 ∧ (m.lay v).2.twice = (base.lay v).2 := by
  have size : (m.map (·.up (m.lay v).2.length) ++ (m.lay v).2).length =
      m.length + (m.lay v).2.length := by
    rw [List.length_append, List.length_map]
  obtain ⟨held, cells⟩ := Prod.mk.inj (up_layOut m.length (m.lay v).2.length v)
  refine ⟨m.map (·.up (m.lay v).2.length) ++ (m.lay v).2, List.suffix_append _ _, ?_, ?_⟩
  · rw [lay.eq_def (_ ++ _), size, ← held]
    rfl
  · rw [lay.eq_def (_ ++ _), size, ← cells, twice, ← List.append_assoc, ← List.map_append]
    rfl

/-! ## Changes -/

/-- The memory that an object is laid out on, after a field was taken away from it. -/
def without (m : Memory) (fields : List (String × Json)) (name : String) : Memory :=
  .object ((layOutFields m.length fields).1.filter fun f => f.1 ≠ name) ::
    ((layOutFields m.length fields).2 ++ m)

/-- Taking a field away leaves as many cells as there were. -/
theorem length_without (m : Memory) (fields : List (String × Json)) (name : String) :
    (m.without fields name).length = (m.lay (.object fields)).2.length := by
  rw [lay_object]
  rfl

/-- What was there before an object was laid out stays when a field is taken away from it. -/
theorem suffix_without (m : Memory) (fields : List (String × Json)) (name : String) :
    m <:+ m.without fields name :=
  (List.suffix_append _ _).trans (List.suffix_cons _ _)

/-- An object without a field is held where the object was. -/
theorem holds_without (m : Memory) (fields : List (String × Json)) (name : String) :
    Holds (m.without fields name) (m.lay (.object fields)).1
      (.object (Json.removeField name fields)) := by
  rw [lay_object]
  exact ((holds_layOutFields m _ rfl fields).filter name).holds

/-- A value is laid out as one of the fields of an object, on top of those before it.  Something
else that is held there is what the object has in this field, as no other field has a part in it. -/
structure LaidAmong (m : Memory) (name : String) (v : Json) (fields : List (String × Json))
    (after before : Memory) : Prop where
  held : (layOutFields m.length fields).1.lookup name = some (layOut (before ++ m).length v).1
  cells : (layOutFields m.length fields).2 =
    after ++ ((layOut (before ++ m).length v).2 ++ before)
  changed : ∀ (part : Memory) (new : Json),
    part.length = (layOut (before ++ m).length v).2.length →
    Holds (part ++ (before ++ m)) (layOut (before ++ m).length v).1 new →
    HoldsFields (after ++ (part ++ (before ++ m))) (layOutFields m.length fields).1
      (Json.replaceField name new fields)

variable {name : String} {fields : List (String × Json)}

/-- The first field is laid out at the bottom, and the others on top of it. -/
theorem laidAmong_head (m : Memory) (name : String) (v : Json) (rest : List (String × Json)) :
    LaidAmong m name v ((name, v) :: rest)
      (layOutFields (m.length + (layOut m.length v).2.length) rest).2 [] where
  held := by
    rw [layOutFields, List.lookup_cons_self]
    rfl
  cells := by
    rw [layOutFields, List.append_nil]
    rfl
  changed part new alike holds := by
    have higher : (part ++ m).length = m.length + (layOut m.length v).2.length := by
      rw [length_on_top rfl, alike]
      rfl
    rw [layOutFields, Json.replaceField, if_pos rfl]
    exact .cons ⟨rfl, holds.grow _⟩ (holds_layOutFields _ _ higher rest)

/-- A field behind another one is laid out on top of that. -/
theorem LaidAmong.tail {u : Json} {other : String} {after before : Memory} (ne : name ≠ other)
    (laid : LaidAmong ((layOut m.length u).2 ++ m) name v fields after before) :
    LaidAmong m name v ((other, u) :: fields) after (before ++ (layOut m.length u).2) := by
  obtain ⟨held, cells, changed⟩ := laid
  have size : ((layOut m.length u).2 ++ m).length = m.length + (layOut m.length u).2.length :=
    length_on_top rfl _
  rw [size] at held cells changed
  refine ⟨?held, ?cells, ?changed⟩
  case held =>
    rw [layOutFields, List.lookup_cons, beq_eq_false_iff_ne.mpr ne, List.append_assoc]
    exact held
  case cells =>
    rw [layOutFields, cells]
    simp only [List.append_assoc]
  case changed =>
    intro part new alike holds
    rw [List.append_assoc] at alike holds ⊢
    rw [layOutFields, Json.replaceField, if_neg ne]
    have first := (holds_layOut m _ rfl u).grow (after ++ (part ++ before))
    simp only [List.append_assoc] at first
    exact .cons ⟨rfl, first⟩ (changed part new alike holds)

/-- Every field that an object has is laid out among its fields. -/
theorem exists_laidAmong (found : Json.lookup name fields = some v) (m : Memory) :
    ∃ after before, LaidAmong m name v fields after before := by
  induction fields generalizing m with
  | nil => cases found
  | cons f rest ih =>
    obtain ⟨other, u⟩ := f
    rw [Json.lookup] at found
    by_cases same : name = other
    · subst same
      obtain rfl : u = v := Option.some.inj ((if_pos rfl).symm.trans found)
      exact ⟨_, _, laidAmong_head m name u rest⟩
    · rw [if_neg same] at found
      obtain ⟨after, before, laid⟩ := ih found ((layOut m.length u).2 ++ m)
      exact ⟨after, _, laid.tail same⟩

/-- Where a field of an object is laid out, and what the object is once something else is held
there. -/
theorem exists_lay_object (found : Json.lookup name fields = some v) (m : Memory) :
    ∃ later before : Memory,
      (m.lay (.object fields)).2 = later ++ ((before ++ m).lay v).2 ∧
      (layOutFields m.length fields).1.lookup name = some ((before ++ m).lay v).1 ∧
      ∀ (part : Memory) (new : Json), before ++ m <:+ part →
        part.length = ((before ++ m).lay v).2.length → Holds part ((before ++ m).lay v).1 new →
        Holds (later ++ part) (m.lay (.object fields)).1
          (.object (Json.replaceField name new fields)) := by
  obtain ⟨after, before, laid⟩ := exists_laidAmong found m
  have cells : (layOutFields m.length fields).2 ++ m = after ++ ((before ++ m).lay v).2 := by
    rw [laid.cells]
    simp only [List.append_assoc, lay]
  refine ⟨.object (layOutFields m.length fields).1 :: after, before, ?_, laid.held, ?_⟩
  · rw [lay_object, cells]
    rfl
  · rintro _ new ⟨part, rfl⟩ alike holds
    have as_many : part.length = (layOut (before ++ m).length v).2.length := by
      simpa [lay] using alike
    have place : (after ++ ((before ++ m).lay v).2).length =
        (after ++ (part ++ (before ++ m))).length := by
      rw [List.length_append, ← alike, ← List.length_append]
    rw [lay_object, cells, place]
    exact (laid.changed part new as_many holds).holds

end Memory

/-! ## Working in memory -/

namespace InMemory

variable {α β : Type} {h : Held} {m after : Memory}

/-- What has a value goes on with it, in the memory that it leaves. -/
theorem run_bind_of_ok {a : InMemory α} {v : α} (done : a.run m = (.ok v, after))
    (next : α → InMemory β) : (a >>= next).run m = (next v).run after := by
  rw [run] at done
  rw [run, ExceptT.run_bind, StateT.run_bind, done]
  rfl

/-- A fault ends what would follow. -/
theorem run_bind_of_error {a : InMemory α} {f : Fault} (failed : a.run m = (.error f, after))
    (next : α → InMemory β) : (a >>= next).run m = (.error f, after) := by
  rw [run] at failed
  rw [run, ExceptT.run_bind, StateT.run_bind, failed]
  rfl

/-- Memory may be looked at. -/
theorem run_get (m : Memory) : (get : InMemory Memory).run m = (.ok m, m) := rfl

/-- The copy of a value that was just laid out is laid out again, on top of a memory that holds the
first one. -/
theorem run_copy (m : Memory) (v : Json) : ∃ base : Memory, (m.lay v).2 <:+ base ∧
    (copy (m.lay v).1).run (m.lay v).2 = (.ok (base.lay v).1, (base.lay v).2) := by
  obtain ⟨base, below, held, cells⟩ := Memory.exists_twice_lay m v
  refine ⟨base, below, ?_⟩
  rw [← held, ← cells]
  rfl

/-- A new object is laid out on top. -/
theorem run_empty (m : Memory) :
    empty.run m = (.ok (m.lay (.object [])).1, [.object []] ++ m) := rfl

/-! What is done to a value that was laid out, whatever came later. -/

variable {v : Json} (m later : Memory) (fields : List (String × Json)) (name : String)

/-- A field is found among those that were laid out, or the fallback is taken. -/
theorem run_getField_of_object (fallback : Held) :
    (getField (m.lay (.object fields)).1 name fallback).run (later ++ (m.lay (.object fields)).2) =
      (.ok (((Memory.layOutFields m.length fields).1.lookup name).getD fallback),
        later ++ (m.lay (.object fields)).2) := by
  rw [getField, run_bind_of_ok (run_get _), Memory.fields?_lay_object]
  rfl

/-- Only an object has fields to be asked for. -/
theorem run_getField_of_other (other : ∀ fields, v ≠ .object fields) (fallback : Held) :
    (getField (m.lay v).1 name fallback).run (later ++ (m.lay v).2) =
      (.error (.noAttribute v "get"), later ++ (m.lay v).2) := by
  rw [getField, run_bind_of_ok (run_get _), Memory.fields?_lay_eq_none m later other,
    Memory.holds_lay m v later]
  rfl

/-- Only an object has fields to take away, and nothing is changed then. -/
theorem run_popField_of_other (other : ∀ fields, v ≠ .object fields) :
    (popField (m.lay v).1 name).run (later ++ (m.lay v).2) =
      (.error v.cannotPop, later ++ (m.lay v).2) := by
  rw [popField, run_bind_of_ok (run_get _), Memory.fields?_lay_eq_none m later other,
    Memory.holds_lay m v later]
  cases (m.lay v).1 <;> rfl

/-- A field is taken away from an object in its place. -/
theorem run_popField_of_object :
    (popField (m.lay (.object fields)).1 name).run (later ++ (m.lay (.object fields)).2) =
      (.ok (), later ++ Memory.without m fields name) := by
  rw [popField, run_bind_of_ok (run_get _), Memory.fields?_lay_object, Memory.lay_object]
  exact congrArg (Prod.mk (Except.ok ())) (Memory.put_kept later _ _ _)

end InMemory

end TrialRun
