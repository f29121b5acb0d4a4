import TrialRun.Proofs.Yaml.Characters
import TrialRun.Proofs.Yaml.Entries

/-!
# Documents are read as they were written

The entries of a document are read one after the other, and their columns put them together again:
those of a block stand below the name of the block, since they are indented more or are the items of
a list.  All that is written may stand in a document.  The texts in a document are arbitrary; its
names are words, and no block in it is empty (`Document.IsReadable`).
-/

set_option autoImplicit false

namespace TrialRun.Yaml

open Reader

/-! ## What is to be read -/

/-- The part that is its own entry. -/
def Reader.Part.entry (p : Part) : Reader.Entry := ⟨p.column, p.name, some p.value⟩

namespace Block

/-- The block is not empty, and its names are words. -/
def IsReadable : Block → Prop
  | .list items => items ≠ []
  | .map entries => entries ≠ [] ∧ ∀ e ∈ entries, IsName e.1.toList

/-- What the block is to be read as. -/
def value : Block → Value
  | .list items => .list (items.map .text)
  | .map entries => .map (entries.map fun e => (.text e.1, .text e.2))

/-- The parts that the block is written in. -/
def parts : Block → List Part
  | .list items => items.map fun item => ⟨0, none, .text item⟩
  | .map entries => entries.map fun e => ⟨2, some (.text e.1), .text e.2⟩

end Block

namespace Document

structure IsReadable (d : Document) : Prop where
  nonempty : d ≠ []
  names : ∀ b ∈ d, IsName b.1.toList
  blocks : ∀ b ∈ d, b.2.IsReadable

def value (d : Document) : Value := .map (d.map fun b => (.text b.1, b.2.value))

/-- The entries that the document is written in. -/
def entries (d : Document) : List Reader.Entry :=
  d.flatMap fun b => ⟨0, some (.text b.1), none⟩ :: b.2.parts.map Part.entry

end Document

variable {d : Document}

namespace Reader

variable {next : List Char} {es : List Entry} {ps parts : List Part}

/-! ## From the text to the entries -/

/-- A block is read as its entries, under the entry of its name. -/
theorem reads_block {name : String} {b : Block} (isName : IsName name.toList)
    (readable : b.IsReadable) (ends : ∀ least, 0 < least → Ends least next) (h : Reads next es) :
    Reads (key 0 name ++ block b ++ next)
      (⟨0, some (.text name), none⟩ :: b.parts.map Part.entry ++ es) := by
  cases b with
  | list items =>
    have written : block (.list items) = '\n' :: items.flatMap listItem := by
      rw [block]
      exact readable
    have below := reads_list items (ends 1 (by decide)) h
    rw [written, Block.parts, List.map_map, List.append_assoc]
    exact reads_header isName below
  | map xs =>
    have written : block (.map xs) = '\n' :: xs.flatMap mapEntry := by
      rw [block]
      exact readable.1
    have below := reads_map readable.2 (ends 3 (by decide)) h
    rw [written, Block.parts, List.map_map, List.append_assoc]
    exact reads_header isName below

/-- The blocks of a document are read one after the other, each up to the next name. -/
theorem reads_document (names : ∀ b ∈ d, IsName b.1.toList) (blocks : ∀ b ∈ d, b.2.IsReadable) :
    Reads (d.flatMap fun b => key 0 b.1 ++ block b.2) d.entries := by
  induction d with
  | nil => exact .nil
  | cons b d ih =>
    obtain ⟨name, names⟩ := List.forall_mem_cons.mp names
    obtain ⟨readable, blocks⟩ := List.forall_mem_cons.mp blocks
    have ends : ∀ least, 0 < least →
        Ends least (d.flatMap fun b => key 0 b.1 ++ block b.2) := by
      intro least positive
      cases d with
      | nil => exact ends_nil least
      | cons b d =>
        rw [List.flatMap_cons, List.append_assoc]
        exact ends_key (names b List.mem_cons_self) positive _
    exact reads_block name readable ends (ih names blocks)

/-! ## From the entries to the value -/

/-- A part stands on its own if it does not take in what follows it. -/
theorem grow_entry (p : Part) (apart : ∀ q ∈ parts.head?, p.entry.adopts q = false) :
    grow p.entry parts = some (p :: parts) := by
  have alone : parts.takeWhile p.entry.adopts = [] := by
    cases parts with
    | nil => rfl
    | cons q parts => rw [List.takeWhile_cons, apart q rfl, if_neg Bool.false_ne_true]
  show (if (parts.takeWhile p.entry.adopts).isEmpty then _ else _) = _
  rw [alone]
  rfl

/-- Entries that have their values, and none of which belongs below another one, stand side by
side. -/
theorem outline_parts (more : outline es = some parts)
    (apart : ∀ p ∈ ps, ∀ q ∈ ps ++ parts, p.entry.adopts q = false) :
    outline (ps.map Part.entry ++ es) = some (ps ++ parts) := by
  induction ps with
  | nil => exact more
  | cons p ps ih =>
    obtain ⟨first, apart⟩ := List.forall_mem_cons.mp apart
    have rest := ih fun q inside r behind => apart q inside r (List.mem_cons_of_mem _ behind)
    rw [List.map_cons, List.cons_append, outline, rest]
    exact grow_entry p fun q head =>
      first q (List.mem_cons_of_mem _ (List.mem_of_mem_head? head))

theorem collect_list {vs : List Value} (nonempty : vs ≠ []) (column : Nat) :
    collect (vs.map fun v => ⟨column, none, v⟩) = some (.list vs) := by
  cases vs with
  | nil => exact absurd rfl nonempty
  | cons v vs =>
    rw [List.map_cons, collect, if_pos (by simp)]
    dsimp only
    rw [if_pos (by simp)]
    simp [Function.comp_def]

theorem collect_map {vs : List (Value × Value)} (nonempty : vs ≠ []) (column : Nat) :
    collect (vs.map fun v => ⟨column, some v.1, v.2⟩) = some (.map vs) := by
  have named : ∀ vs : List (Value × Value),
      (vs.map fun v => (⟨column, some v.1, v.2⟩ : Part)).mapM
        (fun p => p.name.map fun n => (n, p.value)) = some vs := by
    intro vs
    induction vs with
    | nil => rfl
    | cons v vs ih =>
      rw [List.map_cons, List.mapM_cons, ih]
      rfl
  cases vs with
  | nil => exact absurd rfl nonempty
  | cons v vs =>
    have whole := named (v :: vs)
    rw [List.map_cons] at whole
    rw [List.map_cons, collect, if_pos (by simp)]
    dsimp only
    rw [whole]
    rfl

/-- The parts of a block are put together to its value. -/
theorem collect_parts {b : Block} (readable : b.IsReadable) : collect b.parts = some b.value := by
  cases b with
  | list items =>
    have nonempty : items.map Value.text ≠ [] := List.map_eq_nil_iff.not.mpr readable
    have whole := collect_list nonempty 0
    rwa [List.map_map] at whole
  | map xs =>
    have nonempty : xs.map (fun e => (Value.text e.1, Value.text e.2)) ≠ [] :=
      List.map_eq_nil_iff.not.mpr readable.1
    have whole := collect_map nonempty 2
    rwa [List.map_map] at whole

/-- What is not indented more, and is no item behind a name, belongs elsewhere. -/
theorem adopts_eq_false {e : Entry} {q : Part} (outer : q.column ≤ e.column)
    (named : e.name.isSome = true → q.name.isSome = true) : e.adopts q = false := by
  have column : decide (e.column < q.column) = false := decide_eq_false (Nat.not_lt.mpr outer)
  have item : (e.name.isSome && q.name.isNone) = false := by
    cases kind : q.name with
    | none => simpa [kind] using named
    | some n => exact Bool.and_false _
  rw [Entry.adopts, column, item]
  rfl

/-- The parts of a block stand in one column and are of one kind. -/
theorem parts_apart {b : Block} (outer : ∀ q ∈ parts, q.column = 0 ∧ q.name.isSome = true) :
    ∀ p ∈ b.parts, ∀ q ∈ b.parts ++ parts, p.entry.adopts q = false := by
  intro p inside q other
  cases b with
  | list items =>
    obtain ⟨item, -, rfl⟩ := List.mem_map.mp inside
    refine adopts_eq_false (Nat.le_zero.mpr ?_) nofun
    rcases List.mem_append.mp other with same | behind
    · obtain ⟨item, -, rfl⟩ := List.mem_map.mp same
      rfl
    · exact (outer q behind).1
  | map xs =>
    obtain ⟨e, -, rfl⟩ := List.mem_map.mp inside
    rcases List.mem_append.mp other with same | behind
    · obtain ⟨e, -, rfl⟩ := List.mem_map.mp same
      exact adopts_eq_false (Nat.le_refl _) (fun _ => rfl)
    · obtain ⟨column, named⟩ := outer q behind
      exact adopts_eq_false (column.trans_le (Nat.zero_le _)) (fun _ => named)

/-- The parts of a block belong below the name that stands before them, and what is not indented
and has a name of its own does not. -/
theorem outline_block {b : Block} {n : Value} (readable : b.IsReadable)
    (more : outline es = some parts) (outer : ∀ q ∈ parts, q.column = 0 ∧ q.name.isSome = true) :
    outline (⟨0, some n, none⟩ :: b.parts.map Part.entry ++ es) =
      some (⟨0, some n, b.value⟩ :: parts) := by
  let header : Entry := ⟨0, some n, none⟩
  have below : ∀ q ∈ b.parts, header.adopts q = true := by
    intro q inside
    cases b with
    | list items =>
      obtain ⟨item, -, rfl⟩ := List.mem_map.mp inside
      rfl
    | map xs =>
      obtain ⟨e, -, rfl⟩ := List.mem_map.mp inside
      rfl
  have beside : ∀ q ∈ parts, ¬header.adopts q = true := by
    intro q inside
    obtain ⟨column, named⟩ := outer q inside
    rw [adopts_eq_false (Nat.le_of_eq column) fun _ => named]
    exact Bool.false_ne_true
  have taken : (b.parts ++ parts).takeWhile header.adopts = b.parts := by
    rw [List.takeWhile_append_of_pos below, List.takeWhile_eq_nil_iff.mpr fun _ =>
      beside _ (List.get_mem _ _), List.append_nil]
  have left : (b.parts ++ parts).dropWhile header.adopts = parts := by
    rw [List.dropWhile_append_of_pos below, List.dropWhile_eq_self_iff.mpr fun _ =>
      beside _ (List.get_mem _ _)]
  rw [List.cons_append, outline, outline_parts more (parts_apart outer)]
  show (collect ((b.parts ++ parts).takeWhile header.adopts)).bind _ = _
  rw [taken, collect_parts readable]
  show some (_ :: (b.parts ++ parts).dropWhile header.adopts) = _
  rw [left]

/-- The outline of a document has its names with their values, and nothing else. -/
theorem outline_document (blocks : ∀ b ∈ d, b.2.IsReadable) :
    outline d.entries = some (d.map fun b => ⟨0, some (.text b.1), b.2.value⟩) := by
  induction d with
  | nil => rfl
  | cons b d ih =>
    obtain ⟨readable, blocks⟩ := List.forall_mem_cons.mp blocks
    refine outline_block readable (ih blocks) fun q inside => ?_
    obtain ⟨b, -, rfl⟩ := List.mem_map.mp inside
    exact ⟨rfl, rfl⟩

end Reader

/-- A document is read as it was written. -/
theorem Document.IsReadable.read_write (readable : d.IsReadable) : read d.write = some d.value := by
  have written : d.write.toList = d.flatMap fun b => key 0 b.1 ++ block b.2 := by
    rw [Document.write, String.toList_ofList]
  have entries := (reads_document readable.names readable.blocks).entries_eq _ le_rfl
  have parts := outline_document readable.blocks
  have nonempty : d.map (fun b => (Value.text b.1, b.2.value)) ≠ [] :=
    List.map_eq_nil_iff.not.mpr readable.nonempty
  have whole := collect_map nonempty 0
  rw [List.map_map] at whole
  rw [Reader.read, if_pos (all_write d), written, entries]
  show (outline d.entries).bind collect = _
  rw [parts]
  exact whole

end TrialRun.Yaml
