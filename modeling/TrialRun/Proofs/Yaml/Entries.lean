import TrialRun.Proofs.Yaml.Styles
import TrialRun.Yaml.Document

/-!
# Entries are read as they were written

What the writer puts on the lines of an entry is read as this entry (`entry_listItem`, `entry_key`),
and entries that stand below one another are read one after the other (`Reads`).  Texts are
arbitrary; names are words (`IsName`), which the writer neither quotes nor folds.
-/

set_option autoImplicit false

namespace TrialRun.Yaml

open Reader

/-- A name that is written without quotes and without blanks. -/
structure IsName (s : List Char) : Prop where
  plain : allowsPlain s = true
  solid : s.any isWhite = false
  unmarked : s.head? ≠ some '-' ∧ s.head? ≠ some '.'
  short : s.length ≤ nameLimit

instance (s : List Char) : Decidable (IsName s) :=
  decidable_of_iff (allowsPlain s = true ∧ s.any isWhite = false ∧
      (s.head? ≠ some '-' ∧ s.head? ≠ some '.') ∧ s.length ≤ nameLimit)
    ⟨fun ⟨plain, solid, unmarked, short⟩ => ⟨plain, solid, unmarked, short⟩,
      fun ⟨plain, solid, unmarked, short⟩ => ⟨plain, solid, unmarked, short⟩⟩

/-- A name has no blanks and no newlines. -/
theorem IsName.not_white {s : List Char} (isName : IsName s) : ∀ c ∈ s, isWhite c = false := by
  simpa using isName.solid

namespace Reader

variable {least indent : Nat} {c : Char} {s rest next : List Char} {n v : Option Value} {e : Entry}
  {es : List Entry}

/-! ## Single entries -/

/-- A line that goes on is not at its end. -/
theorem nextLine_cons (white : isWhite c = false) (s : List Char) : nextLine (c :: s) = none := by
  obtain ⟨blank, newline⟩ := Bool.or_eq_false_iff.mp white
  have first : (c :: s).dropWhile (· == ' ') = c :: s := by
    rw [List.dropWhile_cons, if_neg (by simp [blank])]
  rw [nextLine, first]
  split
  · contradiction
  · rename_i same
    cases same
    cases newline
  · rfl

/-- Blanks at the end of a line are passed over. -/
theorem nextLine_blank (s : List Char) : nextLine (' ' :: s) = nextLine s := rfl

/-- One blank stands between an introduction and its value. -/
theorem dropWhile_blank_cons (white : isWhite c = false) (s : List Char) :
    (' ' :: c :: s).dropWhile (· == ' ') = c :: s := by
  rw [List.dropWhile_cons, if_pos (by decide), List.dropWhile_cons,
    if_neg (by simp [(Bool.or_eq_false_iff.mp white).1])]

/-- A scalar behind the introduction of an entry is its value. -/
theorem value_written (enough : least ≤ indent) (narrow : indent < width) (column : Nat)
    (s : String) (ends : Ends least next) :
    value least (Yaml.scalar indent column s.toList ++ '\n' :: next) =
      some (some (.text s), next) := by
  obtain ⟨c, t, written, white, read⟩ :=
    scalar_written enough narrow column s.toList ends.plain_newline rfl
  rw [List.cons_append, String.ofList_toList] at read
  rw [written, List.cons_append, List.cons_append, value, nextLine_blank, nextLine_cons white]
  dsimp only
  rw [dropWhile_blank_cons white, read]
  rfl

/-- An entry is what introduces it, behind its indentation, and the value behind that. -/
theorem entry_of (white : isWhite c = false)
    (introduced : head indent (c :: s) = some (n, rest))
    (behind : value (indent + 1) rest = some (v, next)) :
    entry (List.replicate indent ' ' ++ c :: s) = some (⟨indent, n, v⟩, next) := by
  have solid : ¬(c == ' ') = true := by simp [(Bool.or_eq_false_iff.mp white).1]
  have column : (List.replicate indent ' ' ++ c :: s).takeWhile (· == ' ') =
      List.replicate indent ' ' := by
    simp [List.takeWhile_append_of_pos, solid]
  have line : (List.replicate indent ' ' ++ c :: s).dropWhile (· == ' ') = c :: s := by
    simp [List.dropWhile_append_of_pos, solid]
  rw [entry, column, line, List.length_replicate, introduced]
  dsimp only [Option.bind_eq_bind, Option.bind_some]
  rw [behind]
  rfl

/-- A scalar is written behind a blank. -/
theorem atWhite_scalar (indent column : Nat) (s rest : List Char) :
    atWhite (Yaml.scalar indent column s ++ rest) = true := by
  rw [Yaml.scalar]
  split <;> rfl

/-- A dash with white behind it introduces an item of a list. -/
theorem head_dash (column : Nat) (white : atWhite rest = true) :
    head column ('-' :: rest) = some (none, rest) := by
  have inside : isMark ('-' :: rest) = false := by
    cases rest with
    | nil => rfl
    | cons c rest =>
      obtain rfl | rfl : c = ' ' ∨ c = '\n' := by simpa [atWhite, isWhite] using white
      · rfl
      · rfl
  rw [head.eq_def, inside, Bool.and_false, if_neg Bool.false_ne_true]
  dsimp only
  rw [if_pos (by simp [white])]

/-- An item of a list is read as its text. -/
theorem entry_listItem (item : String) (ends : Ends 1 next) :
    entry (listItem item ++ next) = some (⟨0, none, some (.text item)⟩, next) := by
  have narrow : 2 < width := by decide
  have behind := value_written (by decide : 1 ≤ 2) narrow 1 item ends
  have whole := entry_of rfl (head_dash 0 (atWhite_scalar 2 1 item.toList _)) behind
  rw [listItem, List.append_assoc]
  exact whole

/-! ## Names -/

/-- The scalar before a colon is the name. -/
theorem scalar_name (isName : IsName s) (white : atWhite rest = true) :
    scalar 0 (s ++ ':' :: rest) = some (.text (String.ofList s), ':' :: rest) := by
  obtain ⟨c, t, rfl, isPlain⟩ := isPlain_of_allowsPlain isName.plain
  have goesOn : atWhite t = false → atWhite (t ++ ':' :: rest) = false := by
    cases t with
    | nil => nofun
    | cons d t => exact id
  have stops : plain 0 .none (':' :: rest) = ([], ':' :: rest) := by
    rw [plain, if_neg (by decide), endsPlain, white]
    rfl
  have clear : hasInnerIndicator true ((c :: t) ++ []) = false := by
    rw [List.append_nil]
    exact isPlain.clear
  have read : plain 0 .none (c :: t ++ ':' :: rest) = (c :: t, ':' :: rest) := by
    rw [plain_word isName.not_white (List.cons_ne_nil _ _) rfl (fun _ => rfl) clear fun _ => rfl,
      stops, before, Gap.chars_none, List.nil_append, List.append_nil]
  exact isPlain.scalar_eq goesOn read

/-- A name is read up to its colon. -/
theorem name_key (isName : IsName s) (white : atWhite rest = true) :
    name (s ++ ':' :: rest) = some (.text (String.ofList s), rest) := by
  have unbroken : ∀ d ∈ s, (d != '\n') = true := fun d inside => by
    simpa using (Bool.or_eq_false_iff.mp (isName.not_white d inside)).2
  have line : (s ++ ':' :: rest).takeWhile (· != '\n') =
      s ++ ':' :: rest.takeWhile (· != '\n') := by
    rw [List.takeWhile_append_of_pos unbroken, List.takeWhile_cons, if_pos (by decide)]
  have others : (s ++ ':' :: rest).dropWhile (· != '\n') = rest.dropWhile (· != '\n') := by
    rw [List.dropWhile_append_of_pos unbroken, List.dropWhile_cons, if_pos (by decide)]
  have white : atWhite (rest.takeWhile (· != '\n')) = true := by
    cases rest with
    | nil => rfl
    | cons d rest =>
      obtain rfl | rfl : d = ' ' ∨ d = '\n' := by simpa [atWhite, isWhite] using white
      · rfl
      · rfl
  have short : (s ++ ':' :: rest.takeWhile (· != '\n')).length -
      (rest.takeWhile (· != '\n')).length ≤ nameLimit + 1 := by
    have := isName.short
    rw [List.length_append, List.length_cons]
    omega
  have fits := decide_eq_true short
  rw [name]
  dsimp only
  rw [line, others, scalar_name isName white]
  show (if atWhite _ && decide _ then _ else _) = _
  rw [white, fits, Bool.and_self, if_pos rfl, List.takeWhile_append_dropWhile]

/-- A name with a colon and white behind it introduces a value under that name. -/
theorem head_key (isName : IsName s) (column : Nat) (white : atWhite rest = true) :
    head column (s ++ ':' :: rest) = some (some (.text (String.ofList s)), rest) := by
  have read := name_key isName white
  obtain ⟨c, t, rfl, isPlain⟩ := isPlain_of_allowsPlain isName.plain
  have unmarked : c ≠ '-' ∧ c ≠ '.' := by simpa using isName.unmarked
  have inside : isMark (c :: t ++ ':' :: rest) = false := by
    simp [isMark, unmarked]
  rw [head.eq_def, inside, Bool.and_false, if_neg Bool.false_ne_true, read]
  dsimp only [List.cons_append]
  rw [if_neg (by simp [unmarked])]
  rfl

/-- A name is written as it is. -/
theorem key_eq {name : String} (isName : IsName name.toList) (indent : Nat) :
    key indent name = List.replicate indent ' ' ++ name.toList ++ [':'] := by
  have style : Style.of name.toList = .plain := if_pos isName.plain
  rw [key, Yaml.scalar, style]
  obtain ⟨c, t, same, isPlain⟩ := isPlain_of_allowsPlain isName.plain
  have solid := isName.not_white
  rw [same] at solid ⊢
  dsimp only
  rw [split_word isPlain.white (List.forall_mem_cons.mp solid).2, plainChunks, plainChunks,
    List.append_nil, List.drop_one, List.tail_cons]

/-- A name that is indented less does not go on with the scalar on the line before. -/
theorem ends_key {name : String} (isName : IsName name.toList) (short : indent < least)
    (s : List Char) : Ends least (key indent name ++ s) := by
  obtain ⟨c, t, same, isPlain⟩ := isPlain_of_allowsPlain isName.plain
  rw [key_eq isName, same, List.append_assoc, List.append_assoc]
  exact ends_of_column short isPlain.white _

/-- A key is read with the value behind it. -/
theorem entry_key {name : String} (isName : IsName name.toList) (white : atWhite rest = true)
    (behind : value (indent + 1) rest = some (v, next)) :
    entry (key indent name ++ rest) = some (⟨indent, some (.text name), v⟩, next) := by
  have introduced := head_key isName indent white
  rw [String.ofList_toList] at introduced
  rw [key_eq isName, List.append_assoc, List.append_assoc, List.singleton_append]
  obtain ⟨c, t, same, isPlain⟩ := isPlain_of_allowsPlain isName.plain
  rw [same] at introduced ⊢
  exact entry_of isPlain.white introduced behind

/-- An entry of a map is read as its name and its text. -/
theorem entry_mapEntry {e : String × String} (isName : IsName e.1.toList) (ends : Ends 3 next) :
    entry (mapEntry e ++ next) = some (⟨2, some (.text e.1), some (.text e.2)⟩, next) := by
  let column := (key 2 e.1).length
  have narrow : 4 < width := by decide
  have behind := value_written (by decide : 3 ≤ 4) narrow column e.2 ends
  have whole := entry_key isName (atWhite_scalar 4 column e.2.toList _) behind
  rw [mapEntry, List.append_assoc, List.append_assoc]
  exact whole

/-! ## Entries below one another -/

/-- A text that is read as these entries, to its end.  That each entry takes something is what the
bound of the reader counts on. -/
inductive Reads : List Char → List Entry → Prop where
  | nil : Reads [] []
  | cons {s rest : List Char} {e : Entry} {es : List Entry} :
    entry s = some (e, rest) → rest.length < s.length → Reads rest es → Reads s (e :: es)

/-- The reader finds the entries if it is allowed as many as there are characters. -/
theorem Reads.entries_eq (h : Reads s es) : ∀ bound, s.length ≤ bound →
    entries bound s = some es := by
  induction h with
  | nil =>
    intro bound _
    cases bound <;> rfl
  | @cons s rest e es first shorter _ ih =>
    intro bound enough
    obtain ⟨bound, rfl⟩ : ∃ fewer, bound = fewer + 1 := Nat.exists_eq_add_one.mpr (by omega)
    cases s with
    | nil => cases shorter
    | cons c s =>
      rw [entries, first]
      dsimp only [Option.bind_eq_bind, Option.bind_some]
      rw [ih bound (by omega)]
      · rfl
      · nofun

/-- Entries of one kind, each of which ends where the next one begins. -/
theorem Reads.flatMap {α : Type} {write : α → List Char} {entryOf : α → Entry} {xs : List α}
    (each : ∀ x ∈ xs, ∀ next, Ends least next →
      entry (write x ++ next) = some (entryOf x, next))
    (starts : ∀ x ∈ xs, write x ≠ [] ∧ ∀ next, Ends least (write x ++ next))
    (ends : Ends least next) (h : Reads next es) :
    Reads (xs.flatMap write ++ next) (xs.map entryOf ++ es) := by
  induction xs with
  | nil => exact h
  | cons x xs ih =>
    obtain ⟨first, each⟩ := List.forall_mem_cons.mp each
    obtain ⟨start, starts⟩ := List.forall_mem_cons.mp starts
    have behind : Ends least (xs.flatMap write ++ next) := by
      cases xs with
      | nil => exact ends
      | cons y ys =>
        rw [List.flatMap_cons, List.append_assoc]
        exact (starts y List.mem_cons_self).2 _
    have positive : 0 < (write x).length := List.length_pos_iff.mpr start.1
    rw [List.flatMap_cons, List.append_assoc]
    refine .cons (first _ behind) ?_ (ih each starts)
    simp only [List.length_append]
    omega

/-- The items of a list are read one after the other. -/
theorem reads_list (items : List String) (ends : Ends 1 next) (h : Reads next es) :
    Reads (items.flatMap listItem ++ next)
      (items.map (fun item => ⟨0, none, some (.text item)⟩) ++ es) :=
  .flatMap (fun item _ _ => entry_listItem item)
    (fun _ _ => ⟨List.cons_ne_nil _ _, fun _ => ends_of_column Nat.one_pos rfl _⟩)
    ends h

/-- So are the entries of a map. -/
theorem reads_map {xs : List (String × String)} (names : ∀ e ∈ xs, IsName e.1.toList)
    (ends : Ends 3 next) (h : Reads next es) :
    Reads (xs.flatMap mapEntry ++ next)
      (xs.map (fun e => ⟨2, some (.text e.1), some (.text e.2)⟩) ++ es) :=
  .flatMap (fun e inside _ => entry_mapEntry (names e inside))
    (fun e inside => by
      have starts := ends_key (names e inside) (by decide : 2 < 3)
      refine ⟨by simp [mapEntry], fun next => ?_⟩
      rw [mapEntry, List.append_assoc, List.append_assoc]
      exact starts _)
    ends h

/-- A name whose value is below takes up its line. -/
theorem reads_header {name : String} (isName : IsName name.toList) (h : Reads s es) :
    Reads (key indent name ++ '\n' :: s) (⟨indent, some (.text name), none⟩ :: es) := by
  refine .cons (entry_key isName rfl rfl) ?_ h
  simp only [List.length_append, List.length_cons]
  omega

end Reader

end TrialRun.Yaml
