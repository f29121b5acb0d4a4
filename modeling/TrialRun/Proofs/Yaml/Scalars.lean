import TrialRun.Proofs.Yaml.Reader
import TrialRun.Proofs.Yaml.Resolution

/-!
# Scalars are read as they were written

Whatever its style, a scalar is read back as the text it was written for.  For the two styles
without escapes the induction is on the stretches of the text: words are copied, a single blank
between words may have become a fold, and in single quotes breaks have become one more.  The reader
is between two stretches with an open gap, whose characters are those of the stretch before.  Where
the writer folds is of no matter for any of this, as long as folded lines are indented enough.
-/

set_option autoImplicit false

namespace TrialRun.Yaml

/-! ## Stretches -/

namespace Chunk

/-- Stretches that are as long as they can be, and not empty. -/
inductive Maximal : List Chunk → Prop where
  | nil : Maximal []
  | word {s : List Char} {rest : List Chunk} : s ≠ [] → (∀ c ∈ s, isWhite c = false) →
    (∀ t, rest.head? ≠ some (.word t)) → Maximal rest → Maximal (.word s :: rest)
  | blanks {n : Nat} {rest : List Chunk} : 0 < n → (∀ m, rest.head? ≠ some (.blanks m)) →
    Maximal rest → Maximal (.blanks n :: rest)
  | breaks {n : Nat} {rest : List Chunk} : 0 < n → (∀ m, rest.head? ≠ some (.breaks m)) →
    Maximal rest → Maximal (.breaks n :: rest)

/-- Blanks and newlines are all that is white. -/
theorem isWhite_eq_false {c : Char} (blank : c ≠ ' ') (newline : c ≠ '\n') :
    isWhite c = false := by
  simp [isWhite, blank, newline]

/-- A character goes into the first stretch or begins one before it. -/
theorem Maximal.prepend {chunks : List Chunk} (h : Maximal chunks) (c : Char) :
    Maximal (prepend c chunks) := by
  unfold Chunk.prepend
  split
  · cases h with
    | blanks _ apart rest => exact .blanks (Nat.succ_pos _) apart rest
  · rename_i other
    refine .blanks Nat.one_pos (fun m head => ?_) h
    obtain ⟨rest, rfl⟩ := List.head?_eq_some_iff.mp head
    exact other m rest rfl
  · cases h with
    | breaks _ apart rest => exact .breaks (Nat.succ_pos _) apart rest
  · rename_i other
    refine .breaks Nat.one_pos (fun m head => ?_) h
    obtain ⟨rest, rfl⟩ := List.head?_eq_some_iff.mp head
    exact other m rest rfl
  · rename_i blank newline
    cases h with
    | word _ solid apart rest =>
      refine .word (List.cons_ne_nil _ _) ?_ apart rest
      exact List.forall_mem_cons.mpr ⟨isWhite_eq_false blank newline, solid⟩
  · rename_i blank newline other _ _
    refine .word (List.cons_ne_nil _ _) ?_ (fun t head => ?_) h
    · exact List.forall_mem_singleton.mpr (isWhite_eq_false blank newline)
    · obtain ⟨rest, rfl⟩ := List.head?_eq_some_iff.mp head
      exact other t rest rfl

/-- A text is split into stretches that are as long as they can be. -/
theorem maximal_split (s : List Char) : Maximal (split s) := by
  induction s with
  | nil => exact .nil
  | cons c s ih => exact ih.prepend c

end Chunk

/-! ## Gaps -/

namespace Reader

namespace Gap

/-- So many blanks more. -/
def wider (n : Nat) : Gap → Gap
  | .blanks count => .blanks (count + n)
  | .lines empty column => .lines empty (column + n)
  | .joint empty column => .joint empty (column + n)

/-- A blank makes a gap wider by one. -/
theorem wider_blank (g : Gap) (n : Nat) : g.blank.wider n = g.wider (n + 1) := by
  cases g <;> simp only [blank, wider, Nat.add_assoc, Nat.add_comm 1 n]

theorem none_wider (n : Nat) : Gap.none.wider n = .blanks n :=
  congrArg Gap.blanks (Nat.zero_add n)

@[simp] theorem chars_none : Gap.none.chars = [] := rfl

theorem wider_zero (g : Gap) : g.wider 0 = g := by cases g <;> rfl

end Gap

variable {least indent : Nat} {gap : Gap} {c : Char} {s e r tail : List Char}

/-- What is read before something else is one text with it. -/
theorem before_before (s t : List Char) (r : List Char × List Char) :
    before s (before t r) = before (s ++ t) r := by
  simp only [before, List.append_assoc]

/-! ## Plain scalars -/

/-- White that is not at the end widens the gap. -/
theorem plain_white (white : isWhite c = true) {r : List Char × List Char}
    (next : plain least (if c = ' ' then gap.blank else gap.newline) s = r) (goesOn : r.1 ≠ []) :
    plain least gap (c :: s) = r := by
  rw [plain, if_pos white, next]
  exact if_neg (by simpa using goesOn)

/-- Blanks widen the gap, one by one. -/
theorem plain_blanks (n : Nat) {r : List Char × List Char}
    (next : plain least (gap.wider n) s = r) (goesOn : r.1 ≠ []) :
    plain least gap (List.replicate n ' ' ++ s) = r := by
  induction n generalizing gap with
  | zero => rwa [gap.wider_zero] at next
  | succ n ih =>
    rw [← gap.wider_blank] at next
    exact plain_white rfl (ih next) goesOn

/-- A fold is read as a line break with some indentation. -/
theorem plain_fold (indent : Nat) {r : List Char × List Char}
    (next : plain least (.lines 0 indent) s = r) (goesOn : r.1 ≠ []) :
    plain least .none (fold indent ++ s) = r := by
  have behind : plain least (.lines 0 0) (List.replicate indent ' ' ++ s) = r :=
    plain_blanks indent (by simpa only [Gap.wider, Nat.zero_add] using next) goesOn
  exact plain_white rfl behind goesOn

/-- What is no structure is copied, also if the blanks behind it have become a fold. -/
theorem plain_word {behind : Bool} (solid : ∀ c ∈ s, isWhite c = false) (nonempty : s ≠ [])
    (indented : gap.isIndented least = true) (seen : gap ≠ .none → behind = true)
    (clear : hasInnerIndicator behind (s ++ r) = false)
    (white : atWhite e = true → atWhite r = true) :
    plain least gap (s ++ e) = before (gap.chars ++ s) (plain least .none e) := by
  induction s generalizing gap behind with
  | nil => exact absurd rfl nonempty
  | cons c s ih =>
    obtain ⟨first, solid⟩ := List.forall_mem_cons.mp solid
    simp only [List.cons_append, hasInnerIndicator, Bool.or_eq_false_iff] at clear
    obtain ⟨⟨colon, sign⟩, clear⟩ := clear
    have goesOn : endsPlain least gap c (s ++ e) = false := by
      -- only the last character of the word looks at what is behind it, where the fold may stand
      have inner : (c == ':' && atWhite (s ++ e)) = false := by
        cases s with
        | nil =>
          cases colon' : c == ':' with
          | false => rfl
          | true =>
            rw [colon', Bool.true_and, List.nil_append] at colon
            exact Bool.eq_false_iff.mpr fun behind => absurd (white behind) (by simp [colon])
        | cons d s => exact colon
      have unsigned : (c == '#' && gap != .none) = false := by
        by_cases fresh : gap = .none
        · simp [fresh]
        · rw [seen fresh, Bool.and_true] at sign
          rw [sign, Bool.false_and]
      rw [endsPlain, inner, unsigned, indented]
      rfl
    rw [List.cons_append, plain, if_neg (by simp [first]), if_neg (by simp [goesOn])]
    cases s with
    | nil => rfl
    | cons d s =>
      rw [ih solid (List.cons_ne_nil _ _) rfl (fun other => absurd rfl other) clear, before_before,
        List.append_assoc]
      rfl

/-- A text without indicators has none behind some of its characters. -/
theorem hasInnerIndicator_append {behind : Bool}
    (clear : hasInnerIndicator behind (s ++ r) = false) :
    hasInnerIndicator (s.getLast?.elim behind isWhite) r = false := by
  induction s generalizing behind with
  | nil => exact clear
  | cons c s ih =>
    simp only [List.cons_append, hasInnerIndicator, Bool.or_eq_false_iff] at clear
    have rest := ih clear.2
    cases s with
    | nil => exact rest
    | cons d s => rwa [List.getLast?_cons_cons, List.getLast?_cons] at *

/-- What does not begin with a word begins with a blank or a break, or is the end. -/
theorem atWhite_chars {chunks : List Chunk} (maximal : Chunk.Maximal chunks)
    (apart : ∀ t, chunks.head? ≠ some (.word t)) :
    atWhite (chunks.flatMap Chunk.chars) = true := by
  cases maximal with
  | nil => rfl
  | word => exact absurd rfl (apart _)
  | @blanks n rest positive =>
    obtain ⟨n, rfl⟩ := Nat.exists_eq_add_one.mpr positive
    rfl
  | @breaks n rest positive =>
    obtain ⟨n, rfl⟩ := Nat.exists_eq_add_one.mpr positive
    rfl

/-- However such stretches are folded, they begin with white too. -/
theorem atWhite_plainChunks (white : atWhite tail = true) {chunks : List Chunk}
    (maximal : Chunk.Maximal chunks) (apart : ∀ t, chunks.head? ≠ some (.word t)) (column : Nat) :
    atWhite (plainChunks indent column chunks ++ tail) = true := by
  cases maximal with
  | nil => exact white
  | word => exact absurd rfl (apart _)
  | @blanks n rest positive =>
    obtain ⟨n, rfl⟩ := Nat.exists_eq_add_one.mpr positive
    rw [plainChunks]
    split <;> rfl
  | @breaks n rest positive =>
    obtain ⟨n, rfl⟩ := Nat.exists_eq_add_one.mpr positive
    rfl

/-- The last character of a text is that of its end. -/
theorem getLast?_any_append {f : Char → Bool} (h : (s ++ r).getLast?.any f = false) :
    r.getLast?.any f = false := by
  rw [List.getLast?_append] at h
  cases last : r.getLast? with
  | none => rfl
  | some c => rwa [last] at h

/-- The stretches of a plain scalar are read as what they are. -/
theorem plain_plainChunks (enough : least ≤ indent) (stops : plain least .none tail = ([], tail))
    {chunks : List Chunk} (maximal : Chunk.Maximal chunks)
    (unbroken : '\n' ∉ chunks.flatMap Chunk.chars)
    (closed : (chunks.flatMap Chunk.chars).getLast?.any isWhite = false)
    {behind : Bool} (clear : hasInnerIndicator behind (chunks.flatMap Chunk.chars) = false)
    (indented : gap.isIndented least = true) (seen : gap ≠ .none → behind = true)
    (solid : gap = .none ∨ ∃ s rest, chunks = .word s :: rest) (column : Nat) :
    plain least gap (plainChunks indent column chunks ++ tail) =
      (gap.chars ++ chunks.flatMap Chunk.chars, tail) := by
  -- on the stretches: the gap holds the one before, until a word shows that it is part of the text
  induction maximal generalizing gap behind column with
  | nil =>
    rcases solid with rfl | ⟨_, _, ⟨⟩⟩
    exact stops
  | @word s rest nonempty each apart maximal ih =>
    have same : atWhite (plainChunks indent (column + s.length) rest ++ tail) = true →
        atWhite (rest.flatMap Chunk.chars) = true := fun _ => atWhite_chars maximal apart
    rw [List.flatMap_cons] at *
    rw [plainChunks, List.append_assoc, plain_word each nonempty indented seen clear same,
      ih (fun inside => unbroken (List.mem_append_right _ inside)) (getLast?_any_append closed)
        (hasInnerIndicator_append clear) rfl (fun other => absurd rfl other) (.inl rfl),
      before, Gap.chars_none, List.nil_append, List.append_assoc]
    rfl
  | @blanks n rest positive apart maximal ih =>
    obtain rfl : gap = .none := solid.resolve_right (by rintro ⟨_, _, ⟨⟩⟩)
    obtain ⟨n, rfl⟩ := Nat.exists_eq_add_one.mpr positive
    rw [List.flatMap_cons] at *
    -- blanks are not the end of the scalar, and no break follows them, so a word does
    have word : ∃ s others, rest = .word s :: others := by
      cases maximal with
      | nil => simp [Chunk.chars, List.getLast?_replicate, isWhite] at closed
      | word => exact ⟨_, _, rfl⟩
      | blanks => exact absurd rfl (apart _)
      | @breaks m others positive =>
        obtain ⟨m, rfl⟩ := Nat.exists_eq_add_one.mpr positive
        exact absurd (List.mem_append_right _ List.mem_cons_self) unbroken
    have clearRest : hasInnerIndicator true (rest.flatMap Chunk.chars) = false := by
      simpa [Chunk.chars, List.getLast?_replicate, isWhite] using hasInnerIndicator_append clear
    have read : ∀ gap : Gap, gap.isIndented least = true → ∀ column,
        plain least gap (plainChunks indent column rest ++ tail) =
          (gap.chars ++ rest.flatMap Chunk.chars, tail) := fun gap indented column =>
      ih (fun inside => unbroken (List.mem_append_right _ inside)) (getLast?_any_append closed)
        clearRest indented (fun _ => rfl) (.inr word) column
    rw [plainChunks]
    split
    · rename_i folded
      obtain ⟨rfl, -⟩ : n = 0 ∧ _ := ⟨Nat.succ.inj folded.1, folded.2⟩
      rw [List.append_assoc]
      exact plain_fold indent (read (.lines 0 indent) (decide_eq_true enough) _)
        (List.cons_ne_nil _ _)
    · rw [List.append_assoc]
      refine plain_blanks (n + 1) ?_ (List.cons_ne_nil _ _)
      rw [Gap.none_wider]
      exact read (.blanks (n + 1)) rfl _
  | @breaks n rest positive apart maximal ih =>
    obtain ⟨n, rfl⟩ := Nat.exists_eq_add_one.mpr positive
    exact absurd (List.mem_append_left _ List.mem_cons_self) unbroken

/-! ## Single quotes -/

/-- In single quotes a blank widens the gap. -/
theorem single_blank (gap : Gap) (s : List Char) :
    single least gap (' ' :: s) = single least gap.blank s := by
  rw [single.eq_def]
  dsimp only
  rw [if_pos rfl]

/-- A newline breaks the line. -/
theorem single_newline (gap : Gap) (s : List Char) :
    single least gap ('\n' :: s) = single least gap.newline s := by
  rw [single.eq_def]
  dsimp only
  rw [if_neg (by decide), if_pos rfl]

/-- A quote that no other one follows closes the scalar. -/
theorem single_close (indented : gap.isIndented least = true) (other : ∀ t, tail ≠ '\'' :: t) :
    single least gap ('\'' :: tail) = some (gap.chars, tail) := by
  rw [single.eq_def]
  dsimp only
  rw [if_neg (by decide), if_neg (by decide), if_neg (by simp [indented]), if_pos rfl]
  cases tail with
  | nil => rfl
  | cons c t =>
    split
    · rename_i same
      exact absurd same (other _)
    · rfl

/-- Two quotes are read as one. -/
theorem single_quote (indented : gap.isIndented least = true) (s : List Char) :
    single least gap ('\'' :: '\'' :: s) =
      (single least .none s).map (before (gap.chars ++ ['\''])) := by
  rw [single.eq_def]
  dsimp only
  rw [if_neg (by decide), if_neg (by decide), if_neg (by simp [indented]), if_pos rfl]
  rfl

/-- Any other character is read as it is, behind the gap before it. -/
theorem single_cons (white : isWhite c = false) (other : c ≠ '\'')
    (indented : gap.isIndented least = true) (s : List Char) :
    single least gap (c :: s) = (single least .none s).map (before (gap.chars ++ [c])) := by
  obtain ⟨blank, newline⟩ := Bool.or_eq_false_iff.mp white
  rw [single.eq_def]
  dsimp only
  rw [if_neg (by simpa using blank), if_neg (by simpa using newline),
    if_neg (by simp [indented]), if_neg other]

/-- Blanks widen the gap, one by one. -/
theorem single_blanks (gap : Gap) (n : Nat) (s : List Char) :
    single least gap (List.replicate n ' ' ++ s) = single least (gap.wider n) s := by
  induction n generalizing gap with
  | zero => rw [gap.wider_zero, List.replicate_zero, List.nil_append]
  | succ n ih => rw [← gap.wider_blank, ← ih, List.replicate_succ, List.cons_append, single_blank]

/-- Each newline is one more empty line. -/
theorem single_newlines (empty n : Nat) (s : List Char) :
    single least (.lines empty 0) (List.replicate n '\n' ++ s) =
      single least (.lines (empty + n) 0) s := by
  induction n generalizing empty with
  | zero => rfl
  | succ n ih =>
    rw [← Nat.add_assoc, Nat.add_right_comm, ← ih, List.replicate_succ, List.cons_append,
      single_newline, Gap.newline]

/-- Some breaks and a fold are read as a gap with as many empty lines. -/
theorem single_fold (indent n : Nat) (s : List Char) :
    single least .none (List.replicate n '\n' ++ (fold indent ++ s)) =
      single least (.lines n indent) s := by
  have together : List.replicate n '\n' ++ (fold indent ++ s) =
      '\n' :: (List.replicate n '\n' ++ (List.replicate indent ' ' ++ s)) := by
    rw [← List.cons_append, ← List.replicate_succ, List.replicate_succ', fold, List.append_assoc]
    rfl
  rw [together, single_newline, Gap.none, Gap.newline, single_newlines, single_blanks, Gap.wider,
    Nat.zero_add, Nat.zero_add]

/-- A word is read as it is, with the quotes in it that are written twice. -/
theorem single_word (solid : ∀ c ∈ s, isWhite c = false) (nonempty : s ≠ [])
    (indented : gap.isIndented least = true) :
    single least gap (singleWord s ++ e) =
      (single least .none e).map (before (gap.chars ++ s)) := by
  induction s generalizing gap with
  | nil => exact absurd rfl nonempty
  | cons c s ih =>
    obtain ⟨first, solid⟩ := List.forall_mem_cons.mp solid
    have step : single least gap (singleWord (c :: s) ++ e) =
        (single least .none (singleWord s ++ e)).map (before (gap.chars ++ [c])) := by
      by_cases quote : c = '\''
      · subst quote
        exact single_quote indented _
      · have written : singleWord (c :: s) = c :: singleWord s := by simp [singleWord, quote]
        rw [written]
        exact single_cons first quote indented _
    rw [step]
    cases s with
    | nil => rfl
    | cons d s =>
      rw [ih solid (List.cons_ne_nil _ _) rfl, Option.map_map]
      congr 1
      funext r
      rw [Function.comp, before_before, Gap.chars_none, List.nil_append, List.append_assoc]
      rfl

/-- A text without blanks at its breaks has none behind some of its characters. -/
theorem hasBlankAtBreak_append (kept : hasBlankAtBreak (s ++ r) = false) :
    hasBlankAtBreak r = false := by
  induction s with
  | nil => exact kept
  | cons c s ih =>
    refine ih ?_
    cases rest : s ++ r with
    | nil => rfl
    | cons d t =>
      rw [List.cons_append, rest] at kept
      exact (Bool.or_eq_false_iff.mp kept).2

/-- No blank and no break stand side by side, so that words follow. -/
theorem word_of_kept {chunks : List Chunk} (maximal : Chunk.Maximal chunks) {d : Char} {n : Nat}
    (kept : hasBlankAtBreak (List.replicate (n + 1) d ++ chunks.flatMap Chunk.chars) = false)
    (white : isWhite d = true)
    (apart : d = ' ' → ∀ m, chunks.head? ≠ some (.blanks m))
    (apart' : d = '\n' → ∀ m, chunks.head? ≠ some (.breaks m)) :
    ∀ chunk ∈ chunks.head?, ∃ s, chunk = .word s := by
  rw [List.replicate_succ', List.append_assoc] at kept
  have beside := hasBlankAtBreak_append kept
  have either : d = ' ' ∨ d = '\n' := by simpa [isWhite] using white
  intro chunk head
  cases maximal with
  | nil => cases head
  | word => exact ⟨_, (Option.some.inj head).symm⟩
  | @blanks m rest positive =>
    obtain ⟨m, rfl⟩ := Nat.exists_eq_add_one.mpr positive
    rcases either with rfl | rfl
    · exact absurd rfl (apart rfl _)
    · exact Bool.noConfusion beside
  | @breaks m rest positive =>
    obtain ⟨m, rfl⟩ := Nat.exists_eq_add_one.mpr positive
    rcases either with rfl | rfl
    · exact Bool.noConfusion beside
    · exact absurd rfl (apart' rfl _)

/-- The stretches between single quotes are read as what they are. -/
theorem single_singleChunks (enough : least ≤ indent) (other : ∀ t, tail ≠ '\'' :: t)
    {chunks : List Chunk} (maximal : Chunk.Maximal chunks)
    (kept : hasBlankAtBreak (chunks.flatMap Chunk.chars) = false)
    (indented : gap.isIndented least = true)
    (solid : gap = .none ∨ ∀ chunk ∈ chunks.head?, ∃ s, chunk = .word s) (first : Bool)
    (column : Nat) :
    single least gap (singleChunks indent first column chunks ++ '\'' :: tail) =
      some (gap.chars ++ chunks.flatMap Chunk.chars, tail) := by
  -- as for plain scalars, but blanks and breaks may also end the text, right before the quote
  induction maximal generalizing gap first column with
  | nil => rw [singleChunks, List.nil_append, single_close indented other, List.flatMap_nil,
      List.append_nil]
  | @word s rest nonempty each apart maximal ih =>
    rw [List.flatMap_cons] at *
    rw [singleChunks, List.append_assoc, single_word each nonempty indented,
      ih (hasBlankAtBreak_append kept) rfl (.inl rfl), Option.map_some, before, Gap.chars_none,
      List.nil_append, List.append_assoc]
    rfl
  | @blanks n rest positive apart maximal ih =>
    obtain rfl : gap = .none := solid.resolve_right fun words => by
      obtain ⟨_, ⟨⟩⟩ := words _ rfl
    obtain ⟨n, rfl⟩ := Nat.exists_eq_add_one.mpr positive
    rw [List.flatMap_cons] at *
    have words := word_of_kept maximal kept rfl (fun _ => apart) nofun
    have read : ∀ gap : Gap, gap.isIndented least = true → ∀ column,
        single least gap (singleChunks indent false column rest ++ '\'' :: tail) =
          some (gap.chars ++ rest.flatMap Chunk.chars, tail) := fun gap indented column =>
      ih (hasBlankAtBreak_append kept) indented (.inr words) false column
    rw [singleChunks]
    split
    · rename_i folded
      obtain rfl : n = 0 := Nat.succ.inj folded.1
      rw [List.append_assoc]
      exact (single_fold indent 0 _).trans (read (.lines 0 indent) (decide_eq_true enough) _)
    · rw [List.append_assoc, single_blanks, Gap.none_wider]
      exact read (.blanks (n + 1)) rfl _
  | @breaks n rest positive apart maximal ih =>
    obtain rfl : gap = .none := solid.resolve_right fun words => by
      obtain ⟨_, ⟨⟩⟩ := words _ rfl
    obtain ⟨n, rfl⟩ := Nat.exists_eq_add_one.mpr positive
    rw [List.flatMap_cons] at *
    have words := word_of_kept maximal kept rfl nofun fun _ => apart
    have lines : Gap.isIndented least (.lines (n + 1) indent) = true := decide_eq_true enough
    rw [singleChunks, List.append_assoc, List.append_assoc, single_fold,
      ih (hasBlankAtBreak_append kept) lines (.inr words) false]
    rfl

end Reader

end TrialRun.Yaml
