import TrialRun.Proofs.Yaml.Escapes

/-!
# Every style is read back

The three styles together: a scalar is read as the text it was written for, whatever its style
(`scalar_written`), if no line follows that could belong to it.
-/

set_option autoImplicit false

namespace TrialRun.Yaml.Reader

variable {least indent : Nat} {gap : Gap} {c : Char} {s t tail next : List Char}

/-- The next line does not go on with a plain scalar. -/
def Ends (least : Nat) (next : List Char) : Prop := (plain least (.lines 0 0) next).1 = []

/-- Nothing goes on at the end of the text. -/
theorem ends_nil (least : Nat) : Ends least [] := rfl

/-- Blanks and breaks that no piece of the scalar follows are left behind it. -/
theorem plain_idle (white : isWhite c = true)
    (empty : (plain least (if c = ' ' then gap.blank else gap.newline) s).1 = []) :
    plain least gap (c :: s) = ([], c :: s) := by
  rw [plain, if_pos white]
  simp [empty]

theorem Ends.plain_newline (h : Ends least next) :
    plain least .none ('\n' :: next) = ([], '\n' :: next) := plain_idle rfl h

/-- A line that is not indented enough does not go on with it. -/
theorem ends_of_column {column : Nat} (short : column < least) (white : isWhite c = false)
    (s : List Char) : Ends least (List.replicate column ' ' ++ c :: s) := by
  have behind : ∀ column passed, passed + column < least →
      (plain least (.lines 0 passed) (List.replicate column ' ' ++ c :: s)).1 = [] := by
    intro column
    induction column with
    | zero =>
      intro passed short
      have stops : endsPlain least (.lines 0 passed) c s = true := by
        have outside : Gap.isIndented least (.lines 0 passed) = false :=
          decide_eq_false (Nat.not_le.mpr short)
        rw [endsPlain, outside, Bool.not_false, Bool.or_true]
      rw [List.replicate_zero, List.nil_append, plain, if_neg (by simp [white]), if_pos stops]
    | succ column ih =>
      intro passed short
      rw [List.replicate_succ, List.cons_append, plain_idle rfl (ih (passed + 1) (by omega))]
  exact behind column 0 (by omega)

/-! ## Plain scalars -/

theorem prepend_word (white : isWhite c = false) (s : List Char) (rest : List Chunk) :
    Chunk.prepend c (.word s :: rest) = .word (c :: s) :: rest := by
  obtain ⟨blank, newline⟩ : c ≠ ' ' ∧ c ≠ '\n' := by simpa [isWhite] using white
  rw [Chunk.prepend] <;> simp [blank, newline]

/-- A text that begins with a solid character begins with a word. -/
theorem split_cons (white : isWhite c = false) (s : List Char) :
    ∃ t rest, Chunk.split (c :: s) = .word (c :: t) :: rest := by
  obtain ⟨blank, newline⟩ := Bool.or_eq_false_iff.mp white
  show ∃ t rest, Chunk.prepend c (Chunk.split s) = _
  unfold Chunk.prepend
  split
  · cases blank
  · cases blank
  · cases newline
  · cases newline
  · exact ⟨_, _, rfl⟩
  · exact ⟨[], _, rfl⟩

/-- A text without blanks and breaks is one word. -/
theorem split_word (white : isWhite c = false) (solid : ∀ d ∈ s, isWhite d = false) :
    Chunk.split (c :: s) = [.word (c :: s)] := by
  induction s generalizing c with
  | nil =>
    obtain ⟨blank, newline⟩ : c ≠ ' ' ∧ c ≠ '\n' := by simpa [isWhite] using white
    show Chunk.prepend c [] = _
    rw [Chunk.prepend] <;> simp [blank, newline]
  | cons d s ih =>
    obtain ⟨first, solid⟩ := List.forall_mem_cons.mp solid
    show Chunk.prepend c (Chunk.split (d :: s)) = _
    rw [ih first solid, prepend_word white]

/-- What a text that needs no quotes is like. -/
structure IsPlain (c : Char) (s : List Char) : Prop where
  special : ∀ d ∈ c :: s, isSpecial d = false
  newline : '\n' ∉ c :: s
  white : isWhite c = false
  closed : (c :: s).getLast?.any isWhite = false
  head : c ∉ headIndicators
  introduces : c = '?' ∨ c = '-' → atWhite s = false
  clear : hasInnerIndicator true (c :: s) = false
  resolved : Implicit.resolve (c :: s) = .text

/-- The writer's condition for plain scalars is what the reader needs of them. -/
theorem isPlain_of_allowsPlain (allowed : allowsPlain s = true) :
    ∃ c t, s = c :: t ∧ IsPlain c t := by
  simp only [allowsPlain, Bool.and_eq_true, Bool.not_eq_true', beq_iff_eq] at allowed
  obtain ⟨⟨⟨⟨special, newline⟩, ends⟩, indicator⟩, kind⟩ := allowed
  cases s with
  | nil => cases kind
  | cons c t =>
    simp only [hasWhiteEnd, Bool.or_eq_false_iff] at ends
    simp only [hasIndicator, Bool.or_eq_false_iff] at indicator
    obtain ⟨⟨-, head, introduces⟩, clear⟩ := indicator
    refine ⟨c, t, rfl, ?_⟩
    exact
      { special := fun d inside => by simpa using List.any_eq_false.mp special d inside
        newline := by simpa using newline
        white := by simpa using ends.1
        closed := ends.2
        head := by simpa using head
        introduces := fun which => by
          rcases which with rfl | rfl <;> simpa using introduces
        clear := clear
        resolved := Implicit.resolve_of_ofPlain kind }

/-- A plain scalar may begin so, also if its first blank has become a fold. -/
theorem IsPlain.startsPlain (plain : IsPlain c s) (goesOn : atWhite s = false → atWhite t = false) :
    startsPlain (c :: t) = true := by
  have kinds : indicators.all (fun d => headIndicators.contains d || d == '?' || d == '-' ||
      d == ':' || isWhite d) = true := by decide
  by_cases inside : c ∈ indicators
  · have unblank : (c = '?' ∨ c = '-' ∨ c = ':') ∧ atWhite s = false := by
      have kind : (((c ∈ headIndicators ∨ c = '?') ∨ c = '-') ∨ c = ':') ∨ isWhite c = true := by
        simpa using List.all_eq_true.mp kinds c inside
      rcases kind with (((head | rfl) | rfl) | rfl) | white
      · exact absurd head plain.head
      · exact ⟨.inl rfl, plain.introduces (.inl rfl)⟩
      · exact ⟨.inr (.inl rfl), plain.introduces (.inr rfl)⟩
      · have clear := plain.clear
        simp only [hasInnerIndicator, Bool.or_eq_false_iff] at clear
        exact ⟨.inr (.inr rfl), by simpa using clear.1.1⟩
      · exact absurd white (by simp [plain.white])
    rw [Reader.startsPlain, goesOn unblank.2]
    rcases unblank.1 with rfl | rfl | rfl <;> rfl
  · simp [Reader.startsPlain, inside]

/-- What is read as a plain text is read as a scalar of this text. -/
theorem IsPlain.scalar_eq (isPlain : IsPlain c s) (goesOn : atWhite s = false → atWhite t = false)
    (read : plain least .none (c :: t) = (c :: s, tail)) :
    scalar least (c :: t) = some (.text (String.ofList (c :: s)), tail) := by
  have unquoted : c ≠ '\'' ∧ c ≠ '"' := by
    constructor <;> rintro rfl <;> exact absurd isPlain.head (by decide)
  rw [scalar]
  · rw [if_pos (isPlain.startsPlain goesOn), read]
    dsimp only
    rw [isPlain.resolved, Value.text]
  · exact fun _ quote => unquoted.1 (List.cons.inj quote).1
  · exact fun _ quote => unquoted.2 (List.cons.inj quote).1

/-- A plain scalar is read as the text that it was written for. -/
theorem scalar_plain (enough : least ≤ indent) (allowed : allowsPlain s = true) (column : Nat)
    (stops : plain least .none tail = ([], tail)) (white : atWhite tail = true) :
    ∃ c t, plainChunks indent column (Chunk.split s) = c :: t ∧ isWhite c = false ∧
      scalar least (c :: t ++ tail) = some (.text (String.ofList s), tail) := by
  obtain ⟨c, t, rfl, isPlain⟩ := isPlain_of_allowsPlain allowed
  obtain ⟨u, rest, split⟩ := split_cons isPlain.white t
  have maximal := Chunk.maximal_split (c :: t)
  have chars := Chunk.chars_split (c :: t)
  have read : plain least .none (plainChunks indent column (Chunk.split (c :: t)) ++ tail) =
      (c :: t, tail) := by
    have clear : hasInnerIndicator true ((Chunk.split (c :: t)).flatMap Chunk.chars) = false := by
      rw [chars]
      exact isPlain.clear
    have whole := plain_plainChunks enough stops maximal (by rw [chars]; exact isPlain.newline)
      (by rw [chars]; exact isPlain.closed) clear rfl (fun _ => rfl) (.inl rfl) column
    rwa [chars] at whole
  rw [split] at read maximal chars
  have word : plainChunks indent column (.word (c :: u) :: rest) =
      c :: (u ++ plainChunks indent (column + (c :: u).length) rest) := by
    rw [plainChunks, List.cons_append]
  have same : atWhite (u ++ plainChunks indent (column + (c :: u).length) rest ++ tail) =
      atWhite t := by
    have rest_eq : t = u ++ rest.flatMap Chunk.chars := (List.cons.inj chars).2.symm
    cases maximal with
    | word _ _ apart maximal =>
      rw [rest_eq, List.append_assoc]
      cases u with
      | nil =>
        exact (atWhite_plainChunks white maximal apart _).trans (atWhite_chars maximal apart).symm
      | cons d u => rfl
  rw [split, word]
  rw [word, List.cons_append] at read
  exact ⟨c, _, rfl, isPlain.white, isPlain.scalar_eq same.trans read⟩

/-! ## All styles -/

theorem allowsPlain_of_style (chosen : Style.of s = .plain) : allowsPlain s = true := by
  by_contra other
  rw [Style.of, if_neg other] at chosen
  split at chosen <;> cases chosen

theorem allowsSingle_of_style (chosen : Style.of s = .single) : allowsSingle s = true := by
  rw [Style.of] at chosen
  split at chosen
  · cases chosen
  · by_contra other
    rw [if_neg other] at chosen
    cases chosen

/-- A scalar is read as the text that it was written for, whatever is written behind it on the lines
that follow. -/
theorem scalar_written (enough : least ≤ indent) (narrow : indent < width) (column : Nat)
    (s : List Char) (stops : plain least .none tail = ([], tail)) (white : atWhite tail = true) :
    ∃ c t, Yaml.scalar indent column s = ' ' :: c :: t ∧ isWhite c = false ∧
      scalar least (c :: t ++ tail) = some (.text (String.ofList s), tail) := by
  rw [Yaml.scalar]
  split
  · rename_i chosen
    have allowed := allowsPlain_of_style chosen
    obtain ⟨c, t, written, solid, read⟩ := scalar_plain enough allowed (column + 1) stops white
    exact ⟨c, t, congrArg (' ' :: ·) written, solid, read⟩
  · rename_i chosen
    have allowed := allowsSingle_of_style chosen
    have kept : hasBlankAtBreak ((Chunk.split s).flatMap Chunk.chars) = false := by
      rw [Chunk.chars_split]
      simpa using ((Bool.and_eq_true _ _).mp allowed).2
    have other : ∀ t, tail ≠ '\'' :: t := by
      rintro t rfl
      cases white
    have read := single_singleChunks enough other (Chunk.maximal_split s) kept rfl (.inl rfl) true
      (column + 2)
    refine ⟨'\'', singleChunks indent true (column + 2) (Chunk.split s) ++ ['\''], rfl, rfl, ?_⟩
    rw [List.cons_append, List.append_assoc, List.singleton_append, scalar, read, Chunk.chars_split]
    rfl
  · have read : double least (.text .none)
        (doubleChars indent false (column + 2) true s ++ '"' :: tail) = some (s, tail) :=
      (double_doubleChars enough narrow s).1 .none false (column + 2) true rfl (.inl ⟨0, rfl⟩)
    refine ⟨'"', doubleChars indent false (column + 2) true s ++ ['"'], rfl, rfl, ?_⟩
    rw [List.cons_append, List.append_assoc, List.singleton_append, scalar, read]
    rfl

end TrialRun.Yaml.Reader
