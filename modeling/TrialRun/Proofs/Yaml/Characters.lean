import TrialRun.Proofs.Yaml.Styles
import TrialRun.Yaml.Document

/-!
# What is written may stand in a document

A loader refuses a document with a character that cannot be shown, before it reads anything.  The
writer shows such characters by their escapes, in double quotes, so that whatever the texts are only
characters of a document are written (`all_write`).
-/

set_option autoImplicit false

namespace TrialRun.Yaml.Reader

variable {c : Char} {s : List Char}

/-- What is not special may stand in a stream. -/
theorem isStreamChar_of_not_special (h : isSpecial c = false) : isStreamChar c = true := by
  simp only [isSpecial, Bool.not_eq_false', Bool.or_eq_true, Bool.and_eq_true, beq_iff_eq,
    decide_eq_true_eq] at h
  rcases h with rfl | ⟨low, high⟩
  · rfl
  · simp [isStreamChar, low, high]

/-- A fold is made of a newline and blanks. -/
theorem all_fold (indent : Nat) : (fold indent).all isStreamChar = true := by
  rw [fold, List.all_cons, List.all_replicate]
  split <;> rfl

/-! ## Without escapes -/

/-- Plain stretches are copied or folded. -/
theorem all_plainChunks {chunks : List Chunk}
    (each : (chunks.flatMap Chunk.chars).all isStreamChar = true) (indent column : Nat) :
    (plainChunks indent column chunks).all isStreamChar = true := by
  induction chunks generalizing column with
  | nil => rfl
  | cons chunk chunks ih =>
    rw [List.flatMap_cons, List.all_append, Bool.and_eq_true] at each
    obtain ⟨first, each⟩ := each
    cases chunk with
    | word s =>
      rw [plainChunks, List.all_append, ih each, Bool.and_true]
      exact first
    | blanks n =>
      rw [plainChunks]
      split
      · rw [List.all_append, all_fold, ih each]
        rfl
      · rw [List.all_append, ih each, Bool.and_true]
        exact first
    | breaks n =>
      rw [plainChunks, List.all_append, ih each, Bool.and_true]
      exact first

/-- Quotes that are doubled may stand in a stream. -/
theorem all_singleWord (each : s.all isStreamChar = true) :
    (singleWord s).all isStreamChar = true := by
  rw [singleWord, List.all_flatMap, List.all_eq_true]
  intro c inside
  have fits := List.all_eq_true.mp each c inside
  split
  · rfl
  · rw [List.all_cons, fits]
    rfl

/-- So may stretches in single quotes. -/
theorem all_singleChunks {chunks : List Chunk}
    (each : (chunks.flatMap Chunk.chars).all isStreamChar = true) (indent : Nat) (first : Bool)
    (column : Nat) : (singleChunks indent first column chunks).all isStreamChar = true := by
  induction chunks generalizing first column with
  | nil => rfl
  | cons chunk chunks ih =>
    rw [List.flatMap_cons, List.all_append, Bool.and_eq_true] at each
    obtain ⟨here, each⟩ := each
    cases chunk with
    | word s =>
      rw [singleChunks, List.all_append, ih each, Bool.and_true]
      exact all_singleWord here
    | blanks n =>
      rw [singleChunks]
      split
      · rw [List.all_append, all_fold, ih each]
        rfl
      · rw [List.all_append, ih each, Bool.and_true]
        exact here
    | breaks n =>
      rw [singleChunks, List.all_append, List.all_append, all_fold, ih each, Bool.and_true,
        Bool.and_true]
      exact here

/-! ## Escapes -/

/-- What is written as it is in double quotes may stand in a stream. -/
theorem isStreamChar_of_verbatim (h : isVerbatim c = true) : isStreamChar c = true := by
  obtain ⟨⟨⟨low, high⟩, -⟩, -⟩ := isVerbatim_iff.mp h
  simp [isStreamChar, low, high]

/-- So may digits to base sixteen. -/
theorem all_upperHex (width n : Nat) : (upperHex width n).all isStreamChar = true := by
  have digit : ∀ d < 16, isStreamChar (Text.hexDigit d).toUpper = true := by decide
  rw [upperHex, List.all_map]
  induction width generalizing n with
  | zero => rfl
  | succ width ih =>
    rw [Text.hexDigits, List.all_append, ih, List.all_cons, Function.comp,
      digit _ (Nat.mod_lt n (by decide))]
    rfl

theorem isStreamChar_backslash : isStreamChar '\\' = true := rfl

/-- An escape is made of a backslash, letters and digits, whatever it stands for. -/
theorem all_escape (c : Char) : (escape c).all isStreamChar = true := by
  have letter : ∀ {l : Char}, (escaped l).isSome = true ∨ (codeLength l).isSome = true →
      isStreamChar l = true := by
    intro l known
    rcases known with known | known
    · unfold escaped at known
      split at known
      all_goals first | rfl | cases known
    · unfold codeLength at known
      split at known
      all_goals first | rfl | cases known
  rcases escape_cases c with ⟨l, written, stands, -⟩ | ⟨l, more, written, -, introduces, -⟩
  · have shown := letter (.inl (Option.isSome_of_eq_some stands))
    rw [written]
    simp [isStreamChar_backslash, shown]
  · have shown := letter (.inr (Option.isSome_of_eq_some introduces))
    rw [written]
    simp [isStreamChar_backslash, shown, all_upperHex]

/-- A text in double quotes is written with such characters only, by induction on it. -/
theorem all_doubleChars (indent : Nat) (inner : Bool) (column : Nat) (fresh : Bool)
    (s : List Char) : (doubleChars indent inner column fresh s).all isStreamChar = true := by
  have guard : ∀ p : Prop, ∀ [Decidable p], (if p then ['\\'] else []).all isStreamChar = true := by
    intro p _
    split <;> rfl
  induction s generalizing inner column fresh with
  | nil => rfl
  | cons c s ih =>
    rw [doubleChars]
    split
    · have shown := isStreamChar_of_verbatim ‹_›
      split
      · simp [isStreamChar_backslash, all_fold, guard, shown, ih]
      · simp [shown, ih]
    · dsimp only
      split
      · simp [isStreamChar_backslash, all_escape, all_fold, guard, ih]
      · simp [all_escape, ih]

/-! ## All styles -/

/-- **Whatever text is written, each character of its scalar may stand in a stream.** -/
theorem all_scalar (indent column : Nat) (s : List Char) :
    (Yaml.scalar indent column s).all isStreamChar = true := by
  have unescaped : s.any isSpecial = false →
      ((Chunk.split s).flatMap Chunk.chars).all isStreamChar = true := by
    intro special
    rw [Chunk.chars_split]
    refine List.all_eq_true.mpr fun c inside => isStreamChar_of_not_special ?_
    simpa using List.any_eq_false.mp special c inside
  have quotes : isStreamChar ' ' = true ∧ isStreamChar '\'' = true ∧ isStreamChar '"' = true :=
    ⟨rfl, rfl, rfl⟩
  rw [Yaml.scalar]
  split
  · rename_i chosen
    have allowed := allowsPlain_of_style chosen
    simp only [allowsPlain, Bool.and_eq_true, Bool.not_eq_true'] at allowed
    simp [quotes, all_plainChunks (unescaped allowed.1.1.1.1)]
  · rename_i chosen
    have allowed := allowsSingle_of_style chosen
    simp only [allowsSingle, Bool.and_eq_true, Bool.not_eq_true'] at allowed
    simp [quotes, all_singleChunks (unescaped allowed.1)]
  · simp [quotes, all_doubleChars]

/-- A key is a scalar with a colon. -/
theorem all_key (indent : Nat) (name : String) : (key indent name).all isStreamChar = true := by
  have indentation : (List.replicate indent ' ').all isStreamChar = true := by
    rw [List.all_replicate]
    split <;> rfl
  have written : ((Yaml.scalar 0 0 name.toList).drop 1).all isStreamChar = true := by
    rw [List.all_eq_true]
    exact fun c inside => List.all_eq_true.mp (all_scalar 0 0 _) c (List.mem_of_mem_drop inside)
  rw [key, List.all_append, List.all_append, indentation, written]
  rfl

/-- Whatever the texts and names of a document are, it is written in characters of a document. -/
theorem all_write (d : Document) : d.write.toList.all isStreamChar = true := by
  have items : ∀ item, (listItem item).all isStreamChar = true := by
    intro item
    rw [listItem, List.cons_append, List.all_cons, List.all_append, all_scalar]
    rfl
  have entries : ∀ e, (mapEntry e).all isStreamChar = true := by
    intro e
    rw [mapEntry, List.all_append, List.all_append, all_key, all_scalar]
    rfl
  have blocks : ∀ b, (block b).all isStreamChar = true := by
    intro b
    have newline : isStreamChar '\n' = true := rfl
    unfold block
    split
    · rfl
    · rfl
    · simp [items, newline]
    · simp [entries, newline]
  rw [Document.write, String.toList_ofList, List.all_flatMap, List.all_eq_true]
  intro b _
  rw [List.all_append, all_key, blocks]
  rfl

end TrialRun.Yaml.Reader
