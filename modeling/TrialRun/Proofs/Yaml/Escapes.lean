import TrialRun.Proofs.Yaml.Scalars

/-!
# Double quotes

Between double quotes everything but printable ASCII is escaped, by a letter or by the code of the
character in hexadecimal digits, and a line may end with a backslash.  The reader gets back each
character from its escape (`double_escape`), and skips a backslash with the break and the blanks
behind it.  A blank that begins a line has a backslash before it and is not skipped.
-/

set_option autoImplicit false

namespace TrialRun.Yaml.Reader

variable {least indent : Nat} {gap : Gap} {c : Char} {s e tail : List Char}

/-! ## Steps of the reader -/

/-- A blank is kept back: only what follows tells whether it is part of the text. -/
theorem double_blank (gap : Gap) (s : List Char) :
    double least (.text gap) (' ' :: s) = double least (.text gap.blank) s := by
  rw [double.eq_def]
  exact if_pos rfl

/-- The closing quote ends the text with the characters of the gap before it. -/
theorem double_close (indented : gap.isIndented least = true) (s : List Char) :
    double least (.text gap) ('"' :: s) = some (gap.chars, s) := by
  rw [double.eq_def]
  dsimp only
  rw [if_neg (by decide), if_neg (by decide), if_neg (by simp [indented]), if_pos rfl]

theorem double_backslash (indented : gap.isIndented least = true) (s : List Char) :
    double least (.text gap) ('\\' :: s) = (double least .escape s).map (before gap.chars) := by
  rw [double.eq_def]
  dsimp only
  rw [if_neg (by decide), if_neg (by decide), if_neg (by simp [indented]), if_neg (by decide),
    if_pos rfl]

/-- Printable characters of ASCII stand for themselves, but for quotes and backslashes. -/
theorem isVerbatim_iff : isVerbatim c = true ↔
    ((0x20 ≤ c.toNat ∧ c.toNat ≤ 0x7e) ∧ c ≠ '"') ∧ c ≠ '\\' := by
  simp [isVerbatim]

theorem double_verbatim (verbatim : isVerbatim c = true) (solid : c ≠ ' ')
    (indented : gap.isIndented least = true) (s : List Char) :
    double least (.text gap) (c :: s) =
      (double least (.text .none) s).map (before (gap.chars ++ [c])) := by
  obtain ⟨⟨⟨low, -⟩, quote⟩, backslash⟩ := isVerbatim_iff.mp verbatim
  have newline : c ≠ '\n' := by
    rintro rfl
    exact absurd low (by decide)
  rw [double.eq_def]
  dsimp only
  rw [if_neg solid, if_neg newline, if_neg (by simp [indented]), if_neg quote, if_neg backslash]

/-- A backslash at the end of a line joins it to the next one. -/
theorem double_joint (s : List Char) :
    double least .escape ('\n' :: s) = double least (.text (.joint 0 0)) s := by
  rw [double.eq_def]
  exact if_pos rfl

/-- Of an escape with a letter the character it stands for is read. -/
theorem double_letter {l : Char} (stands : escaped l = some c) (other : l ≠ '\n') (s : List Char) :
    double least .escape (l :: s) = (double least (.text .none) s).map (before [c]) := by
  rw [double.eq_def]
  dsimp only
  rw [if_neg other, stands]

/-- Of an escape by code the number of digits is known first. -/
theorem double_introduction {l : Char} {more : Nat} (unnamed : escaped l = none)
    (introduces : codeLength l = some more) (other : l ≠ '\n') (s : List Char) :
    double least .escape (l :: s) = double least (.code more 0) s := by
  rw [double.eq_def]
  dsimp only
  rw [if_neg other, unnamed, introduces]

theorem double_blanks (gap : Gap) (n : Nat) (s : List Char) :
    double least (.text gap) (List.replicate n ' ' ++ s) =
      double least (.text (gap.wider n)) s := by
  induction n generalizing gap with
  | zero => rw [gap.wider_zero, List.replicate_zero, List.nil_append]
  | succ n ih => rw [← gap.wider_blank, ← ih, List.replicate_succ, List.cons_append, double_blank]

/-- A line that ends with a backslash is read without it, and without what begins the next one. -/
theorem double_fold (indented : gap.isIndented least = true) (indent : Nat) (s : List Char) :
    double least (.text gap) ('\\' :: fold indent ++ s) =
      (double least (.text (.joint 0 indent)) s).map (before gap.chars) := by
  rw [List.cons_append, double_backslash indented, fold, List.cons_append, double_joint,
    double_blanks, Gap.wider, Nat.zero_add]

/-! ## Codes -/

/-- The value of hexadecimal digits that follow others with this value. -/
def codeTotal (value : Nat) (digits : List Char) : Option Nat :=
  digits.foldlM (fun v c => (hexValue c).map (16 * v + ·)) value

/-- The digits that are written are read as the number they stand for, behind any digits before
them. -/
theorem codeTotal_upperHex (width value n : Nat) :
    codeTotal value (upperHex width n) = some (16 ^ width * value + n % 16 ^ width) := by
  induction width generalizing n with
  | zero => simp [codeTotal, upperHex, Text.hexDigits, Nat.mod_one]
  | succ width ih =>
    have digit : ∀ d < 16, hexValue (Text.hexDigit d).toUpper = some d := by decide
    have last : upperHex (width + 1) n =
        upperHex width (n / 16) ++ [(Text.hexDigit (n % 16)).toUpper] := by
      simp [upperHex, Text.hexDigits]
    have whole : codeTotal value (upperHex (width + 1) n) =
        (codeTotal value (upperHex width (n / 16))).bind fun v =>
          codeTotal v [(Text.hexDigit (n % 16)).toUpper] := by
      rw [last, codeTotal, List.foldlM_append]
      rfl
    have split : n % 16 ^ (width + 1) = n % 16 + 16 * (n / 16 % 16 ^ width) := by
      rw [Nat.pow_succ', Nat.mod_mul]
    have read : codeTotal (16 ^ width * value + n / 16 % 16 ^ width)
        [(Text.hexDigit (n % 16)).toUpper] =
          some (16 * (16 ^ width * value + n / 16 % 16 ^ width) + n % 16) := by
      simp [codeTotal, digit _ (Nat.mod_lt n (by decide))]
    rw [whole, ih, Option.bind_some, read, split, Nat.mul_add, ← Nat.mul_assoc, ← Nat.pow_succ',
      Nat.add_assoc, Nat.add_comm (n % 16)]

/-- All digits of a code together are the character of that number. -/
theorem double_code {digits : List Char} {more value total : Nat}
    (stands : codeTotal value digits = some total) (length : digits.length = more + 1)
    (valid : total.isValidChar) (s : List Char) :
    double least (.code more value) (digits ++ s) =
      (double least (.text .none) s).map (before [Char.ofNat total]) := by
  induction digits generalizing more value with
  | nil => cases length
  | cons c digits ih =>
    have length : digits.length = more := Nat.succ.inj length
    cases digit : hexValue c with
    | none => simp [codeTotal, digit] at stands
    | some d =>
      have rest : codeTotal (16 * value + d) digits = some total := by
        simpa [codeTotal, digit] using stands
      rw [List.cons_append, double.eq_def]
      dsimp only
      rw [digit]
      cases more with
      | zero =>
        obtain rfl := List.length_eq_zero_iff.mp length
        obtain rfl : 16 * value + d = total := Option.some.inj rest
        exact if_pos valid
      | succ more => exact ih rest length

/-! ## Escapes -/

/-- An escape names the character by a letter, or gives its code in as many digits as it needs. -/
theorem escape_cases (c : Char) :
    (∃ l, escape c = ['\\', l] ∧ escaped l = some c ∧ l ≠ '\n') ∨
      ∃ l more, escape c = '\\' :: l :: upperHex (more + 1) c.toNat ∧ escaped l = none ∧
        codeLength l = some more ∧ l ≠ '\n' ∧ c.toNat < 16 ^ (more + 1) := by
  have is : ∀ {n : Nat}, c.toNat = n → some (Char.ofNat n) = some c := by
    rintro _ rfl
    rw [Char.ofNat_toNat]
  have small : c.toNat < 16 ^ 8 := by
    have := c.valid
    simp only [UInt32.isValidChar, Nat.isValidChar] at this
    simp only [Char.toNat]
    omega
  unfold escape
  split
  · exact .inl ⟨'0', rfl, is ‹_›, by decide⟩
  · exact .inl ⟨'a', rfl, is ‹_›, by decide⟩
  · exact .inl ⟨'b', rfl, is ‹_›, by decide⟩
  · exact .inl ⟨'t', rfl, is ‹_›, by decide⟩
  · exact .inl ⟨'n', rfl, is ‹_›, by decide⟩
  · exact .inl ⟨'v', rfl, is ‹_›, by decide⟩
  · exact .inl ⟨'f', rfl, is ‹_›, by decide⟩
  · exact .inl ⟨'r', rfl, is ‹_›, by decide⟩
  · exact .inl ⟨'e', rfl, is ‹_›, by decide⟩
  · exact .inl ⟨'"', rfl, is ‹_›, by decide⟩
  · exact .inl ⟨'\\', rfl, is ‹_›, by decide⟩
  · exact .inl ⟨'N', rfl, is ‹_›, by decide⟩
  · exact .inl ⟨'_', rfl, is ‹_›, by decide⟩
  · exact .inl ⟨'L', rfl, is ‹_›, by decide⟩
  · exact .inl ⟨'P', rfl, is ‹_›, by decide⟩
  · refine .inr ?_
    split
    · exact ⟨'x', 1, rfl, rfl, rfl, by decide, by assumption⟩
    · split
      · exact ⟨'u', 3, rfl, rfl, rfl, by decide, by assumption⟩
      · exact ⟨'U', 7, rfl, rfl, rfl, by decide, small⟩

/-- The escape of a character is read as the character. -/
theorem double_escape (indented : gap.isIndented least = true) (c : Char) (s : List Char) :
    double least (.text gap) (escape c ++ s) =
      (double least (.text .none) s).map (before (gap.chars ++ [c])) := by
  have join : (fun r => before gap.chars (before [c] r)) = before (gap.chars ++ [c]) := by
    funext r
    exact before_before _ _ _
  rcases escape_cases c with ⟨l, written, stands, other⟩ | ⟨l, more, written, unnamed, introduces,
    other, small⟩
  · rw [written, List.cons_append, double_backslash indented, List.singleton_append,
      double_letter stands other, Option.map_map]
    exact congrArg (Option.map · _) join
  · have total : codeTotal 0 (upperHex (more + 1) c.toNat) = some c.toNat := by
      rw [codeTotal_upperHex, Nat.mul_zero, Nat.zero_add, Nat.mod_eq_of_lt small]
    have length : (upperHex (more + 1) c.toNat).length = more + 1 := by
      rw [upperHex, List.length_map, Text.length_hexDigits]
    rw [written, List.cons_append, List.cons_append, double_backslash indented,
      double_introduction unnamed introduces other, double_code total length c.valid,
      Char.ofNat_toNat, Option.map_map]
    exact congrArg (Option.map · _) join

/-! ## The inside of double quotes -/

/-- Behind a fold, a blank has a backslash before it. -/
theorem double_guarded (enough : least ≤ indent) (verbatim : isVerbatim c = true) (s : List Char) :
    double least (.text (.joint 0 indent)) ((if c = ' ' then ['\\'] else []) ++ c :: s) =
      (double least (.text .none) s).map (before [c]) := by
  have indented : Gap.isIndented least (.joint 0 indent) = true := decide_eq_true enough
  split
  · rename_i blank
    subst blank
    rw [List.singleton_append, double_backslash indented, double_letter rfl (by decide),
      Option.map_map]
    rfl
  · rename_i solid
    exact double_verbatim verbatim solid indented s

/-- A fold before a character that is shown, and what is read behind it. -/
theorem double_fold_verbatim (enough : least ≤ indent) (verbatim : isVerbatim c = true)
    (indented : gap.isIndented least = true)
    (read : double least (.text .none) e = some (s, tail)) :
    double least (.text gap) ('\\' :: fold indent ++ ((if c = ' ' then ['\\'] else []) ++ c :: e)) =
      some (gap.chars ++ c :: s, tail) := by
  rw [double_fold indented, double_guarded enough verbatim, read]
  simp [before]

/-- A fold behind an escape, and what is read behind it. -/
theorem double_escape_fold (indented : gap.isIndented least = true) (c : Char)
    (read : double least (.text (.joint 0 indent)) e = some (s, tail)) :
    double least (.text gap) (escape c ++ ('\\' :: fold indent ++ e)) =
      some (gap.chars ++ c :: s, tail) := by
  rw [double_escape indented, double_fold rfl, read]
  simp [before]

/-- What is between double quotes is read as it was written.  The second part is about what stands
behind a fold, and the backslash that a blank there has before it. -/
theorem double_doubleChars (enough : least ≤ indent) (narrow : indent < width) (s : List Char) :
    (∀ (gap : Gap) inner column fresh, gap.isIndented least = true →
      ((∃ n, gap = .blanks n) ∨ s.head? ≠ some ' ') →
      double least (.text gap) (doubleChars indent inner column fresh s ++ '"' :: tail) =
        some (gap.chars ++ s, tail)) ∧
    (s.head? = some ' ' →
      double least .escape (doubleChars indent true (indent + 1) true s ++ '"' :: tail) =
        some (s, tail)) := by
  -- both parts at once: a fold before a blank leaves the reader inside an escape
  induction s with
  | nil =>
    refine ⟨fun gap inner column fresh indented _ => ?_, nofun⟩
    rw [doubleChars, List.nil_append, double_close indented, List.append_nil]
  | cons c s ih =>
    obtain ⟨ih, ihEscape⟩ := ih
    have onwards : ∀ inner column fresh,
        double least (.text .none) (doubleChars indent inner column fresh s ++ '"' :: tail) =
          some (s, tail) := fun inner column fresh =>
      ih .none inner column fresh rfl (.inl ⟨0, rfl⟩)
    -- behind a fold the line begins with a backslash exactly if a blank is next, lest it be skipped
    have behind : double least (.text (.joint 0 indent))
        ((if s.head? = some ' ' then ['\\'] else []) ++ (doubleChars indent true
          (indent + (if s.head? = some ' ' then ['\\'] else []).length) true s ++ '"' :: tail)) =
            some (s, tail) := by
      have joint : Gap.isIndented least (.joint 0 indent) = true := decide_eq_true enough
      by_cases blank : s.head? = some ' '
      · rw [if_pos blank, List.singleton_append, double_backslash joint, List.length_singleton,
          ihEscape blank]
        rfl
      · rw [if_neg blank, List.nil_append, ih _ _ _ _ joint (.inr blank)]
        rfl
    constructor
    · intro gap inner column fresh indented fits
      rw [doubleChars]
      split
      · rename_i verbatim
        split
        · rw [List.append_assoc, List.append_assoc]
          exact double_fold_verbatim enough verbatim indented (onwards _ _ _)
        · rw [List.cons_append]
          by_cases blank : c = ' '
          · subst blank
            obtain ⟨n, rfl⟩ := fits.resolve_right fun other => other rfl
            rw [double_blank, Gap.blank, ih (.blanks (n + 1)) _ _ _ rfl (.inl ⟨_, rfl⟩), Gap.chars,
              Gap.chars, List.replicate_succ', List.append_assoc]
            rfl
          · rw [double_verbatim verbatim blank indented, onwards]
            simp [before]
      · dsimp only
        split
        · rw [List.append_assoc, List.append_assoc, List.append_assoc]
          exact double_escape_fold indented c behind
        · rw [List.append_assoc, double_escape indented, onwards]
          simp [before]
    · rintro ⟨⟩
      have verbatim : isVerbatim ' ' = true := by decide
      have short : ¬width < indent + 1 := by omega
      rw [doubleChars, if_pos verbatim, if_neg (by simp [short]), List.cons_append,
        double_letter rfl (by decide), onwards]
      rfl

end TrialRun.Yaml.Reader
