import Mathlib.Data.List.TakeWhile
import TrialRun.Proofs.Yaml.Implicit

/-!
# What is taken for a text is one

`Kind.ofPlain` decides on the type of a scalar without regular expressions, by steps that take a
piece off and never go back.  A step that reads all words of a pattern, as long as what follows
could not belong to the piece (`Reads`), can be followed by steps for the patterns that follow.  So
whatever matches a pattern is seen by the steps, and what they take for a text matches no pattern
(`resolve_of_ofPlain`).
-/

set_option autoImplicit false

namespace TrialRun.Yaml.Implicit

open RegularExpression

/-! ## Steps that read patterns -/

section Steps

variable {step next : Kind.Step} {shape : List Kind.Step} {p q : Pattern} {more more' : List Char}

/-- The text does not go on with one of these characters. -/
def Avoids (chars rest : List Char) : Prop := ∀ c ∈ rest.head?, c ∉ chars

/-- A text that is at its end goes on with nothing. -/
theorem avoids_nil (chars : List Char) : Avoids chars [] := nofun

/-- Whether two classes of characters have no member in common. -/
def areApart (s t : List Char) : Bool := s.all fun c => !t.contains c

/-- Classes that are apart share no character. -/
theorem not_mem_of_areApart {s t : List Char} {c : Char} (apart : areApart s t = true)
    (inside : c ∈ s) : c ∉ t := by
  simpa using List.all_eq_true.mp apart c inside

/-- The step takes off any word of the pattern that no character of `more` follows. -/
def Reads (step : Kind.Step) (p : Pattern) (more : List Char) : Prop :=
  ∀ a, p.rmatch a → ∀ rest, Avoids more rest → step (a ++ rest) = some rest

/-- The step takes nothing off a text that does not begin with a character of the pattern: it
succeeds only if the pattern may be empty. -/
def Idles (step : Kind.Step) (p : Pattern) : Prop :=
  ∀ rest, Avoids (first p) rest → step rest = if p.matchEpsilon then some rest else none

/-- Where a text does not go on with a class, no run of that class is there to be dropped. -/
theorem dropWhile_of_avoids {f : Char → Bool} {s rest : List Char}
    (known : ∀ c, f c = true ↔ c ∈ s) (avoids : Avoids s rest) : rest.dropWhile f = rest := by
  cases rest with
  | nil => rfl
  | cons c rest =>
    have foreign : ¬f c = true := fun taken => avoids c rfl ((known c).mp taken)
    rw [List.dropWhile_cons, if_neg foreign]

/-- A shape that reads a pattern matches each of its words as a whole. -/
theorem Reads.matchesAll (h : Reads (Kind.steps shape) p more) {s : List Char}
    (matched : p.rmatch s) : Kind.matchesAll shape s = true := by
  have read := h s matched [] (avoids_nil more)
  rw [List.append_nil] at read
  rw [Kind.matchesAll, read]
  rfl

/-- One character of a class.  It has a known length, so that anything may follow. -/
theorem Reads.one {f : Char → Bool} {s : List Char} (known : ∀ c, f c = true ↔ c ∈ s) :
    Reads (Kind.one f) (among s) [] := by
  intro a matched rest _
  obtain ⟨c, inside, rfl⟩ := rmatch_among.mp matched
  exact if_pos ((known c).mpr inside)

/-- As many characters as there are. -/
theorem Reads.many {f : Char → Bool} {s : List Char} (known : ∀ c, f c = true ↔ c ∈ s) :
    Reads (Kind.many f) (star (among s)) s := by
  intro a matched rest avoids
  have each := rmatch_star_among.mp matched
  have taken : ∀ c ∈ a, f c = true := fun c inside => (known c).mpr (each c inside)
  rw [Kind.many, List.dropWhile_append_of_pos taken, dropWhile_of_avoids known avoids]

/-- A step that may be followed by some characters may be followed by fewer. -/
theorem Reads.mono (reads : Reads step p more) (sub : ∀ c ∈ more, c ∈ more') :
    Reads step p more' := fun a matched rest avoids =>
  reads a matched rest fun c head inside => avoids c head (sub c inside)

/-- A word that begins otherwise keeps a text from going on, and so does what is behind it if the
word is empty. -/
theorem avoids_of_rmatch {rest : List Char} (apart : areApart (first q) more = true) {a : List Char}
    (matched : q.rmatch a) (avoids : Avoids more rest) : Avoids more (a ++ rest) := by
  cases a with
  | nil => exact avoids
  | cons c a =>
    rintro _ ⟨⟩
    exact not_mem_of_areApart apart (mem_first matched)

/-- One step after the other: the words of the second must not begin like more of the first. -/
theorem Reads.cons (reads : Reads step p more) (others : Reads (Kind.steps shape) q more')
    (apart : areApart (first q) more = true) :
    Reads (Kind.steps (step :: shape)) (p * q) (more ++ more') := by
  intro a matched rest avoids
  obtain ⟨t, u, rfl, left, right⟩ := (mul_rmatch_iff _ _ _).mp matched
  have beyond : Avoids more (u ++ rest) := avoids_of_rmatch apart right fun c head inside =>
    avoids c head (List.mem_append_left _ inside)
  rw [List.append_assoc, Kind.steps, reads t left _ beyond]
  exact others u right rest fun c head inside => avoids c head (List.mem_append_right _ inside)

/-- A step that takes off a piece of a known length can be followed by any other. -/
theorem Reads.then (reads : Reads step p []) (others : Reads (Kind.steps shape) q more') :
    Reads (Kind.steps (step :: shape)) (p * q) more' :=
  reads.cons others (List.all_eq_true.mpr fun _ _ => rfl)

/-- The last step of a shape. -/
theorem Reads.last (reads : Reads step p more) : Reads (Kind.steps [step]) p more := by
  intro a matched rest avoids
  rw [Kind.steps, reads a matched rest avoids]
  rfl

/-- No character is taken that is not of the class. -/
theorem Idles.one {f : Char → Bool} {s : List Char} (known : ∀ c, f c = true ↔ c ∈ s) :
    Idles (Kind.one f) (among s) := by
  intro rest avoids
  rw [matchEpsilon_among]
  cases rest with
  | nil => rfl
  | cons c rest =>
    have foreign : ¬f c = true := by
      rw [known, ← first_among s]
      exact avoids c rfl
    exact if_neg foreign

/-- A run of a class is empty where the class does not begin, and that is a success. -/
theorem Idles.many {f : Char → Bool} {s : List Char} (known : ∀ c, f c = true ↔ c ∈ s) :
    Idles (Kind.many f) (star (among s)) := by
  intro rest avoids
  have stops : Avoids s rest := fun c head inside =>
    avoids c head (by rwa [first, first_among])
  exact congrArg some (dropWhile_of_avoids known stops)

/-- If the first step may take nothing, it is up to those that follow. -/
theorem Idles.cons (idles : Idles step p)
    (others : p.matchEpsilon = true → Idles (Kind.steps shape) q) :
    Idles (Kind.steps (step :: shape)) (p * q) := by
  intro rest avoids
  have before : Avoids (first p) rest := fun c head inside =>
    avoids c head (List.mem_append_left _ inside)
  rw [Kind.steps, idles rest before]
  cases empty : p.matchEpsilon with
  | false => simp [matchEpsilon, empty]
  | true =>
    have behind : Avoids (first q) rest := fun c head inside =>
      avoids c head (List.mem_append_right _ (by simpa [empty] using inside))
    simp [matchEpsilon, empty, others empty rest behind]

/-- The last step of a shape takes nothing if it is not begun. -/
theorem Idles.last (idles : Idles step p) : Idles (Kind.steps [step]) p := by
  intro rest avoids
  rw [Kind.steps, idles rest avoids]
  cases p.matchEpsilon <;> rfl

/-- A piece that may be missing.  It must not be mistaken for what follows. -/
theorem Reads.perhaps (reads : Reads step p more) (idles : Idles step p)
    (nonempty : p.matchEpsilon = false) :
    Reads (Kind.perhaps step) (optional p) (more ++ first p) := by
  intro a matched rest avoids
  rcases rmatch_optional.mp matched with rfl | matched
  · have nothing := idles rest fun c head inside => avoids c head (List.mem_append_right _ inside)
    rw [nonempty] at nothing
    rw [Kind.perhaps, List.nil_append, nothing]
    rfl
  · rw [Kind.perhaps, reads a matched rest fun c head inside =>
      avoids c head (List.mem_append_left _ inside)]
    rfl

/-- One of two steps, whose words begin differently. -/
theorem Reads.either (reads : Reads step p more) (idles : Idles step p)
    (nonempty : p.matchEpsilon = false) (reads' : Reads next q more)
    (nonempty' : q.matchEpsilon = false) (apart : areApart (first q) (first p) = true) :
    Reads (fun s => (step s).or (next s)) (p + q) more := by
  intro a matched rest avoids
  rcases (add_rmatch_iff _ _ _).mp matched with matched | matched
  · show (step _).or _ = _
    rw [reads a matched rest avoids]
    rfl
  · cases a with
    | nil => exact absurd (show q.matchEpsilon = true from matched) (by simp [nonempty'])
    | cons c a =>
      have nothing := idles (c :: a ++ rest) (by
        rintro _ ⟨⟩
        exact not_mem_of_areApart apart (mem_first matched))
      rw [nonempty] at nothing
      show (step _).or _ = _
      rw [nothing]
      exact reads' (c :: a) matched rest avoids

/-- One of two steps takes nothing if neither is begun. -/
theorem Idles.either (idles : Idles step p) (nonempty : p.matchEpsilon = false)
    (idles' : Idles next q) (nonempty' : q.matchEpsilon = false) :
    Idles (fun s => (step s).or (next s)) (p + q) := by
  intro rest avoids
  show (step rest).or (next rest) = _
  rw [idles rest fun c head inside => avoids c head (List.mem_append_left _ inside),
    idles' rest fun c head inside => avoids c head (List.mem_append_right _ inside)]
  simp [matchEpsilon, nonempty, nonempty']

end Steps

/-! ## Classes of characters -/

section Classes

variable (c : Char)

variable {c} in
/-- A character between two others is one of those between them. -/
theorem mem_of_between {s : List Char} {lo hi : Char}
    (all : ∀ n < hi.toNat + 1, lo.toNat ≤ n → Char.ofNat n ∈ s)
    (between : (lo ≤ c && c ≤ hi) = true) : c ∈ s := by
  rw [Bool.and_eq_true, decide_eq_true_iff, decide_eq_true_iff] at between
  have inside := all c.toNat (Nat.lt_succ_of_le between.2) between.1
  rwa [Char.ofNat_toNat] at inside

/-- What a step asks of a character is that it belongs to a class of the patterns. -/
theorem isDigit_iff : c.isDigit = true ↔ c ∈ digits := by
  constructor
  · intro h
    have between : ('0' ≤ c && c ≤ '9') = true := h
    exact mem_of_between (by decide) between
  · exact List.all_eq_true.mp (by decide : digits.all Char.isDigit = true) c

/-- Digits may have gaps between them. -/
theorem isDigitOrGap_iff : Kind.isDigitOrGap c = true ↔ c ∈ figures := by
  have split : figures = digits ++ ['_'] := rfl
  rw [split, List.mem_append, ← isDigit_iff, List.mem_singleton, Kind.isDigitOrGap,
    Bool.or_eq_true, beq_iff_eq]

theorem isNonzero_iff : (c.isDigit && c != '0') = true ↔ c ∈ nonzeros := by
  have split : digits = '0' :: nonzeros := rfl
  rw [Bool.and_eq_true, isDigit_iff, split, List.mem_cons, bne_iff_ne]
  constructor
  · rintro ⟨rfl | inside, other⟩
    · exact absurd rfl other
    · exact inside
  · intro inside
    exact ⟨.inr inside, by rintro rfl; revert inside; decide⟩

theorem isBit_iff : (c == '0' || c == '1' || c == '_') = true ↔ c ∈ bits := by
  simp [bits, or_assoc]

theorem isOctal_iff : (('0' ≤ c && c ≤ '7') || c == '_') = true ↔ c ∈ octals := by
  constructor
  · intro h
    rcases (Bool.or_eq_true _ _).mp h with between | gap
    · exact mem_of_between (by decide) between
    · rw [beq_iff_eq.mp gap]
      decide
  · have each : octals.all (fun c => ('0' ≤ c && c ≤ '7') || c == '_') = true := by decide
    exact List.all_eq_true.mp each c

/-- The digits to base sixteen, in either case, and gaps. -/
theorem isHex_iff :
    (c.isDigit || ('a' ≤ c && c ≤ 'f') || ('A' ≤ c && c ≤ 'F') || c == '_') = true ↔ c ∈ hexes := by
  constructor
  · simp only [Bool.or_eq_true]
    rintro (((digit | lower) | upper) | gap)
    · have between : ('0' ≤ c && c ≤ '9') = true := digit
      exact mem_of_between (by decide) between
    · exact mem_of_between (by decide) lower
    · exact mem_of_between (by decide) upper
    · rw [beq_iff_eq.mp gap]
      decide
  · have each : hexes.all (fun c =>
        c.isDigit || ('a' ≤ c && c ≤ 'f') || ('A' ≤ c && c ≤ 'F') || c == '_') = true := by decide
    exact List.all_eq_true.mp each c

theorem isSign_iff : (c == '-' || c == '+') = true ↔ c ∈ signs := by simp [signs]

theorem isSpace_iff : Kind.isSpace c = true ↔ c ∈ spaces := by simp [spaces, Kind.isSpace]

theorem is_iff (d : Char) : (c == d) = true ↔ c ∈ [d] := by simp

end Classes

/-! ## The steps of the types -/

section Types

variable {a rest : List Char}

/-- A number of digits within the bounds is taken off, if it is the most there may be. -/
theorem digits_append {least most : Nat} (all : ∀ c ∈ a, c.isDigit = true)
    (enough : least ≤ a.length) (most_eq : a.length = most) :
    Kind.digits least most (a ++ rest) = some rest := by
  subst most_eq
  have found : ((a ++ rest).take a.length).takeWhile Char.isDigit = a := by
    rw [List.take_left, List.takeWhile_eq_self_iff.mpr all]
  simp only [Kind.digits, found, Nat.not_lt.mpr enough, if_false, List.drop_left]

/-- A word of the class of digits is one digit. -/
theorem mem_digits_of_rmatch (h : (among digits).rmatch a) : ∃ c, a = [c] ∧ c.isDigit = true := by
  obtain ⟨c, inside, rfl⟩ := rmatch_among.mp h
  exact ⟨c, rfl, (isDigit_iff c).mpr inside⟩

/-- A word of two digits. -/
theorem digits_of_rmatch_two (h : two.rmatch a) :
    a.length = 2 ∧ ∀ c ∈ a, c.isDigit = true := by
  obtain ⟨t, u, rfl, left, right⟩ := (mul_rmatch_iff _ _ _).mp h
  obtain ⟨c, rfl, isDigit⟩ := mem_digits_of_rmatch left
  obtain ⟨d, rfl, isDigit'⟩ := mem_digits_of_rmatch right
  exact ⟨rfl, by simp [isDigit, isDigit']⟩

/-- Two digits, no more and no fewer. -/
theorem reads_two : Reads (Kind.digits 2 2) two [] := by
  intro a matched rest _
  obtain ⟨length, all⟩ := digits_of_rmatch_two matched
  exact digits_append all length.ge length

/-- Four digits, as a year has. -/
theorem reads_four : Reads (Kind.digits 4 4) four [] := by
  intro a matched rest _
  obtain ⟨t, u, rfl, left, right⟩ := (mul_rmatch_iff _ _ _).mp matched
  obtain ⟨length, all⟩ := digits_of_rmatch_two left
  obtain ⟨length', all'⟩ := digits_of_rmatch_two right
  have whole : (t ++ u).length = 4 := by rw [List.length_append, length, length']
  exact digits_append (List.forall_mem_append.mpr ⟨all, all'⟩) whole.ge whole

/-- One digit or two.  What follows must not be a digit, as it would be taken for the second one. -/
theorem reads_upToTwo : Reads (Kind.digits 1 2) upToTwo digits := by
  intro a matched rest avoids
  obtain ⟨t, u, rfl, left, right⟩ := (mul_rmatch_iff _ _ _).mp matched
  obtain ⟨c, rfl, isDigit⟩ := mem_digits_of_rmatch left
  rcases rmatch_optional.mp right with rfl | right
  · -- a second digit would belong to the piece
    cases rest with
    | nil => simp [Kind.digits, isDigit]
    | cons d rest =>
      have foreign : ¬d.isDigit = true := by
        rw [isDigit_iff]
        exact avoids d rfl
      simp [Kind.digits, isDigit, foreign]
  · obtain ⟨d, rfl, isDigit'⟩ := mem_digits_of_rmatch right
    exact digits_append (by simp [isDigit, isDigit']) (by simp) rfl

/-- At least one character of a class. -/
theorem reads_repeated {f : Char → Bool} {s : List Char} (known : ∀ c, f c = true ↔ c ∈ s) :
    Reads (Kind.steps [Kind.one f, Kind.many f]) (repeated (among s)) s :=
  (Reads.one known).then (Reads.many known).last

/-- A sign that may be missing. -/
theorem reads_sign : Reads Kind.sign (optional (among signs)) signs :=
  (Reads.one isSign_iff).perhaps (Idles.one isSign_iff) rfl

/-- Digits with gaps, as many as there are. -/
theorem reads_decimal : Reads Kind.figures decimal figures :=
  (Reads.one isDigit_iff).then (Reads.many isDigitOrGap_iff).last

/-- The same, with a digit in front. -/
theorem reads_leadingDecimal : Reads Kind.leadingFigures leadingDecimal figures :=
  (Reads.one isNonzero_iff).then (Reads.many isDigitOrGap_iff).last

theorem isExponentMark_iff (c : Char) : (c == 'e' || c == 'E') = true ↔ c ∈ "eE".toList := by simp

/-- An exponent has a sign, and at least one digit. -/
theorem reads_exponent : Reads Kind.exponent exponent digits :=
  (Reads.one isExponentMark_iff).then ((Reads.one isSign_iff).then (reads_repeated isDigit_iff))

/-- What does not begin with the mark of an exponent is none. -/
theorem idles_exponent : Idles Kind.exponent exponent := (Idles.one isExponentMark_iff).cons nofun

/-- An exponent that may be missing. -/
theorem reads_optional_exponent :
    Reads (Kind.perhaps Kind.exponent) (optional exponent) (digits ++ first exponent) :=
  reads_exponent.perhaps idles_exponent rfl

/-! ### Numbers in sixties -/

/-- A place of a number to base sixty: a colon and up to two digits, of which the first of two is at
most five. -/
theorem reads_sixtieth : Reads Kind.sixtieth sixtieth digits := by
  intro a matched rest avoids
  obtain ⟨t, u, rfl, left, right⟩ := (mul_rmatch_iff _ _ _).mp matched
  obtain ⟨v, w, rfl, middle, last⟩ := (mul_rmatch_iff _ _ _).mp right
  obtain ⟨_, colon, rfl⟩ := rmatch_among.mp left
  obtain rfl := List.mem_singleton.mp colon
  obtain ⟨d, rfl, isDigit⟩ := mem_digits_of_rmatch last
  rcases rmatch_optional.mp middle with rfl | middle
  · cases rest with
    | nil => simp [Kind.sixtieth, isDigit]
    | cons e rest =>
      have foreign : ¬e.isDigit = true := by
        rw [isDigit_iff]
        exact avoids e rfl
      simp [Kind.sixtieth, isDigit, foreign]
  · obtain ⟨e, inside, rfl⟩ := rmatch_among.mp middle
    have each : "012345".toList.all (fun e => e.isDigit && e ≤ '5') = true := by decide
    have low : e.isDigit = true ∧ e ≤ '5' := by simpa using List.all_eq_true.mp each e inside
    simp [Kind.sixtieth, isDigit, low]

/-- There is no such place without a colon. -/
theorem idles_sixtieth : Idles Kind.sixtieth sixtieth := by
  intro rest avoids
  have other : rest.head? ≠ some ':' := fun head => avoids ':' head (by decide)
  unfold Kind.sixtieth
  split
  · exact absurd rfl other
  · exact absurd rfl other
  · rfl

/-- A place that may be missing. -/
theorem reads_optional_sixtieth :
    Reads (Kind.perhaps Kind.sixtieth) (optional sixtieth) (digits ++ [':']) :=
  reads_sixtieth.perhaps idles_sixtieth rfl

/-- Places begin with a colon, so that none of them goes on with a digit of the next one. -/
theorem avoids_places {parts : List (List Char)}
    (each : ∀ part ∈ parts, part ≠ [] ∧ sixtieth.rmatch part)
    (avoids : Avoids (digits ++ [':']) rest) : Avoids digits (parts.flatten ++ rest) := by
  cases parts with
  | nil => exact fun c head inside => avoids c head (List.mem_append_left _ inside)
  | cons part parts =>
    obtain ⟨nonempty, matched⟩ := each part List.mem_cons_self
    cases part with
    | nil => exact absurd rfl nonempty
    | cons c part =>
      have colon : c ∈ [':'] := mem_first matched
      rintro _ ⟨⟩
      rw [List.mem_singleton.mp colon]
      decide

/-- Places are read as long as there are any. -/
theorem steps_places {parts : List (List Char)}
    (each : ∀ part ∈ parts, part ≠ [] ∧ sixtieth.rmatch part)
    (avoids : Avoids (digits ++ [':']) rest) {bound : Nat} (enough : parts.flatten.length ≤ bound) :
    Kind.steps (List.replicate bound (Kind.perhaps Kind.sixtieth)) (parts.flatten ++ rest) =
      some rest := by
  induction parts generalizing bound with
  | nil =>
    clear enough
    have idle : Kind.perhaps Kind.sixtieth rest = some rest :=
      reads_optional_sixtieth [] (rmatch_optional.mpr (.inl rfl)) rest avoids
    -- nothing is left to read, so the steps that remain stay where they are
    induction bound with
    | zero => rfl
    | succ bound ih =>
      rw [List.flatten_nil, List.nil_append] at ih ⊢
      rw [List.replicate_succ, Kind.steps, idle]
      exact ih
  | cons part parts ih =>
    obtain ⟨⟨nonempty, matched⟩, others⟩ := List.forall_mem_cons.mp each
    have positive : 0 < part.length := List.length_pos_iff.mpr nonempty
    rw [List.flatten_cons, List.length_append] at enough
    obtain ⟨b, rfl⟩ : ∃ b, bound = b + 1 := ⟨bound - 1, by omega⟩
    have read := reads_sixtieth part matched _ (avoids_places others avoids)
    rw [List.flatten_cons, List.append_assoc, List.replicate_succ, Kind.steps, Kind.perhaps, read]
    exact ih others (by omega)

/-- All places of a number to base sixty are taken off one by one, as each takes something off. -/
theorem reads_sixties : Reads Kind.sixties (repeated sixtieth) (digits ++ [':']) := by
  intro a matched rest avoids
  obtain ⟨t, u, rfl, left, right⟩ := (mul_rmatch_iff _ _ _).mp matched
  obtain ⟨parts, rfl, each⟩ := (star_rmatch_iff _ _).mp right
  have read := reads_sixtieth t left _ (avoids_places each avoids)
  rw [Kind.sixties, Kind.steps, List.append_assoc, read]
  refine steps_places each avoids ?_
  simp only [List.length_append]
  omega

/-! ### Times -/

/-- What stands between a date and a time: a letter, or some blanks. -/
theorem reads_gap : Reads
    (fun s => (Kind.one (fun c => c == 'T' || c == 't') s).or
      (Kind.steps [Kind.one Kind.isSpace, Kind.many Kind.isSpace] s))
    (among "Tt".toList + repeated (among spaces)) spaces := by
  have known : ∀ c : Char, (c == 'T' || c == 't') = true ↔ c ∈ "Tt".toList := fun c => by simp
  have read : Reads (Kind.one fun c => c == 'T' || c == 't') (among "Tt".toList) spaces :=
    fun a matched rest _ => Reads.one known a matched rest nofun
  exact read.either (Idles.one known) rfl (reads_repeated isSpace_iff) rfl (by decide)

/-- The offset of a time zone in hours, and perhaps in minutes. -/
theorem reads_offset : Reads
    (Kind.steps [Kind.one fun c => c == '-' || c == '+', Kind.digits 1 2,
      Kind.perhaps (Kind.steps [Kind.one (· == ':'), Kind.digits 2 2])])
    offset (digits ++ [':']) := by
  have colon := Reads.one (is_iff · ':')
  have idle := Idles.one (is_iff · ':')
  have minutes := (colon.then reads_two.last).perhaps (idle.cons nofun) rfl
  exact (Reads.one isSign_iff).then (reads_upToTwo.cons minutes.last (by decide))

/-- There is no offset without a sign. -/
theorem idles_offset : Idles
    (Kind.steps [Kind.one fun c => c == '-' || c == '+', Kind.digits 1 2,
      Kind.perhaps (Kind.steps [Kind.one (· == ':'), Kind.digits 2 2])]) offset :=
  (Idles.one isSign_iff).cons nofun

/-- A time zone that may be missing. -/
theorem reads_optional_zone : ∃ more, Reads
    (Kind.perhaps (Kind.steps [Kind.many Kind.isSpace, fun s => (Kind.one (· == 'Z') s).or
      (Kind.steps [Kind.one fun c => c == '-' || c == '+', Kind.digits 1 2,
        Kind.perhaps (Kind.steps [Kind.one (· == ':'), Kind.digits 2 2])] s)]))
    (optional zone) more := by
  have utc : Reads _ (only 'Z') (digits ++ [':']) := (Reads.one (is_iff · 'Z')).mono nofun
  have place := utc.either (Idles.one (is_iff · 'Z')) rfl reads_offset rfl (by decide)
  have idle := (Idles.one (is_iff · 'Z')).either rfl idles_offset rfl
  have read := (Reads.many isSpace_iff).cons place.last (by decide)
  exact ⟨_, read.perhaps ((Idles.many isSpace_iff).cons fun _ => idle.last) rfl⟩

/-! ## Types that the steps see -/

/-- Integers in all their forms, which differ in how they begin or in what they are made of. -/
theorem isInteger_of_rmatch (h : integer.rmatch a) : Kind.isInteger a = true := by
  simp only [integer, add_rmatch_iff] at h
  simp only [Kind.isInteger, Bool.or_eq_true]
  have zero := Reads.one (is_iff · '0')
  rcases h with h | h | h | h | h | h
  · have behind := (Reads.one (is_iff · 'b')).then (reads_repeated isBit_iff)
    have read := reads_sign.cons (zero.then behind) (by decide)
    exact .inl (.inl (.inl (.inl (.inl (read.matchesAll h)))))
  · have read := reads_sign.cons (zero.then (reads_repeated isOctal_iff)) (by decide)
    exact .inl (.inl (.inl (.inl (.inr (read.matchesAll h)))))
  · have read := reads_sign.cons zero.last (by decide)
    exact .inl (.inl (.inl (.inr (read.matchesAll h))))
  · have read := reads_sign.cons reads_leadingDecimal.last (by decide)
    exact .inl (.inl (.inr (read.matchesAll h)))
  · have behind := (Reads.one (is_iff · 'x')).then (reads_repeated isHex_iff)
    have read := reads_sign.cons (zero.then behind) (by decide)
    exact .inl (.inr (read.matchesAll h))
  · have behind := reads_leadingDecimal.cons reads_sixties.last (by decide)
    have read := reads_sign.cons behind (by decide)
    exact .inr (read.matchesAll h)

/-- Floating numbers in all their forms, with the names of what is none. -/
theorem isFloat_of_rmatch (h : float.rmatch a) : Kind.isFloat a = true := by
  simp only [float, add_rmatch_iff] at h
  simp only [Kind.isFloat, Bool.or_eq_true]
  have point := Reads.one (is_iff · '.')
  have places := Reads.many isDigitOrGap_iff
  rcases h with h | h | h | h | h
  · have behind := point.then (places.cons reads_optional_exponent.last (by decide))
    have read := reads_sign.cons (reads_decimal.cons behind (by decide)) (by decide)
    exact .inl (.inl (.inl (.inl (read.matchesAll h))))
  · have read := point.then (reads_decimal.cons reads_optional_exponent.last (by decide))
    exact .inl (.inl (.inl (.inr (read.matchesAll h))))
  · have behind := reads_sixties.cons (point.then places.last) (by decide)
    have read := reads_sign.cons (reads_decimal.cons behind (by decide)) (by decide)
    exact .inl (.inl (.inr (read.matchesAll h)))
  · obtain ⟨t, u, rfl, left, right⟩ := (mul_rmatch_iff _ _ _).mp h
    obtain ⟨w, known, rfl⟩ := rmatch_oneOf.mp right
    have unsigned : Avoids signs (w.toList ++ []) :=
      avoids_of_rmatch (by decide) right (avoids_nil signs)
    rw [List.append_nil] at unsigned
    rw [reads_sign.cons point.last (by decide) t left _ unsigned]
    exact .inl (.inr (List.any_eq_true.mpr ⟨w, known, beq_self_eq_true _⟩))
  · obtain ⟨w, known, rfl⟩ := rmatch_oneOf.mp h
    exact .inr (List.any_eq_true.mpr ⟨w, known, beq_self_eq_true _⟩)

/-- Dates, alone or with a time and a zone. -/
theorem isTimestamp_of_rmatch (h : timestamp.rmatch a) : Kind.isTimestamp a = true := by
  simp only [timestamp, add_rmatch_iff] at h
  simp only [Kind.isTimestamp, Bool.or_eq_true]
  have dash := Reads.one (is_iff · '-')
  have colon := Reads.one (is_iff · ':')
  rcases h with h | h
  · have read := reads_four.then (dash.then (reads_two.then (dash.then reads_two.last)))
    exact .inl (read.matchesAll h)
  · obtain ⟨_, readsZone⟩ := reads_optional_zone
    have fraction := ((Reads.one (is_iff · '.')).then (Reads.many isDigit_iff).last).perhaps
      ((Idles.one (is_iff · '.')).cons nofun) rfl
    have seconds := colon.then (reads_two.then (fraction.cons readsZone.last (by decide)))
    have time := reads_gap.cons (reads_upToTwo.cons (colon.then (reads_two.then seconds))
      (by decide)) (by decide)
    have day := dash.then (reads_upToTwo.cons time (by decide))
    have read := reads_four.then (dash.then (reads_upToTwo.cons day (by decide)))
    exact .inr (read.matchesAll h)

end Types

/-- A choice that comes to a text has passed by a type that is none. -/
theorem not_of_ite_eq_text {c : Prop} [Decidable c] {k l : Kind}
    (h : (if c then k else l) = .text) (other : k ≠ .text) : ¬c ∧ l = .text := by
  split at h
  · exact absurd h other
  · exact ⟨‹_›, h⟩

/-- What is taken for a text is one: it matches the pattern of no type. -/
theorem resolve_of_ofPlain {s : List Char} (h : Kind.ofPlain s = .text) : resolve s = .text := by
  rw [Kind.ofPlain] at h
  obtain ⟨noTruth, h⟩ := not_of_ite_eq_text h nofun
  obtain ⟨noNull, h⟩ := not_of_ite_eq_text h nofun
  obtain ⟨noFloat, h⟩ := not_of_ite_eq_text h nofun
  obtain ⟨noInteger, h⟩ := not_of_ite_eq_text h nofun
  obtain ⟨noTime, h⟩ := not_of_ite_eq_text h nofun
  obtain ⟨noMerge, h⟩ := not_of_ite_eq_text h nofun
  obtain ⟨noFallback, -⟩ := not_of_ite_eq_text h nofun
  have unmatched : ∀ type ∈ types, ¬type.2.rmatch s = true := by
    simp only [types, List.forall_mem_cons]
    refine ⟨?_, fun m => noFloat (isFloat_of_rmatch m), fun m => noInteger (isInteger_of_rmatch m),
      ?_, ?_, fun m => noTime (isTimestamp_of_rmatch m), ?_, nofun⟩
    · intro matched
      obtain ⟨w, known, rfl⟩ := rmatch_oneOf.mp matched
      exact noTruth (List.any_eq_true.mpr ⟨w, known, beq_self_eq_true _⟩)
    · exact fun matched => noMerge (beq_iff_eq.mpr (rmatch_word.mp matched))
    · intro matched
      obtain ⟨w, known, rfl⟩ := rmatch_oneOf.mp matched
      have listed : ∀ w ∈ ["~", "null", "Null", "NULL", ""], w ∈ Kind.nullWords := by decide
      exact noNull (List.any_eq_true.mpr ⟨w, listed w known, beq_self_eq_true _⟩)
    · exact fun matched => noFallback (beq_iff_eq.mpr (rmatch_word.mp matched))
  rw [resolve, List.find?_eq_none.mpr unmatched]
  rfl

end TrialRun.Yaml.Implicit
