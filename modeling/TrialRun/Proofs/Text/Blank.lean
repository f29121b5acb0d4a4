import Mathlib.Data.List.TakeWhile
import TrialRun.Text.Blank

/-!
# Stripping blanks

A text is its stripped form with blanks around it (`exists_strip`).  Further blanks make no
difference to that form (`strip_append_left`, `strip_append_right`), which has none left
(`isTrimmed_strip`).
-/

set_option autoImplicit false

namespace TrialRun.Text

/-- There is nothing but blanks. -/
def IsBlankText (s : List Char) : Prop := ∀ c ∈ s, isBlank c = true

/-- There are no blanks at the two ends. -/
def IsTrimmed (s : List Char) : Prop :=
  (∀ c ∈ s.head?, isBlank c = false) ∧ ∀ c ∈ s.getLast?, isBlank c = false

variable {s before behind : List Char}

/-- A text that ends with what is no blank loses only the blanks it begins with. -/
theorem strip_concat {c : Char} (h : isBlank c = false) (s : List Char) :
    strip (s ++ [c]) = s.dropWhile isBlank ++ [c] := by
  have front : (s ++ [c]).dropWhile isBlank = s.dropWhile isBlank ++ [c] := by
    induction s with
    | nil => simp [h]
    | cons d rest ih =>
      cases blank : isBlank d with
      | true => simpa [blank] using ih
      | false => simp [blank]
  rw [strip, front, List.reverse_append, List.reverse_singleton, List.singleton_append,
    List.dropWhile_cons_of_neg (by simp [h]), List.reverse_cons, List.reverse_reverse]

theorem dropWhile_isBlankText (blank : IsBlankText s) : s.dropWhile isBlank = [] :=
  List.dropWhile_eq_nil_iff.mpr blank

/-- Blanks before a text do not matter. -/
theorem strip_append_left (blank : IsBlankText before) (s : List Char) :
    strip (before ++ s) = strip s := by
  rw [strip, List.dropWhile_append_of_pos blank, strip]

/-- Blanks behind a text do not matter. -/
theorem strip_append_right (blank : IsBlankText behind) (s : List Char) :
    strip (s ++ behind) = strip s := by
  rw [strip, strip, List.dropWhile_append]
  cases kept : s.dropWhile isBlank with
  | nil => simp [dropWhile_isBlankText blank]
  | cons c rest =>
    have reversed : IsBlankText behind.reverse := fun d inside =>
      blank d (List.mem_reverse.mp inside)
    rw [if_neg (by simp), List.reverse_append, List.dropWhile_append_of_pos reversed]

/-- What is stripped at the end are blanks. -/
theorem exists_dropWhile_eq (s : List Char) :
    ∃ behind, s.dropWhile isBlank = strip s ++ behind ∧ IsBlankText behind := by
  refine ⟨((s.dropWhile isBlank).reverse.takeWhile isBlank).reverse, ?_,
    fun c inside => List.mem_takeWhile_imp (List.mem_reverse.mp inside)⟩
  rw [strip, ← List.reverse_append, List.takeWhile_append_dropWhile, List.reverse_reverse]

/-- Only blanks are stripped. -/
theorem exists_strip (s : List Char) :
    ∃ before behind, s = before ++ strip s ++ behind ∧ IsBlankText before ∧
      IsBlankText behind := by
  obtain ⟨behind, kept, blank⟩ := exists_dropWhile_eq s
  refine ⟨s.takeWhile isBlank, behind, ?_, fun c inside => List.mem_takeWhile_imp inside, blank⟩
  rw [List.append_assoc, ← kept, List.takeWhile_append_dropWhile]

/-- A stripped text has no blanks around it. -/
theorem isTrimmed_strip (s : List Char) : IsTrimmed (strip s) := by
  constructor
  · intro c inside
    obtain ⟨behind, kept, -⟩ := exists_dropWhile_eq s
    have first := List.head?_dropWhile_not isBlank s
    rw [kept, List.head?_append, Option.mem_def.mp inside] at first
    exact first
  · intro c inside
    rw [strip, List.getLast?_reverse] at inside
    have last := List.head?_dropWhile_not isBlank (s.dropWhile isBlank).reverse
    rw [Option.mem_def.mp inside] at last
    exact last

/-- A trimmed text does not end with blanks. -/
theorem eq_nil_of_isTrimmed_append (before : List Char) (blank : IsBlankText behind)
    (trimmed : IsTrimmed (before ++ behind)) : behind = [] := by
  cases last : behind.getLast? with
  | none => exact List.getLast?_eq_none_iff.mp last
  | some c =>
    have kept := trimmed.2 c (by rw [List.getLast?_append, last]; rfl)
    rw [blank c (List.mem_of_getLast? last)] at kept
    cases kept

theorem strip_eq_nil_iff : strip s = [] ↔ IsBlankText s := by
  constructor
  · intro nothing
    obtain ⟨before, behind, whole, blank, blank'⟩ := exists_strip s
    rw [nothing, List.append_nil] at whole
    rw [whole]
    exact List.forall_mem_append.mpr ⟨blank, blank'⟩
  · intro blank
    rw [strip, dropWhile_isBlankText blank]
    rfl

end TrialRun.Text
