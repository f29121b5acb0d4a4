import Mathlib.Computability.RegularExpressions
import TrialRun.Yaml.Kind

/-!
# The implicit types of YAML 1.1

A scalar without quotes has the type whose pattern it matches: truth, numbers with and without a
point, nothing, times, and the two keys with a meaning of their own.  The patterns are the regular
expressions of the types; a scalar that matches none of them is a text (`Implicit.resolve`).
-/

set_option autoImplicit false

namespace TrialRun.Yaml.Implicit

open RegularExpression

/-! ## Patterns -/

abbrev Pattern := RegularExpression Char

/-- One of some characters. -/
def among (s : List Char) : Pattern := s.foldr (fun c rest => char c + rest) 0

abbrev only (c : Char) : Pattern := among [c]

def word (s : List Char) : Pattern := s.foldr (fun c rest => char c * rest) 1

def oneOf (words : List String) : Pattern := words.foldr (fun s rest => word s.toList + rest) 0

def optional (p : Pattern) : Pattern := 1 + p

/-- At least one word of a pattern. -/
def repeated (p : Pattern) : Pattern := p * star p

def digits : List Char := "0123456789".toList

def nonzeros : List Char := "123456789".toList

/-- Digits, and the underscore that may stand between them. -/
def figures : List Char := "0123456789_".toList

def bits : List Char := "01_".toList

def octals : List Char := "01234567_".toList

def hexes : List Char := "0123456789abcdefABCDEF_".toList

def signs : List Char := "-+".toList

def spaces : List Char := " \t".toList

/-- A place of a number in sixties. -/
def sixtieth : Pattern := only ':' * (optional (among "012345".toList) * among digits)

def exponent : Pattern := among "eE".toList * (among signs * repeated (among digits))

/-- A decimal number without a sign, which may begin with a zero. -/
def decimal : Pattern := among digits * star (among figures)

def leadingDecimal : Pattern := among nonzeros * star (among figures)

/-! ## Types -/

def truth : Pattern := oneOf
  ["yes", "Yes", "YES", "no", "No", "NO", "true", "True", "TRUE", "false", "False", "FALSE",
    "on", "On", "ON", "off", "Off", "OFF"]

def nothing : Pattern := oneOf ["~", "null", "Null", "NULL", ""]

def integer : Pattern :=
  optional (among signs) * (only '0' * (only 'b' * repeated (among bits))) +
  (optional (among signs) * (only '0' * repeated (among octals)) +
  (optional (among signs) * only '0' +
  (optional (among signs) * leadingDecimal +
  (optional (among signs) * (only '0' * (only 'x' * repeated (among hexes))) +
  optional (among signs) * (leadingDecimal * repeated sixtieth)))))

def float : Pattern :=
  optional (among signs) * (decimal * (only '.' * (star (among figures) * optional exponent))) +
  (only '.' * (decimal * optional exponent) +
  (optional (among signs) *
    (decimal * (repeated sixtieth * (only '.' * star (among figures)))) +
  (optional (among signs) * only '.' * oneOf ["inf", "Inf", "INF"] +
  oneOf [".nan", ".NaN", ".NAN"])))

/-- One digit or two. -/
def upToTwo : Pattern := among digits * optional (among digits)

def two : Pattern := among digits * among digits

def four : Pattern := two * two

/-- Hours and perhaps minutes before or after the time of the zero meridian. -/
def offset : Pattern := among signs * (upToTwo * optional (only ':' * two))

def zone : Pattern := star (among spaces) * (only 'Z' + offset)

def timestamp : Pattern :=
  four * (only '-' * (two * (only '-' * two))) +
  four * (only '-' * (upToTwo * (only '-' * (upToTwo *
    ((among "Tt".toList + repeated (among spaces)) *
    (upToTwo * (only ':' * (two * (only ':' * (two *
    (optional (only '.' * star (among digits)) * optional zone)))))))))))

/-- The types with their patterns. -/
def types : List (Kind × Pattern) :=
  [(.truth, truth), (.float, float), (.integer, integer), (.merge, word "<<".toList),
    (.null, nothing), (.timestamp, timestamp), (.fallback, word "=".toList)]

/-- The type of a scalar without quotes. -/
def resolve (s : List Char) : Kind :=
  ((types.find? fun type => type.2.rmatch s).map (·.1)).getD .text

/-! ## Words of patterns -/

section Words

variable {p q : Pattern} {a s rest : List Char} {c : Char}

/-- One character of `s`, and no other text, matches `among s`. -/
theorem rmatch_among : (among s).rmatch a ↔ ∃ c ∈ s, a = [c] := by
  induction s with
  | nil => simp [among]
  | cons c s ih =>
    show (char c + among s).rmatch a ↔ _
    rw [add_rmatch_iff, char_rmatch_iff, ih]
    simp

/-- A word is matched by itself alone. -/
theorem rmatch_word : (word s).rmatch a ↔ a = s := by
  induction s generalizing a with
  | nil => exact one_rmatch_iff a
  | cons c s ih =>
    show (char c * word s).rmatch a ↔ _
    simp only [mul_rmatch_iff, char_rmatch_iff, ih]
    constructor
    · rintro ⟨_, _, rfl, rfl, rfl⟩
      rfl
    · rintro rfl
      exact ⟨[c], s, rfl, rfl, rfl⟩

theorem rmatch_oneOf {words : List String} :
    (oneOf words).rmatch a ↔ ∃ w ∈ words, a = w.toList := by
  induction words with
  | nil => simp [oneOf]
  | cons w words ih =>
    show (word w.toList + oneOf words).rmatch a ↔ _
    rw [add_rmatch_iff, rmatch_word, ih]
    simp

theorem rmatch_optional : (optional p).rmatch a ↔ a = [] ∨ p.rmatch a := by
  rw [optional, add_rmatch_iff, one_rmatch_iff]

/-- Any number of characters of `s` match, none at all included. -/
theorem rmatch_star_among : (star (among s)).rmatch a ↔ ∀ c ∈ a, c ∈ s := by
  rw [star_rmatch_iff]
  constructor
  · rintro ⟨parts, rfl, each⟩ c inside
    obtain ⟨part, among, inside⟩ := List.mem_flatten.mp inside
    obtain ⟨d, known, rfl⟩ := rmatch_among.mp (each part among).2
    rwa [List.mem_singleton.mp inside]
  · intro each
    refine ⟨a.map fun c => [c], by rw [← List.flatMap_def, List.flatMap_singleton'], ?_⟩
    intro part among
    obtain ⟨c, inside, rfl⟩ := List.mem_map.mp among
    exact ⟨List.cons_ne_nil _ _, rmatch_among.mpr ⟨c, each c inside, rfl⟩⟩

/-- The characters that a word of the pattern can begin with. -/
def first : Pattern → List Char
  | .zero => []
  | .epsilon => []
  | .char c => [c]
  | .plus p q => first p ++ first q
  | .comp p q => first p ++ if p.matchEpsilon then first q else []
  | .star p => first p

@[simp] theorem first_among (s : List Char) : first (among s) = s := by
  induction s with
  | nil => rfl
  | cons c s ih => exact congrArg (c :: ·) ih

/-- A class of characters does not match the empty text. -/
@[simp] theorem matchEpsilon_among (s : List Char) : (among s).matchEpsilon = false := by
  induction s with
  | nil => rfl
  | cons c s ih => exact ih

/-- What matches a pattern begins with one of its first characters. -/
theorem mem_first (h : p.rmatch (c :: a)) : c ∈ first p := by
  induction p generalizing a with
  | zero => exact absurd h (by simp)
  | epsilon => cases (one_rmatch_iff _).mp h
  | char d =>
    cases (char_rmatch_iff _ _).mp h
    exact List.mem_singleton_self _
  | plus p q ihp ihq =>
    rcases (add_rmatch_iff _ _ _).mp h with h | h
    · exact List.mem_append_left _ (ihp h)
    · exact List.mem_append_right _ (ihq h)
  | comp p q ihp ihq =>
    obtain ⟨t, u, parts, left, right⟩ := (mul_rmatch_iff _ _ _).mp h
    cases t with
    | nil =>
      have empty : p.matchEpsilon = true := left
      cases parts
      exact List.mem_append_right _ (by simpa [empty] using ihq right)
    | cons d t =>
      cases parts
      exact List.mem_append_left _ (ihp left)
  | star p ih =>
    obtain ⟨parts, whole, each⟩ := (star_rmatch_iff _ _).mp h
    cases parts with
    | nil => cases whole
    | cons part parts =>
      obtain ⟨nonempty, matched⟩ := each part List.mem_cons_self
      cases part with
      | nil => exact absurd rfl nonempty
      | cons d part =>
        cases whole
        exact ih matched

end Words

end TrialRun.Yaml.Implicit
