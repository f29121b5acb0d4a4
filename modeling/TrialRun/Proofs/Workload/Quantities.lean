import Mathlib.Data.Rat.Defs
import Mathlib.Tactic.NormNum

/-!
# Quantities

How much of a resource there is, is written as a text: a number and a unit behind it.  The units of
one resource differ from place to place, thousandths beside whole ones and powers of ten beside
powers of two, so amounts can only be compared by what they are worth.

`Quantity.read` takes every form that the API server takes: a sign, a fraction, a unit of powers of
ten or of two, or an exponent of ten.  It is exact where the server rounds, which happens only below
the smallest unit and beyond the greatest amounts.  A whole number with a unit is worth that many of
the unit (`Quantity.read_whole`).
-/

set_option autoImplicit false

namespace TrialRun.Quantity

/-- What is written behind a number, and what one of it is worth. -/
def units : List (String × Rat) :=
  [("n", 1 / 10 ^ 9), ("u", 1 / 10 ^ 6), ("m", 1 / 10 ^ 3), ("", 1),
    ("k", 10 ^ 3), ("M", 10 ^ 6), ("G", 10 ^ 9), ("T", 10 ^ 12), ("P", 10 ^ 15), ("E", 10 ^ 18),
    ("Ki", 2 ^ 10), ("Mi", 2 ^ 20), ("Gi", 2 ^ 30), ("Ti", 2 ^ 40), ("Pi", 2 ^ 50), ("Ei", 2 ^ 60)]

/-- Whether a minus is in front, and what comes behind the sign. -/
def sign : List Char → Bool × List Char
  | '-' :: s => (true, s)
  | '+' :: s => (false, s)
  | s => (false, s)

/-- The digits in front, and what comes behind them. -/
def digits (s : List Char) : List Char × List Char :=
  (s.takeWhile Char.isDigit, s.dropWhile Char.isDigit)

/-- The digits of the fraction, and what comes behind them. -/
def fraction : List Char → List Char × List Char
  | '.' :: s => digits s
  | s => ([], s)

/-- The power of ten that an exponent stands for. -/
def exponent? : List Char → Option Rat
  | [] => none
  | mark :: s =>
    let (negative, size) := sign s
    if (mark = 'e' ∨ mark = 'E') ∧ size ≠ [] ∧ size.all Char.isDigit then
      let power : Rat := 10 ^ Nat.ofDigitChars 10 size 0
      some (if negative then 1 / power else power)
    else none

def unit? (s : List Char) : Option Rat := (units.lookup (String.ofList s)).or (exponent? s)

/-- What a quantity is worth. -/
def read (s : String) : Option Rat :=
  let (negative, s) := sign s.toList
  let (whole, s) := digits s
  let (part, s) := fraction s
  if whole = [] ∧ part = [] then none
  else (unit? s).map fun unit =>
    let size : Rat := Nat.ofDigitChars 10 (whole ++ part) 0 / 10 ^ part.length * unit
    if negative then -size else size

/-- Every unit is told apart from the number in front of it. -/
theorem units_apart : ∀ unit ∈ units, digits unit.1.toList = ([], unit.1.toList) ∧
    fraction unit.1.toList = ([], unit.1.toList) ∧ unit? unit.1.toList = some unit.2 := by
  decide +kernel

/-- Digits have no sign in front. -/
theorem sign_toDigits (n : Nat) (s : List Char) :
    sign (Nat.toDigits 10 n ++ s) = (false, Nat.toDigits 10 n ++ s) := by
  obtain ⟨c, rest, written⟩ := List.exists_cons_of_ne_nil (Nat.toDigits_ne_nil (n := n) (b := 10))
  have digit : c.isDigit = true :=
    Nat.isDigit_of_mem_toDigits (by decide) (by decide) (written ▸ List.mem_cons_self)
  rw [written, List.cons_append, sign]
  · rintro _ ⟨⟩
    cases digit
  · rintro _ ⟨⟩
    cases digit

/-- All digits of a number are read, up to what is behind them. -/
theorem digits_toDigits (n : Nat) {s : List Char} (apart : digits s = ([], s)) :
    digits (Nat.toDigits 10 n ++ s) = (Nat.toDigits 10 n, s) := by
  have all : ∀ c ∈ Nat.toDigits 10 n, c.isDigit = true := fun c inside =>
    Nat.isDigit_of_mem_toDigits (by decide) (by decide) inside
  obtain ⟨none, rest⟩ := Prod.mk.inj apart
  rw [digits, List.takeWhile_append_of_pos all, List.dropWhile_append_of_pos all, none, rest,
    List.append_nil]

/-- A whole number with a unit is worth that many of the unit. -/
theorem read_whole (n : Nat) (unit : String) {size : Rat} (known : units.lookup unit = some size) :
    read (toString n ++ unit) = some (n * size) := by
  obtain ⟨before, behind, listed, -⟩ := List.lookup_eq_some_iff.mp known
  obtain ⟨apart, noFraction, worth⟩ :=
    units_apart (unit, size) (listed ▸ List.mem_append_right _ List.mem_cons_self)
  have written : (toString n ++ unit).toList = Nat.toDigits 10 n ++ unit.toList := by
    rw [String.toList_append, Nat.toString_eq_ofList_toDigits, String.toList_ofList]
  have given : Nat.toDigits 10 n ≠ [] := Nat.toDigits_ne_nil
  simp only [read, written, sign_toDigits, digits_toDigits n apart, noFraction, given, false_and,
    if_false, worth, Option.map_some, List.append_nil, Nat.ofDigitChars_ten_toDigits,
    List.length_nil, pow_zero, div_one, Bool.false_eq_true]

example : read "1.5Gi" = read "1572864Ki" ∧ read "-.5k" = read "-5e2" ∧ read "5 G" = none := by
  decide +kernel

end TrialRun.Quantity
