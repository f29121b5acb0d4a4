import TrialRun.Json.Basic

/-!
# Reading JSON

The reader takes a whole text, blanks around the value allowed, and tells a text that is no JSON
(`Problem.malformed`) from an integer that is too long to be read (`Problem.tooLong`) and from lists
and objects that are nested too deeply (`Problem.tooDeep`); what is met first counts.  Besides the
standard it knows `NaN`, `Infinity` and `-Infinity`.  Of two fields of one name the later one holds.
A half of a surrogate pair without its partner is kept in a text, and replaced in a name.

Every function that reads one piece answers with the piece and the characters behind it.  The walk
into lists and objects is bounded by the length of the text: each step down or along consumes at
least one character, so a bound of that many steps is never met.
-/

set_option autoImplicit false

namespace TrialRun.Json.Reader

/-- Why a text cannot be read. -/
inductive Problem where
  | malformed
  | tooLong
  | tooDeep
  deriving DecidableEq, Repr

/-- The blanks allowed between the pieces. -/
def isGap (c : Char) : Bool := c == ' ' || c == '\t' || c == '\n' || c == '\r'

/-- The text behind the blanks. -/
def skip (s : List Char) : List Char := s.dropWhile isGap

/-! ## Texts -/

def hexValue? (c : Char) : Option Nat :=
  if '0' ≤ c && c ≤ '9' then some (c.toNat - 48)
  else if 'a' ≤ c && c ≤ 'f' then some (c.toNat - 87)
  else if 'A' ≤ c && c ≤ 'F' then some (c.toNat - 55)
  else none

def hexValues? (a b c d : Char) : Option Nat := do
  let a ← hexValue? a
  let b ← hexValue? b
  let c ← hexValue? c
  let d ← hexValue? d
  pure (((a * 16 + b) * 16 + c) * 16 + d)

def escape? : Char → Option Nat
  | '"' => some 34
  | '\\' => some 92
  | '/' => some 47
  | 'b' => some 8
  | 'f' => some 12
  | 'n' => some 10
  | 'r' => some 13
  | 't' => some 9
  | _ => none

/-- The codes of a text up to its closing quote.  An escape may give half of a surrogate pair. -/
def codes : List Char → Except Problem (List Nat × List Char)
  | [] => .error .malformed
  | '"' :: rest => .ok ([], rest)
  | '\\' :: 'u' :: a :: b :: c :: d :: rest =>
    match hexValues? a b c d with
    | some code => (codes rest).map fun r => (code :: r.1, r.2)
    | none => .error .malformed
  | '\\' :: c :: rest =>
    match escape? c with
    | some code => (codes rest).map fun r => (code :: r.1, r.2)
    | none => .error .malformed
  | c :: rest =>
    if c.toNat < 32 then .error .malformed
    else (codes rest).map fun r => (c.toNat :: r.1, r.2)

/-- The code points of a text, behind its opening quote. -/
def string (s : List Char) : Except Problem (List Nat × List Char) :=
  (codes s).map fun r => (Text.joinHalves r.1, r.2)

/-! ## Numbers -/

def decimal (digits : List Char) : Nat :=
  digits.foldl (fun n c => n * 10 + (c.toNat - 48)) 0

/-- The double nearest to `digits * 10 ^ exponent`.  Outside the range of doubles the power is not
even formed. -/
def double (negative : Bool) (digits : Nat) (exponent : Int) : Float :=
  let size : Int := (Nat.toDigits 10 digits).length + exponent
  let magnitude : Float :=
    if digits = 0 ∨ size < -400 then 0.0
    else if 400 < size then 1.0 / 0.0
    else if exponent < 0 then Float.ofScientific digits true exponent.natAbs
    else Float.ofScientific digits false exponent.natAbs
  if negative then -magnitude else magnitude

/-- The most digits an integer may have. -/
def digitLimit : Nat := 4300

/-- The fraction behind a number, if there is one: a point and at least one digit. -/
def fraction (s : List Char) : List Char × List Char :=
  match s with
  | '.' :: rest =>
    let digits := rest.takeWhile Char.isDigit
    if digits.isEmpty then ([], s) else (digits, rest.dropWhile Char.isDigit)
  | _ => ([], s)

/-- The exponent behind a number, if there is one: a letter, perhaps a sign, and at least one
digit. -/
def exponent (s : List Char) : Option Int × List Char :=
  match s with
  | mark :: rest =>
    if mark = 'e' ∨ mark = 'E' then
      let negative := rest.head? == some '-'
      let rest := if negative || rest.head? == some '+' then rest.drop 1 else rest
      let digits := rest.takeWhile Char.isDigit
      if digits.isEmpty then (none, s)
      else
        let value : Int := decimal digits
        (some (if negative then -value else value), rest.dropWhile Char.isDigit)
    else (none, s)
  | [] => (none, s)

def unsigned (negative : Bool) (s : List Char) : Except Problem (Json × List Char) :=
  let digits := s.takeWhile Char.isDigit
  let whole := if digits.head? == some '0' then ['0'] else digits
  if whole.isEmpty then .error .malformed
  else
    let (places, behind) := fraction (s.drop whole.length)
    let (power, rest) := exponent behind
    match places, power with
    | [], none =>
      if digitLimit < whole.length then .error .tooLong
      else
        let value : Int := decimal whole
        .ok (.number (.int (if negative then -value else value)), rest)
    | _, _ =>
      let power := power.getD 0 - places.length
      .ok (.number (.double (double negative (decimal (whole ++ places)) power)), rest)

def scalar (s : List Char) : Except Problem (Json × List Char) :=
  match s with
  | 'n' :: 'u' :: 'l' :: 'l' :: rest => .ok (.null, rest)
  | 't' :: 'r' :: 'u' :: 'e' :: rest => .ok (.bool true, rest)
  | 'f' :: 'a' :: 'l' :: 's' :: 'e' :: rest => .ok (.bool false, rest)
  | 'N' :: 'a' :: 'N' :: rest => .ok (.number (.double (0.0 / 0.0)), rest)
  | 'I' :: 'n' :: 'f' :: 'i' :: 'n' :: 'i' :: 't' :: 'y' :: rest =>
    .ok (.number (.double (1.0 / 0.0)), rest)
  | '-' :: 'I' :: 'n' :: 'f' :: 'i' :: 'n' :: 'i' :: 't' :: 'y' :: rest =>
    .ok (.number (.double (-1.0 / 0.0)), rest)
  | '-' :: rest => unsigned true rest
  | s => unsigned false s

/-! ## Values -/

/-- How deep the values of a text may be nested. -/
def nestingLimit : Nat := 987

/-- Goes one level down, if there is one left. -/
def descend {α : Type} (levels : Nat) (next : Nat → Except Problem α) : Except Problem α :=
  match levels with
  | 0 => .error .tooDeep
  | levels + 1 => next levels

mutual

/-- A value, at the head of the text, that may hold some levels of lists and objects. -/
def value : (fuel levels : Nat) → List Char → Except Problem (Json × List Char)
  | 0, _, _ => .error .malformed
  | _ + 1, _, '"' :: rest => (string rest).map fun r => (ofCodePoints r.1, r.2)
  | fuel + 1, levels, '[' :: rest =>
    descend levels fun levels =>
      match skip rest with
      | ']' :: rest => .ok (.list [], rest)
      | rest => items fuel levels [] rest
  | fuel + 1, levels, '\x7b' :: rest =>
    descend levels fun levels =>
      match skip rest with
      | '\x7d' :: rest => .ok (.object [], rest)
      | rest => fields fuel levels [] rest
  | _ + 1, _, s => scalar s

/-- The items of a list from the next one on; those already read are in reverse. -/
def items : (fuel levels : Nat) → List Json → List Char → Except Problem (Json × List Char)
  | 0, _, _, _ => .error .malformed
  | fuel + 1, levels, read, s => do
    let (v, rest) ← value fuel levels s
    match skip rest with
    | ',' :: rest => items fuel levels (v :: read) (skip rest)
    | ']' :: rest => .ok (.list (v :: read).reverse, rest)
    | _ => .error .malformed

/-- The fields of an object from the next one on; those already read are in reverse. -/
def fields : (fuel levels : Nat) → List (String × Json) → List Char →
    Except Problem (Json × List Char)
  | 0, _, _, _ => .error .malformed
  | fuel + 1, levels, read, '"' :: s => do
    let (codes, rest) ← string s
    let name := String.ofList (Text.ofCodePoints codes)
    match skip rest with
    | ':' :: rest =>
      let (v, rest) ← value fuel levels (skip rest)
      match skip rest with
      | ',' :: rest => fields fuel levels ((name, v) :: read) (skip rest)
      | '\x7d' :: rest => .ok (ofFields ((name, v) :: read).reverse, rest)
      | _ => .error .malformed
    | _ => .error .malformed
  | _ + 1, _, _, _ => .error .malformed

end

end Reader

/-- Reads a text that holds one value, with blanks around it. -/
def read (s : List Char) : Except Reader.Problem Json := do
  let (v, rest) ← Reader.value (s.length + 1) Reader.nestingLimit (Reader.skip s)
  if (Reader.skip rest).isEmpty then .ok v else .error .malformed

end TrialRun.Json
