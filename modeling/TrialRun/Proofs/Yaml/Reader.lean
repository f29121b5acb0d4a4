import TrialRun.Proofs.Yaml.Implicit
import TrialRun.Yaml.Scalar

/-!
# Reading YAML

A reader of block style documents of YAML 1.1: mappings and lists, nested by their columns, whose
names and values are plain or quoted scalars.  It follows the scanner of a loader character by
character, and refuses what it does not know: flow style, block scalars, comments, tags, anchors,
directives, document marks, tabs, and breaks other than the line feed.  A value that is given is the
one that a loader gives.

Between two pieces of a scalar is a gap of blanks and breaks (`Gap`).  Blanks on one line are kept;
blanks beside a break are dropped, one break is read as a blank and each further one as a break.
The line after a break in a scalar must be indented more than the entry that the scalar belongs to.
-/

set_option autoImplicit false

namespace TrialRun.Yaml

/-- A value of a document.  A scalar that is not a text is kept as it was written. -/
inductive Value where
  | scalar (kind : Kind) (s : String)
  | list (items : List Value)
  | map (entries : List (Value × Value))

/-- A scalar that is a text. -/
def Value.text (s : String) : Value := .scalar .text s

namespace Reader

/-- A character that may stand in a document: printable, and no break but the line feed.  The mark
of the byte order is left out, and so is the tab. -/
def isStreamChar (c : Char) : Bool :=
  let n := c.toNat
  n == 0x0a || (0x20 ≤ n && n ≤ 0x7e) ||
    (0xa0 ≤ n && n ≤ 0xfffd && n != 0x2028 && n != 0x2029 && n != 0xfeff) || 0x10000 ≤ n

/-! ## Gaps -/

/-- What is between two pieces of a scalar. -/
inductive Gap where
  | blanks (count : Nat)
  /-- A break, so many empty lines, and so many blanks on the present line. -/
  | lines (empty column : Nat)
  /-- The same, where the break has a backslash before it. -/
  | joint (empty column : Nat)
  deriving DecidableEq, Repr

namespace Gap

def none : Gap := .blanks 0

/-- One blank more. -/
def blank : Gap → Gap
  | .blanks count => .blanks (count + 1)
  | .lines empty column => .lines empty (column + 1)
  | .joint empty column => .joint empty (column + 1)

/-- One break more. -/
def newline : Gap → Gap
  | .blanks _ => .lines 0 0
  | .lines empty _ => .lines (empty + 1) 0
  | .joint empty _ => .joint (empty + 1) 0

/-- What a gap is read as. -/
def chars : Gap → List Char
  | .blanks count => List.replicate count ' '
  | .lines 0 _ => [' ']
  | .lines empty _ => List.replicate empty '\n'
  | .joint empty _ => List.replicate empty '\n'

/-- Whether the line is indented enough to go on with the scalar. -/
def isIndented (least : Nat) : Gap → Bool
  | .blanks _ => true
  | .lines _ column => least ≤ column
  | .joint _ column => least ≤ column

end Gap

/-! ## Scalars -/

/-- What is read goes before what is read from the rest. -/
def before (s : List Char) (r : List Char × List Char) : List Char × List Char := (s ++ r.1, r.2)

/-- Whether a plain scalar ends before a character: at a colon with a blank behind it, at a number
sign with a blank before it, and on a line that is not indented. -/
def endsPlain (least : Nat) (gap : Gap) (c : Char) (rest : List Char) : Bool :=
  (c == ':' && atWhite rest) || (c == '#' && gap != .none) || !gap.isIndented least

/-- Reads a plain scalar, and leaves the blanks and breaks behind it.  The lines after the first are
indented by `least` at least. -/
def plain (least : Nat) : Gap → List Char → List Char × List Char
  | _, [] => ([], [])
  | gap, c :: rest =>
    if isWhite c then
      let r := plain least (if c = ' ' then gap.blank else gap.newline) rest
      if r.1.isEmpty then ([], c :: rest) else r
    else if endsPlain least gap c rest then ([], c :: rest)
    else before (gap.chars ++ [c]) (plain least .none rest)

/-- Reads up to a single quote that is not written twice. -/
def single (least : Nat) : Gap → List Char → Option (List Char × List Char)
  | _, [] => none
  | gap, c :: rest =>
    if c = ' ' then single least gap.blank rest
    else if c = '\n' then single least gap.newline rest
    else if !gap.isIndented least then none
    else if c = '\'' then
      match rest with
      | '\'' :: rest => (single least .none rest).map (before (gap.chars ++ ['\'']))
      | _ => some (gap.chars, rest)
    else (single least .none rest).map (before (gap.chars ++ [c]))

/-- The character that a letter behind a backslash stands for. -/
def escaped : Char → Option Char
  | '0' => some '\x00'
  | 'a' => some '\x07'
  | 'b' => some '\x08'
  | 't' => some '\t'
  | 'n' => some '\n'
  | 'v' => some '\x0b'
  | 'f' => some '\x0c'
  | 'r' => some '\r'
  | 'e' => some '\x1b'
  | ' ' => some ' '
  | '"' => some '"'
  | '/' => some '/'
  | '\\' => some '\\'
  | 'N' => some '\u0085'
  | '_' => some '\u00a0'
  | 'L' => some '\u2028'
  | 'P' => some '\u2029'
  | _ => none

/-- How many digits follow the first one of a code, by the letter that introduces it. -/
def codeLength : Char → Option Nat
  | 'x' => some 1
  | 'u' => some 3
  | 'U' => some 7
  | _ => none

def hexValue (c : Char) : Option Nat :=
  if c.isDigit then some (c.toNat - '0'.toNat)
  else if 'a' ≤ c && c ≤ 'f' then some (c.toNat - 'a'.toNat + 10)
  else if 'A' ≤ c && c ≤ 'F' then some (c.toNat - 'A'.toNat + 10)
  else none

/-- Where the reader is in double quotes. -/
inductive Mode where
  | text (gap : Gap)
  /-- Behind a backslash. -/
  | escape
  /-- In a code with this value so far, before a digit that is followed by so many more. -/
  | code (more value : Nat)

/-- Reads up to a double quote without a backslash before it. -/
def double (least : Nat) : Mode → List Char → Option (List Char × List Char)
  | _, [] => none
  | .text gap, c :: rest =>
    if c = ' ' then double least (.text gap.blank) rest
    else if c = '\n' then double least (.text gap.newline) rest
    else if !gap.isIndented least then none
    else if c = '"' then some (gap.chars, rest)
    else if c = '\\' then (double least .escape rest).map (before gap.chars)
    else (double least (.text .none) rest).map (before (gap.chars ++ [c]))
  | .escape, c :: rest =>
    if c = '\n' then double least (.text (.joint 0 0)) rest
    else
      match escaped c, codeLength c with
      | some d, _ => (double least (.text .none) rest).map (before [d])
      | none, some more => double least (.code more 0) rest
      | none, none => none
  | .code more value, c :: rest =>
    match hexValue c, more with
    | none, _ => none
    | some d, more + 1 => double least (.code more (16 * value + d)) rest
    | some d, 0 =>
      if (16 * value + d).isValidChar then
        (double least (.text .none) rest).map (before [Char.ofNat (16 * value + d)])
      else none

/-- The characters that no plain scalar begins with, except for the first three before something
that is not blank. -/
def indicators : List Char := "-?:,[]\x7b\x7d#&*!|>'\"%@` \n".toList

def startsPlain : List Char → Bool
  | [] => false
  | c :: rest => !indicators.contains c || ((c == '-' || c == '?' || c == ':') && !atWhite rest)

/-- Reads a scalar with its type: quoted scalars are texts. -/
def scalar (least : Nat) (s : List Char) : Option (Value × List Char) :=
  match s with
  | '\'' :: rest => (single least .none rest).map fun r => (.text (String.ofList r.1), r.2)
  | '"' :: rest => (double least (.text .none) rest).map fun r => (.text (String.ofList r.1), r.2)
  | s =>
    if startsPlain s then
      let r := plain least .none s
      some (.scalar (Implicit.resolve r.1) (String.ofList r.1), r.2)
    else none

/-! ## Lines -/

/-- The next line, if nothing but blanks is left on this one. -/
def nextLine (s : List Char) : Option (List Char) :=
  match s.dropWhile (· == ' ') with
  | [] => some []
  | '\n' :: rest => some rest
  | _ => none

/-- An entry of a collection as it is written: its column, its name or none in a list, and the
scalar behind, unless the value is below. -/
structure Entry where
  column : Nat
  name : Option Value
  value : Option Value

/-- The marks that begin and end documents, at the beginning of a line. -/
def isMark (s : List Char) : Bool :=
  (s.take 3 == "---".toList || s.take 3 == "...".toList) && atWhite (s.drop 3)

/-- How long a name may be. -/
def nameLimit : Nat := 1024

/-- Reads a name on one line, and the colon behind it. -/
def name (s : List Char) : Option (Value × List Char) := do
  let line := s.takeWhile (· != '\n')
  let (v, rest) ← scalar 0 line
  match rest.dropWhile (· == ' ') with
  | ':' :: more =>
    if atWhite more && line.length - more.length ≤ nameLimit + 1 then
      some (v, more ++ s.dropWhile (· != '\n'))
    else none
  | _ => none

/-- Reads what introduces an entry: a dash, or a name. -/
def head (column : Nat) (s : List Char) : Option (Option Value × List Char) :=
  if column = 0 && isMark s then none
  else
    match s with
    | [] => none
    | c :: rest =>
      if c = '-' && atWhite rest then some (none, rest)
      else (name s).map fun r => (some r.1, r.2)

/-- Reads what is behind the introduction of an entry, and goes to the next line. -/
def value (least : Nat) (s : List Char) : Option (Option Value × List Char) :=
  match nextLine s with
  | some rest => some (none, rest)
  | none => do
    let (v, rest) ← scalar least (s.dropWhile (· == ' '))
    some (some v, ← nextLine rest)

/-- Reads an entry that begins on this line. -/
def entry (s : List Char) : Option (Entry × List Char) := do
  let column := (s.takeWhile (· == ' ')).length
  let (name, rest) ← head column (s.dropWhile (· == ' '))
  let (v, rest) ← value (column + 1) rest
  some (⟨column, name, v⟩, rest)

/-- Reads all entries.  Each takes a character at least, so that the length bounds their number. -/
def entries : (bound : Nat) → List Char → Option (List Entry)
  | _, [] => some []
  | 0, _ :: _ => none
  | bound + 1, s => do
    let (e, rest) ← entry s
    some (e :: (← entries bound rest))

/-! ## Collections -/

/-- An entry with its value. -/
structure Part where
  column : Nat
  name : Option Value
  value : Value

/-- Whether an entry belongs below another one: it is indented more, or it is an item of the list
that a name introduces. -/
def Entry.adopts (e : Entry) (p : Part) : Bool :=
  e.column < p.column || (e.name.isSome && p.name.isNone && p.column == e.column)

/-- The collection of some entries, which stand in one column and are of one kind. -/
def collect : List Part → Option Value
  | [] => some (.scalar .null "")
  | first :: rest =>
    if rest.all (·.column == first.column) then
      match first.name with
      | none =>
        if rest.all (·.name.isNone) then some (.list ((first :: rest).map (·.value))) else none
      | some _ =>
        ((first :: rest).mapM fun (p : Part) => p.name.map fun n => (n, p.value)).map .map
    else none

/-- Puts an entry before others, of which it takes those that belong below it. -/
def grow (e : Entry) (parts : List Part) : Option (List Part) :=
  match e.value with
  | some v =>
    if (parts.takeWhile e.adopts).isEmpty then some (⟨e.column, e.name, v⟩ :: parts) else none
  | none => do
    let v ← collect (parts.takeWhile e.adopts)
    some (⟨e.column, e.name, v⟩ :: parts.dropWhile e.adopts)

/-- The outermost entries. -/
def outline : List Entry → Option (List Part)
  | [] => some []
  | e :: rest => do grow e (← outline rest)

/-- The value of a document, if the reader knows all that is in it. -/
def read (s : String) : Option Value :=
  if s.toList.all isStreamChar then do
    collect (← outline (← entries s.toList.length s.toList))
  else none

-- Digits are a number unless they are quoted, and a line that is indented more goes on with a text.
example : read "a: 12\nb: '12'\nc:\n- x\n  y\n" =
    some (.map [(.text "a", .scalar .integer "12"), (.text "b", .text "12"),
      (.text "c", .list [.text "x y"])]) := by cbv

end Reader

end TrialRun.Yaml
