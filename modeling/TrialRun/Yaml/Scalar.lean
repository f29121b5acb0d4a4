import TrialRun.Yaml.Kind
import TrialRun.Text.Quoted

/-!
# Scalars of YAML

A text is written as a scalar in the plainest style that reads back as this very text: without
quotes if it can, else in single quotes, else in double quotes.

* Plain scalars hold printable ASCII only, have no break and no blank at their ends, hold nothing
  that YAML would take for structure, and are not read as anything but a text (`Kind.ofPlain`).
* Single quotes allow breaks, but no blank beside a break, since such blanks are dropped in reading.
* Double quotes allow everything: what is not printable ASCII is escaped.

Lines are folded once they have passed the width: a single blank between two words is where a line
may end in the first two styles; in double quotes a line may also end behind an escape, with a
backslash.
-/

set_option autoImplicit false

namespace TrialRun.Yaml

/-- The width after which a line is folded. -/
def width : Nat := 80

/-- The ways to write a scalar. -/
inductive Style where
  | plain
  | single
  | double
  deriving DecidableEq, Repr

/-! ## Choosing a style -/

/-- A character that only double quotes can show: neither printable ASCII nor a line break. -/
def isSpecial (c : Char) : Bool := !(c == '\n' || (0x20 ≤ c.toNat && c.toNat ≤ 0x7e))

/-- A blank or a line break. -/
def isWhite (c : Char) : Bool := c == ' ' || c == '\n'

/-- Whether the text is at its end, or goes on with a blank or a break. -/
def atWhite : List Char → Bool
  | [] => true
  | c :: _ => isWhite c

/-- The characters that mean structure at the head of a scalar, whatever follows. -/
def headIndicators : List Char := "#,[]\x7b\x7d&*!|>'\"%@`".toList

/-- Whether structure is met inside a scalar: a colon before a blank, or a number sign behind
one. -/
def hasInnerIndicator (behindWhite : Bool) : List Char → Bool
  | [] => false
  | c :: rest =>
    (c == ':' && atWhite rest) || (c == '#' && behindWhite) || hasInnerIndicator (isWhite c) rest

/-- Whether the text would be taken for structure if it were written plainly. -/
def hasIndicator (s : List Char) : Bool :=
  s.take 3 == "---".toList || s.take 3 == "...".toList ||
    (match s with
      | [] => false
      | c :: rest => headIndicators.contains c || ((c == '?' || c == '-') && atWhite rest)) ||
    hasInnerIndicator true s

/-- Whether a blank and a break stand side by side. -/
def hasBlankAtBreak : List Char → Bool
  | [] => false
  | [_] => false
  | a :: b :: rest =>
    (a == ' ' && b == '\n') || (a == '\n' && b == ' ') || hasBlankAtBreak (b :: rest)

/-- Whether the text begins or ends with a blank or a break. -/
def hasWhiteEnd (s : List Char) : Bool :=
  s.head?.any isWhite || s.getLast?.any isWhite

/-- Whether the text can stand without quotes. -/
def allowsPlain (s : List Char) : Bool :=
  !s.any isSpecial && !s.contains '\n' && !hasWhiteEnd s && !hasIndicator s &&
    Kind.ofPlain s == .text

/-- Whether the text can stand in single quotes. -/
def allowsSingle (s : List Char) : Bool := !s.any isSpecial && !hasBlankAtBreak s

/-- The plainest style that reads back as the text. -/
def Style.of (s : List Char) : Style :=
  if allowsPlain s then .plain else if allowsSingle s then .single else .double

/-! ## Words, blanks and breaks -/

/-- A stretch of a text: characters of one sort. -/
inductive Chunk where
  | word (s : List Char)
  | blanks (count : Nat)
  | breaks (count : Nat)
  deriving DecidableEq, Repr

/-- One more character before the chunks. -/
def Chunk.prepend (c : Char) (chunks : List Chunk) : List Chunk :=
  match c, chunks with
  | ' ', .blanks n :: rest => .blanks (n + 1) :: rest
  | ' ', rest => .blanks 1 :: rest
  | '\n', .breaks n :: rest => .breaks (n + 1) :: rest
  | '\n', rest => .breaks 1 :: rest
  | c, .word s :: rest => .word (c :: s) :: rest
  | c, rest => .word [c] :: rest

/-- The text as the stretches it consists of. -/
def Chunk.split (s : List Char) : List Chunk := s.foldr Chunk.prepend []

def Chunk.chars : Chunk → List Char
  | .word s => s
  | .blanks n => List.replicate n ' '
  | .breaks n => List.replicate n '\n'

/-- One more character in front is all that `prepend` adds. -/
theorem Chunk.chars_prepend (c : Char) (chunks : List Chunk) :
    (Chunk.prepend c chunks).flatMap Chunk.chars = c :: chunks.flatMap Chunk.chars := by
  unfold Chunk.prepend
  split <;> simp_all [Chunk.chars, List.replicate_succ]

/-- Nothing is lost in splitting. -/
theorem Chunk.chars_split (s : List Char) : (Chunk.split s).flatMap Chunk.chars = s := by
  induction s with
  | nil => rfl
  | cons c s ih =>
    show (Chunk.prepend c (Chunk.split s)).flatMap Chunk.chars = _
    rw [Chunk.chars_prepend, ih]

/-! ## Writing -/

/-- A line break and the indentation of the next line. -/
def fold (indent : Nat) : List Char := '\n' :: List.replicate indent ' '

/-- A plain scalar from `column` on. -/
def plainChunks (indent : Nat) : (column : Nat) → List Chunk → List Char
  | _, [] => []
  | column, .word s :: rest => s ++ plainChunks indent (column + s.length) rest
  | column, .blanks n :: rest =>
    if n = 1 ∧ width < column then fold indent ++ plainChunks indent indent rest
    else List.replicate n ' ' ++ plainChunks indent (column + n) rest
  | column, .breaks n :: rest => List.replicate n '\n' ++ plainChunks indent column rest

/-- A word in single quotes: the quote itself is written twice. -/
def singleWord (s : List Char) : List Char :=
  s.flatMap fun c => if c = '\'' then ['\'', '\''] else [c]

/-- The inside of single quotes from `column` on.  A break is written as an empty line, since one
break alone would be read as a blank.  Blanks at the two ends stay where they are. -/
def singleChunks (indent : Nat) : (first : Bool) → (column : Nat) → List Chunk → List Char
  | _, _, [] => []
  | _, column, .word s :: rest =>
    singleWord s ++ singleChunks indent false (column + (singleWord s).length) rest
  | first, column, .blanks n :: rest =>
    if n = 1 ∧ width < column ∧ first = false ∧ rest ≠ [] then
      fold indent ++ singleChunks indent false indent rest
    else List.replicate n ' ' ++ singleChunks indent false (column + n) rest
  | _, _, .breaks n :: rest =>
    List.replicate n '\n' ++ fold indent ++ singleChunks indent false indent rest

def upperHex (width n : Nat) : List Char := (Text.hexDigits width n).map Char.toUpper

/-- The escape of a character in double quotes. -/
def escape (c : Char) : List Char :=
  match c.toNat with
  | 0 => "\\0".toList
  | 7 => "\\a".toList
  | 8 => "\\b".toList
  | 9 => "\\t".toList
  | 10 => "\\n".toList
  | 11 => "\\v".toList
  | 12 => "\\f".toList
  | 13 => "\\r".toList
  | 27 => "\\e".toList
  | 34 => "\\\"".toList
  | 92 => "\\\\".toList
  | 0x85 => "\\N".toList
  | 0xa0 => "\\_".toList
  | 0x2028 => "\\L".toList
  | 0x2029 => "\\P".toList
  | n =>
    if n < 0x100 then '\\' :: 'x' :: upperHex 2 n
    else if n < 0x10000 then '\\' :: 'u' :: upperHex 4 n
    else '\\' :: 'U' :: upperHex 8 n

/-- A character that stands for itself in double quotes. -/
def isVerbatim (c : Char) : Bool :=
  0x20 ≤ c.toNat && c.toNat ≤ 0x7e && c != '"' && c != '\\'

/-- The inside of double quotes from `column` on.  A line may end before a blank, and before any
character if an escape stands behind the line's last fold and nothing since (`fresh`); never before
the second character (`inner`) and never before the last.  A blank that begins a line needs a
backslash before it, since it would be dropped in reading. -/
def doubleChars (indent : Nat) :
    (inner : Bool) → (column : Nat) → (fresh : Bool) → List Char → List Char
  | _, _, _, [] => []
  | inner, column, fresh, c :: rest =>
    if isVerbatim c then
      if inner && !rest.isEmpty && (c == ' ' || fresh) && width < column then
        let guard := if c = ' ' then ['\\'] else []
        '\\' :: fold indent ++ guard ++
          c :: doubleChars indent true (indent + guard.length + 1) false rest
      else c :: doubleChars indent true (column + 1) false rest
    else
      let written := escape c
      let column := column + written.length
      if inner && !rest.isEmpty && width < column - 1 then
        let guard := if rest.head? = some ' ' then ['\\'] else []
        written ++ '\\' :: fold indent ++ guard ++
          doubleChars indent true (indent + guard.length) true rest
      else written ++ doubleChars indent true column true rest

/-- A text as a scalar from `column` on, the blank before it included; further lines are indented
by `indent`. -/
def scalar (indent column : Nat) (s : List Char) : List Char :=
  match Style.of s with
  | .plain => ' ' :: plainChunks indent (column + 1) (Chunk.split s)
  | .single => ' ' :: '\'' :: singleChunks indent true (column + 2) (Chunk.split s) ++ ['\'']
  | .double => ' ' :: '"' :: doubleChars indent false (column + 2) true s ++ ['"']

end TrialRun.Yaml
