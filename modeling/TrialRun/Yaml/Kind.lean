/-!
# What a plain scalar is read as

A scalar written without quotes is read as a text only if it looks like nothing else.  YAML 1.1
gives the words of truth, `null` and its short form, integers in four bases and in sixties, floating
point numbers, dates and times, the merge key and the default key a meaning of their own.  None of
these shapes needs looking back, so each is a chain of small steps that consume a piece and answer
with what is left.
-/

set_option autoImplicit false

namespace TrialRun.Yaml

/-- The meanings a plain scalar can have. -/
inductive Kind where
  | text
  | truth
  | null
  | integer
  | float
  | timestamp
  | merge
  | fallback
  deriving DecidableEq, Repr

namespace Kind

/-- One step of a shape: what is left behind the piece, if the piece is there. -/
abbrev Step := List Char → Option (List Char)

/-- Between `least` and `most` decimal digits, as many as there are. -/
def digits (least most : Nat) : Step := fun s =>
  let found := (s.take most).takeWhile Char.isDigit
  if found.length < least then none else some (s.drop found.length)

/-- One character of a class. -/
def one (p : Char → Bool) : Step
  | c :: rest => if p c then some rest else none
  | [] => none

/-- Any number of characters of a class. -/
def many (p : Char → Bool) : Step := fun s => some (s.dropWhile p)

/-- A piece that may be missing. -/
def perhaps (step : Step) : Step := fun s => some ((step s).getD s)

/-- Steps one after the other. -/
def steps : List Step → Step
  | [], s => some s
  | step :: rest, s => (step s).bind (steps rest)

def matchesAll (shape : List Step) (s : List Char) : Bool := steps shape s == some []

/-- A digit, or the underscore that may stand between digits. -/
def isDigitOrGap (c : Char) : Bool := c.isDigit || c == '_'

/-- A sign that may be missing. -/
def sign : Step := perhaps (one fun c => c == '-' || c == '+')

/-- A decimal digit and then digits and underscores. -/
def figures : Step := steps [one Char.isDigit, many isDigitOrGap]

/-- The same with a leading digit other than zero. -/
def leadingFigures : Step := steps [one fun c => c.isDigit && c != '0', many isDigitOrGap]

/-- One place of a number in sixties, with the colon before it. -/
def sixtieth : Step := fun s =>
  match s with
  | ':' :: a :: b :: rest =>
    if a.isDigit && b.isDigit then
      if a ≤ '5' then some rest else none
    else if a.isDigit then some (b :: rest) else none
  | [':', a] => if a.isDigit then some [] else none
  | _ => none

/-- At least one place in sixties; a text has no more places than characters. -/
def sixties : Step := fun s => steps (sixtieth :: List.replicate s.length (perhaps sixtieth)) s

/-- The exponent of a floating point number, whose sign has to be written. -/
def exponent : Step := steps
  [one fun c => c == 'e' || c == 'E', one fun c => c == '-' || c == '+', one Char.isDigit,
    many Char.isDigit]

/-- Integers: binary, octal, decimal, hexadecimal, and in sixties. -/
def isInteger (s : List Char) : Bool :=
  let isBinary := fun c => c == '0' || c == '1' || c == '_'
  let isOctal := fun c => ('0' ≤ c && c ≤ '7') || c == '_'
  let isHex := fun c =>
    c.isDigit || ('a' ≤ c && c ≤ 'f') || ('A' ≤ c && c ≤ 'F') || c == '_'
  matchesAll [sign, one (· == '0'), one (· == 'b'), one isBinary, many isBinary] s ||
    matchesAll [sign, one (· == '0'), one isOctal, many isOctal] s ||
    matchesAll [sign, one (· == '0')] s ||
    matchesAll [sign, leadingFigures] s ||
    matchesAll [sign, one (· == '0'), one (· == 'x'), one isHex, many isHex] s ||
    matchesAll [sign, leadingFigures, sixties] s

/-- Floating point numbers: with a point among the digits or before them, in sixties, and the
values without digits. -/
def isFloat (s : List Char) : Bool :=
  let point := one (· == '.')
  matchesAll [sign, figures, point, many isDigitOrGap, perhaps exponent] s ||
    matchesAll [point, figures, perhaps exponent] s ||
    matchesAll [sign, figures, sixties, point, many isDigitOrGap] s ||
    (match steps [sign, point] s with
      | some rest => ["inf", "Inf", "INF"].any (·.toList == rest)
      | none => false) ||
    [".nan", ".NaN", ".NAN"].any (·.toList == s)

/-- The blanks between the parts of a point in time. -/
def isSpace (c : Char) : Bool := c == ' ' || c == '\t'

/-- Dates, and points in time with their parts of the second and their zone. -/
def isTimestamp (s : List Char) : Bool :=
  let dash := one (· == '-')
  let colon := one (· == ':')
  let gap : Step := fun s =>
    (one (fun c => c == 'T' || c == 't') s).or (steps [one isSpace, many isSpace] s)
  let offset := steps
    [one fun c => c == '-' || c == '+', digits 1 2, perhaps (steps [colon, digits 2 2])]
  let zone := steps [many isSpace, fun s => (one (· == 'Z') s).or (offset s)]
  matchesAll [digits 4 4, dash, digits 2 2, dash, digits 2 2] s ||
    matchesAll
      [digits 4 4, dash, digits 1 2, dash, digits 1 2, gap, digits 1 2, colon, digits 2 2, colon,
        digits 2 2, perhaps (steps [one (· == '.'), many Char.isDigit]), perhaps zone] s

/-- The words of truth. -/
def truthWords : List String :=
  ["yes", "Yes", "YES", "no", "No", "NO", "true", "True", "TRUE", "false", "False", "FALSE",
    "on", "On", "ON", "off", "Off", "OFF"]

/-- The words for nothing; no text at all is one of them. -/
def nullWords : List String := ["", "~", "null", "Null", "NULL"]

/-- The meaning of a plain scalar. -/
def ofPlain (s : List Char) : Kind :=
  if truthWords.any (·.toList == s) then .truth
  else if nullWords.any (·.toList == s) then .null
  else if isFloat s then .float
  else if isInteger s then .integer
  else if isTimestamp s then .timestamp
  else if s == ['<', '<'] then .merge
  else if s == ['='] then .fallback
  else .text

end Kind

end TrialRun.Yaml
