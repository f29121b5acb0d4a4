import TrialRun.Decimal.Layout

/-!
# Numbers

A number is an integer of any size or a double, and stays what it is: `5` and `5.0` are equal but
are written differently.  Comparisons are exact, also between the two kinds; a sum with a double is
a double.
-/

set_option autoImplicit false

namespace TrialRun

/-- An integer of any size, or a double. -/
inductive Number where
  | int (n : Int)
  | double (x : Float)
  deriving DecidableEq, Repr

namespace Number

/-- Integers are written in decimal; doubles positionally while the leading digit's exponent is at
least -4 and below 16, and otherwise with a signed exponent of at least two digits. -/
def layout : Decimal.Layout where
  positionalFrom := -4
  positionalBelow := 16
  wholeMark := ".0"
  exponentMark := "e"
  exponentDigits := 2
  infinity := "inf"
  notANumber := "nan"

def intText (n : Int) : String :=
  String.ofList ((if n < 0 then ['-'] else []) ++ Decimal.Layout.digitsOf n.natAbs)

def text : Number → String
  | int n => intText n
  | double x => layout.write x

/-- The double nearest to an integer. -/
def ofIntRounded (n : Int) : Float := Float.ofInt n

def toDouble : Number → Float
  | int n => ofIntRounded n
  | double x => x

/-- A finite number as an exact quotient; `none` for infinities and for the value that is no
number. -/
def worth? : Number → Option Rat
  | int n => some n
  | double x =>
    if x.isNaN || x.isInf then none
    else
      let bits := x.toBits
      let b := Decimal.Binary.ofBits (UInt64.ofNat (bits.toNat % Decimal.twos 63))
      let whole : Int := b.mantissa * Decimal.twos b.exponent.toNat
      let size := mkRat whole (Decimal.twos (-b.exponent).toNat)
      some (if Decimal.twos 63 ≤ bits.toNat then -size else size)

/-- Whether the first number is less than the second, exactly. -/
def lt : Number → Number → Bool
  | int a, int b => a < b
  | double a, double b => a < b
  | a, b =>
    match a.worth?, b.worth? with
    | some x, some y => x < y
    | none, some _ => a.toDouble < 0
    | some _, none => 0 < b.toDouble
    | none, none => false

/-- Whether a number has a double next to it: an integer beyond the largest double has none. -/
def hasDouble : Number → Bool
  | int n => !(ofIntRounded n).isInf
  | double _ => true

def same : Number → Number → Bool
  | int a, int b => a == b
  | double a, double b => a == b
  | a, b =>
    match a.worth?, b.worth? with
    | some x, some y => x == y
    | _, _ => false

/-- Whether the first number is at most the second, exactly. -/
def le (a b : Number) : Bool := a.lt b || a.same b

/-- The sum; a double as soon as one of the two is one. -/
def add : Number → Number → Number
  | int a, int b => int (a + b)
  | a, b => double (a.toDouble + b.toDouble)

/-- The difference; a double as soon as one of the two is one. -/
def sub : Number → Number → Number
  | int a, int b => int (a - b)
  | a, b => double (a.toDouble - b.toDouble)

def isZero : Number → Bool
  | int n => n == 0
  | double x => x == 0

instance (n : Nat) : OfNat Number n where ofNat := .int n

end Number

end TrialRun
