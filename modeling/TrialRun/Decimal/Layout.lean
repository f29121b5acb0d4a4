import TrialRun.Decimal.Shortest

/-!
# Layouts of doubles

The digits of a double are settled by `Decimal.shortest`; a `Layout` settles the rest: how far the
point is written positionally, what the exponent looks like, and the names of the values that have
no digits.
-/

set_option autoImplicit false

namespace TrialRun.Decimal

/-- How a double is laid out, given its digits. -/
structure Layout where
  /-- The least exponent of the leading digit that is written positionally. -/
  positionalFrom : Int
  /-- The exponents of the leading digit from here on are not written positionally. -/
  positionalBelow : Int
  /-- What is written behind a whole number in positional form. -/
  wholeMark : String
  /-- What separates the digits from the exponent. -/
  exponentMark : String
  /-- The least number of digits of the exponent, whose sign is always written. -/
  exponentDigits : Nat
  infinity : String
  notANumber : String

namespace Layout

/-- The digits of a natural number. -/
def digitsOf (n : Nat) : List Char := Nat.toDigits 10 n

/-- The digits with the point among, behind or before them: the leading digit stands for
`10 ^ lead`. -/
def positional (l : Layout) (digits : List Char) (lead : Int) : List Char :=
  if lead < 0 then
    '0' :: '.' :: (List.replicate (-lead - 1).toNat '0' ++ digits)
  else
    let whole := lead.toNat + 1
    if digits.length ≤ whole then
      digits ++ List.replicate (whole - digits.length) '0' ++ l.wholeMark.toList
    else
      digits.take whole ++ '.' :: digits.drop whole

/-- The digits with the point behind the first one, and the exponent. -/
def scientific (l : Layout) (digits : List Char) (lead : Int) : List Char :=
  let fraction := digits.drop 1
  let size := digitsOf lead.natAbs
  digits.take 1 ++ (if fraction.isEmpty then [] else '.' :: fraction) ++ l.exponentMark.toList ++
    (if lead < 0 then '-' else '+') :: (List.replicate (l.exponentDigits - size.length) '0' ++ size)

/-- The text of a decimal that is not zero. -/
def scaled (l : Layout) (s : Scaled) : List Char :=
  let digits := digitsOf s.digits
  let lead := s.exponent + digits.length - 1
  if l.positionalFrom ≤ lead ∧ lead < l.positionalBelow then l.positional digits lead
  else l.scientific digits lead

def write (l : Layout) (x : Float) : String :=
  if x.isNaN then l.notANumber
  else
    let bits := x.toBits
    let negative := twos 63 ≤ bits.toNat
    let magnitude := UInt64.ofNat (bits.toNat % twos 63)
    let sign := if negative then "-" else ""
    if x.isInf then sign ++ l.infinity
    else if magnitude = 0 then sign ++ "0" ++ l.wholeMark
    else sign ++ String.ofList (l.scaled (shortest (Binary.ofBits magnitude)))

end Layout

end TrialRun.Decimal
