/-!
# The shortest decimal that names a double

Many decimals round to the same double.  The text of a double is the one with the fewest digits, and
among those the one nearest to the double itself.

A positive double is `mantissa * 2 ^ exponent`.  The numbers that round to it form an interval whose
ends lie halfway to its two neighbours; the ends belong to it exactly when the mantissa is even.
All comparisons happen between natural numbers: the double and the ends are counted in quarters of
the mantissa's unit, a point of a decimal grid in grid steps, and both are brought to one
denominator.

For one digit, two digits, and so on, only the two grid points around the double need a look: if any
point of the grid lies in the interval, so does one of these.
-/

set_option autoImplicit false

namespace TrialRun.Decimal

/-- A positive binary number, `mantissa * 2 ^ exponent`. -/
structure Binary where
  mantissa : Nat
  exponent : Int

/-- A decimal number, `digits * 10 ^ exponent`. -/
structure Scaled where
  digits : Nat
  exponent : Int
  deriving DecidableEq, Repr

/-- A power of two. -/
def twos (n : Nat) : Nat := Nat.pow 2 n

/-- A power of ten. -/
def tens (n : Nat) : Nat := Nat.pow 10 n

namespace Binary

/-- The binary number with the bits of a finite positive double. -/
def ofBits (bits : UInt64) : Binary :=
  let fraction := bits.toNat % twos 52
  let stored := bits.toNat / twos 52 % twos 11
  if stored = 0 then ⟨fraction, -1074⟩ else ⟨fraction + twos 52, Int.ofNat stored - 1075⟩

/-- Whether `10 ^ power` is at most the number. -/
def reaches (b : Binary) (power : Int) : Bool :=
  tens power.toNat * twos (-b.exponent).toNat ≤
    b.mantissa * twos b.exponent.toNat * tens (-power).toNat

/-- The exponent of the leading decimal digit.  The logarithm's estimate is right or one too low. -/
def decade (b : Binary) : Int :=
  let estimate := ((b.mantissa.log2 + b.exponent) * 30103) / 100000
  if b.reaches (estimate + 1) then estimate + 1 else estimate

/-- The point of the grid of multiples of `10 ^ power` that stands for the number, if one does: it
rounds to the number, and no other such point is nearer.  A tie goes to the even point. -/
def onGrid? (b : Binary) (power : Int) : Option Nat :=
  let scale := b.exponent - 2
  let unit := twos scale.toNat * tens (-power).toNat
  let step := twos (-scale).toNat * tens power.toNat
  let middle := 4 * b.mantissa * unit
  let gap := if b.mantissa = twos 52 ∧ b.exponent ≠ -1074 then 1 else 2
  let low := (4 * b.mantissa - gap) * unit
  let high := (4 * b.mantissa + 2) * unit
  let inside := fun point =>
    if b.mantissa % 2 = 0 then low ≤ point * step && point * step ≤ high
    else low < point * step && point * step < high
  let below := middle / step
  let above := below + 1
  match inside below, inside above with
  | true, true =>
    let under := middle - below * step
    let beyond := above * step - middle
    if under < beyond || (under == beyond && below % 2 = 0) then some below else some above
  | true, false => some below
  | false, true => some above
  | false, false => none

end Binary

/-- Drops trailing zeros of the digits, at most `fuel` of them. -/
def Scaled.trim : Nat → Scaled → Scaled
  | 0, s => s
  | fuel + 1, s =>
    if s.digits ≠ 0 ∧ s.digits % 10 = 0 then trim fuel ⟨s.digits / 10, s.exponent + 1⟩ else s

/-- Tries grids of `count + 1`, `count + 2`, … digits, at most `fuel` of them. -/
def shortestFrom (b : Binary) : (fuel count : Nat) → Scaled
  | 0, _ => ⟨0, 0⟩
  | fuel + 1, count =>
    let power := b.decade - count
    match b.onGrid? power with
    | some digits => Scaled.trim 17 ⟨digits, power⟩
    | none => shortestFrom b fuel (count + 1)

/-- The decimal with the fewest digits that rounds to the double; seventeen always suffice. -/
def shortest (b : Binary) : Scaled := shortestFrom b 17 0

end TrialRun.Decimal
