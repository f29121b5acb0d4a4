import TrialRun.Number

/-!
# Scales of time

Clock readings and spans of time are values of one type.  A trial measures them in numbers, where
sums are rounded as doubles are; what holds of waiting in exact time is said of rational numbers.
-/

set_option autoImplicit false

namespace TrialRun

/-- A type whose values are clock readings and spans of time. -/
class Timescale (τ : Type) where
  /-- A whole number of seconds. -/
  seconds : Nat → τ
  add : τ → τ → τ
  sub : τ → τ → τ
  lt : τ → τ → Bool
  le : τ → τ → Bool
  /-- Whether a clock can be moved by a span at all. -/
  fits : τ → Bool
  text : τ → String
  /-- How often a condition is looked at, at most, within a span and with an interval between two
  looks. -/
  looks : (span interval : τ) → Nat

namespace Timescale

/-- The quotient rounded up, and at least zero; nothing fits between looks without an interval. -/
def intervals (span interval : Rat) : Nat :=
  if 0 < interval then (span / interval).ceil.toNat else 0

/-- More looks than any wait that ends takes: it is the time that ends a wait. -/
def spareLooks : Nat := 1000000000000000000

/-- Exact time, where any span moves any clock.  The intervals that fit into a span are no bound by
themselves, since a clock may also be set back. -/
instance exact : Timescale Rat where
  seconds n := n
  add := (· + ·)
  sub := (· - ·)
  lt a b := a < b
  le a b := a ≤ b
  fits _ := true
  text r := s!"{r.num}/{r.den}"
  looks span interval := intervals span interval + spareLooks

/-- Measured time.  A clock that is a double is not moved by integers beyond all doubles, and stands
still where a span is less than half the distance to the next double; so no number of intervals
bounds the looks. -/
instance measured : Timescale Number where
  seconds n := .int n
  add := Number.add
  sub := Number.sub
  lt := Number.lt
  le := Number.le
  fits := Number.hasDouble
  text := Number.text
  looks _ _ := spareLooks

end Timescale

end TrialRun
