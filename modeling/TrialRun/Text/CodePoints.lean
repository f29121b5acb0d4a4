/-!
# Sets of code points

Unicode properties come as long sorted lists of ranges.  Here such a set is kept as the sorted list
of its *borders*: a code point belongs to the set when an odd number of borders lie at or below it.
A range from `a` to `b` contributes the borders `a` and `b + 1`, so the whole table is one flat list
of numbers and membership is one walk over it.
-/

set_option autoImplicit false

namespace TrialRun.Text

/-- Whether `c` lies inside the set with these borders, given whether the walk starts inside. -/
def withinFrom (c : Nat) : Bool → List Nat → Bool
  | inside, [] => inside
  | inside, border :: rest => if c < border then inside else withinFrom c (!inside) rest

/-- Whether the code point `c` belongs to the set with these borders. -/
def within (borders : List Nat) (c : Nat) : Bool := withinFrom c false borders

end TrialRun.Text
