/-!
# Paths

A path is the names on the way to a file.  Empty names and single dots lead nowhere and are left
out; double dots are kept, since where they lead depends on the files.
-/

set_option autoImplicit false

namespace TrialRun

/-- A path, from the root or from where one stands. -/
structure Path where
  rooted : Bool := false
  names : List String
  deriving DecidableEq, Repr

namespace Path

/-- The parts of a text between slashes. -/
def splitSlashes : List Char → List (List Char)
  | [] => [[]]
  | c :: rest =>
    if c = '/' then [] :: splitSlashes rest
    else
      match splitSlashes rest with
      | [] => [[c]]
      | first :: others => (c :: first) :: others

def ofText (s : String) : Path where
  rooted := s.toList.head? = some '/'
  names := ((splitSlashes s.toList).map String.ofList).filter fun n => n ≠ "" ∧ n ≠ "."

def text (p : Path) : String :=
  if p.rooted then "/" ++ "/".intercalate p.names
  else if p.names.isEmpty then "."
  else "/".intercalate p.names

/-- The second path as seen from the first one. -/
def join (p q : Path) : Path := if q.rooted then q else ⟨p.rooted, p.names ++ q.names⟩

/-- The path without its last name. -/
def parent (p : Path) : Path := ⟨p.rooted, p.names.dropLast⟩

end Path

end TrialRun
