/-!
# Listings

What a directory holds: files and directories by their names, in ascending order, each name once.
Putting something in keeps the order (`Listing.set`), and what was put in is found
(`find?_set_self`) while all else stays as it was (`find?_set_of_ne`).
-/

set_option autoImplicit false

namespace TrialRun

/-- The files and directories in a directory, in ascending order of their names. -/
inductive Listing where
  | empty
  | file (name contents : String) (rest : Listing)
  | directory (name : String) (inside rest : Listing)
  deriving DecidableEq, Repr

/-- What is found at the end of a path. -/
inductive Entry where
  | directory (inside : Listing)
  | file (contents : String)
  deriving DecidableEq, Repr

namespace Listing

/-- The listing with one more entry at its head. -/
def cons (name : String) (entry : Entry) (rest : Listing) : Listing :=
  match entry with
  | .directory inside => .directory name inside rest
  | .file contents => .file name contents rest

def find? (name : String) : Listing → Option Entry
  | .empty => none
  | .file other contents rest => if name = other then some (.file contents) else rest.find? name
  | .directory other inside rest =>
    if name = other then some (.directory inside) else rest.find? name

/-- The listing with an entry of a name, in place of what had that name. -/
def set (name : String) (entry : Entry) : Listing → Listing
  | .empty => .cons name entry .empty
  | .file other contents rest =>
    if name < other then .cons name entry (.file other contents rest)
    else if name = other then .cons name entry rest
    else .file other contents (rest.set name entry)
  | .directory other inside rest =>
    if name < other then .cons name entry (.directory other inside rest)
    else if name = other then .cons name entry rest
    else .directory other inside (rest.set name entry)

/-- An entry at the head is found by its name, and others behind it. -/
@[simp] theorem find?_cons (wanted name : String) (entry : Entry) (rest : Listing) :
    (cons name entry rest).find? wanted =
      if wanted = name then some entry else rest.find? wanted := by
  cases entry <;> rfl

/-- What was put in is found. -/
theorem find?_set_self (name : String) (entry : Entry) (l : Listing) :
    (l.set name entry).find? name = some entry := by
  induction l with
  | empty => simp [set]
  | file other contents rest ih =>
    simp only [set]
    split
    · simp
    · split
      · simp
      · rename_i different
        simp [find?, different, ih]
  | directory other inside rest _ ih =>
    simp only [set]
    split
    · simp
    · split
      · simp
      · rename_i different
        simp [find?, different, ih]

/-- Putting an entry in leaves the others as they were. -/
theorem find?_set_of_ne {name wanted : String} (entry : Entry) (l : Listing)
    (h : wanted ≠ name) : (l.set name entry).find? wanted = l.find? wanted := by
  induction l with
  | empty => simp [set, h, find?]
  | file other contents rest ih =>
    simp only [set]
    split
    · simp [h]
    · split
      · rename_i same
        subst same
        simp [h, find?]
      · simp [find?, ih]
  | directory other inside rest _ ih =>
    simp only [set]
    split
    · simp [h]
    · split
      · rename_i same
        subst same
        simp [h, find?]
      · simp [find?, ih]

/-- All entries below a directory with the names on the way to them: each directory before what it
holds, and otherwise in ascending order. -/
def entries (here : List String) : Listing → List (List String × Entry)
  | .empty => []
  | .file name contents rest => (here ++ [name], .file contents) :: rest.entries here
  | .directory name inside rest =>
    (here ++ [name], .directory inside) :: inside.entries (here ++ [name]) ++ rest.entries here

end Listing

end TrialRun
