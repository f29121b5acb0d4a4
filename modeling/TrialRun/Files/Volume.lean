import TrialRun.Fault
import TrialRun.Files.Listing
import TrialRun.Files.Path
import TrialRun.Text.Utf8

/-!
# Volumes

The files and directories that a trial can see.  An entry is found by the names on the way to it
from the root; a path leads there if every name before the last is that of a directory, where double
dots lead one directory up.  A path that is too long as a whole leads nowhere, whatever is there.
-/

set_option autoImplicit false

namespace TrialRun

/-- The files and directories of a volume. -/
structure Volume where
  root : Listing := .empty
  deriving DecidableEq, Repr

/-- A directory that a walk has reached: what it holds, and the directories above it, the nearest
first, each with the name by which it was left. -/
structure Spot where
  inside : Listing
  above : List (String × Listing) := []

namespace Spot

/-- The names on the way from the root. -/
def place (s : Spot) : List String := (s.above.map (·.1)).reverse

/-- The directory above; the root is above itself. -/
def up (s : Spot) : Spot :=
  match s.above with
  | [] => s
  | (_, listing) :: above => ⟨listing, above⟩

/-- A directory in this one. -/
def down (s : Spot) (name : String) (inside : Listing) : Spot :=
  ⟨inside, (name, s.inside) :: s.above⟩

end Spot

namespace Volume

/-- The entry behind some names, from a directory on. -/
def entryFrom? : Listing → List String → Option Entry
  | inside, [] => some (.directory inside)
  | inside, name :: rest =>
    match inside.find? name, rest with
    | entry, [] => entry
    | some (.directory below), rest => entryFrom? below rest
    | _, _ => none

/-- The entry at a place; the root is a directory. -/
def entry? (v : Volume) (place : List String) : Option Entry := entryFrom? v.root place

/-- The directory with another entry at a place below it.  Nothing is put where no directory
leads. -/
def putFrom (entry : Entry) : Listing → List String → Listing
  | inside, [] => inside
  | inside, name :: rest =>
    match inside.find? name, rest with
    | _, [] => inside.set name entry
    | some (.directory below), rest => inside.set name (.directory (putFrom entry below rest))
    | _, _ => inside

/-- The volume with another entry at a place. -/
def put (v : Volume) (place : List String) (entry : Entry) : Volume :=
  ⟨putFrom entry v.root place⟩

/-- All entries with their places: each directory before what it holds, and otherwise in ascending
order of the names on the way. -/
def entries (v : Volume) : List (List String × Entry) := v.root.entries []

/-- The most bytes a name may have. -/
def nameLimit : Nat := 255

/-- The most bytes a path may have. -/
def pathLimit : Nat := 4095

/-- The directory that some names lead to, from a directory on. -/
def walk : Spot → List String → Except DiskError Spot
  | here, [] => .ok here
  | here, ".." :: rest => walk here.up rest
  | here, name :: rest =>
    if nameLimit < Text.Utf8.size name then .error .nameTooLong
    else
      match here.inside.find? name with
      | some (.directory inside) => walk (here.down name inside) rest
      | some (.file _) => .error .notDirectory
      | none => .error .notThere

/-- Where the last name of a path would be, and what is there now.  Nothing can be said of a path
without names or with double dots at its end, but that it is a directory. -/
def target (v : Volume) (p : Path) : Except DiskError (List String × Option Entry) := do
  if pathLimit < Text.Utf8.size p.text then .error .nameTooLong
  else
    let here ← walk ⟨v.root, []⟩ p.names.dropLast
    match p.names.getLast? with
    | none => pure (here.place, some (.directory here.inside))
    | some ".." => pure (here.up.place, some (.directory here.up.inside))
    | some name =>
      if nameLimit < Text.Utf8.size name then .error .nameTooLong
      else pure (here.place ++ [name], here.inside.find? name)

def isDirectory (v : Volume) (p : Path) : Bool :=
  match v.target p with
  | .ok (_, some (.directory _)) => true
  | _ => false

def makeDirectory (v : Volume) (p : Path) : Except DiskError Volume := do
  match ← v.target p with
  | (_, some _) => .error .alreadyThere
  | (place, none) => pure (v.put place (.directory .empty))

/-- The volume with a text in a file, in place of what the file held. -/
def writeFile (v : Volume) (p : Path) (contents : String) : Except DiskError Volume := do
  match ← v.target p with
  | (_, some (.directory _)) => .error .isDirectory
  | (place, _) => pure (v.put place (.file contents))

end Volume

end TrialRun
