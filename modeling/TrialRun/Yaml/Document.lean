import TrialRun.Yaml.Scalar

/-!
# Documents of YAML

A document is a mapping whose values are lists of texts or mappings from texts to texts, written in
block style, with the entries in their given order.
-/

set_option autoImplicit false

namespace TrialRun.Yaml

/-- A value of a document. -/
inductive Block where
  | list (items : List String)
  | map (entries : List (String × String))
  deriving DecidableEq, Repr

abbrev Document := List (String × Block)

/-- A name before its colon.  Names are written on one line. -/
def key (indent : Nat) (name : String) : List Char :=
  List.replicate indent ' ' ++ (scalar 0 0 name.toList).drop 1 ++ [':']

/-- An item of a list.  Lists are not indented inside a mapping. -/
def listItem (item : String) : List Char := '-' :: scalar 2 1 item.toList ++ ['\n']

/-- An entry of an inner mapping. -/
def mapEntry (entry : String × String) : List Char :=
  let head := key 2 entry.1
  head ++ scalar 4 head.length entry.2.toList ++ ['\n']

/-- A block behind its name. -/
def block : Block → List Char
  | .list [] => " []\n".toList
  | .map [] => " \x7b\x7d\n".toList
  | .list items => '\n' :: items.flatMap listItem
  | .map entries => '\n' :: entries.flatMap mapEntry

def Document.write (d : Document) : String :=
  String.ofList (d.flatMap fun b => key 0 b.1 ++ block b.2)

end TrialRun.Yaml
