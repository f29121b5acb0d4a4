import TrialRun.Json.Basic
import TrialRun.Text.Quoted

/-!
# Values in messages

How a value reads in a log record, an error or a file: `None`, `True` and `False`, numbers as
`Number.text` has them, lists between square brackets, objects between braces.  Texts are quoted
inside lists and objects (`Json.literal`), and stand as they are on their own (`Json.display`).
-/

set_option autoImplicit false

namespace TrialRun.Json

mutual

/-- The characters of a value as it reads inside another one. -/
def literalChars : Json → List Char
  | .null => "None".toList
  | .bool true => "True".toList
  | .bool false => "False".toList
  | .number n => n.text.toList
  | .text s => Text.quoted s.toList
  | .brokenText codes => Text.quotedCodePoints codes
  | .list items => '[' :: itemChars items ++ [']']
  | .object fields => '\x7b' :: fieldChars fields ++ ['\x7d']

def itemChars : List Json → List Char
  | [] => []
  | [v] => literalChars v
  | v :: rest => literalChars v ++ ", ".toList ++ itemChars rest

def fieldChars : List (String × Json) → List Char
  | [] => []
  | [(name, v)] => Text.quoted name.toList ++ ": ".toList ++ literalChars v
  | (name, v) :: rest =>
    Text.quoted name.toList ++ ": ".toList ++ literalChars v ++ ", ".toList ++ fieldChars rest

end

/-- A value as it reads inside another one. -/
def literal (v : Json) : String := String.ofList v.literalChars

/-- A value as it reads on its own. -/
def display : Json → String
  | .text s => s
  | .brokenText codes => String.ofList (Text.ofCodePoints codes)
  | v => v.literal

@[simp] theorem display_text (s : String) : display (.text s) = s := rfl

def kindName : Json → String
  | .null => "NoneType"
  | .bool _ => "bool"
  | .number (.int _) => "int"
  | .number (.double _) => "float"
  | .text _ | .brokenText _ => "str"
  | .list _ => "list"
  | .object _ => "dict"

end TrialRun.Json
