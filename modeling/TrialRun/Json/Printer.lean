import TrialRun.Json.Basic
import TrialRun.Text.Quoted

/-!
# Writing JSON

The text of a value as one line of JSON.  Characters above U+007F stand as they are; of the others,
quotes, backslashes and controls are escaped.
-/

set_option autoImplicit false

namespace TrialRun.Json

/-- Doubles are laid out as everywhere; the values without digits have the names the reader
knows. -/
def layout : Decimal.Layout :=
  { Number.layout with infinity := "Infinity", notANumber := "NaN" }

/-- A character inside a text. -/
def writtenChar (c : Char) : List Char :=
  if c = '"' ∨ c = '\\' then ['\\', c]
  else if c.toNat < 32 ∨ c.toNat = 127 then '\\' :: 'u' :: Text.hexDigits 4 c.toNat
  else [c]

/-- A text between quotes, written behind what is there already. -/
def writeText (written : String) (s : String) : String :=
  (s.toList.foldl (fun w c => (writtenChar c).foldl String.push w) (written.push '"')).push '"'

/-- The code points of a text between quotes, written behind what is there already. -/
def writeCodePoints (written : String) (codes : List Nat) : String :=
  let shown := fun code =>
    if Text.isHalf code then '\\' :: 'u' :: Text.hexDigits 4 code else writtenChar (Char.ofNat code)
  (codes.foldl (fun w code => (shown code).foldl String.push w) (written.push '"')).push '"'

mutual

/-- A value, written behind what is there already. -/
def write (written : String) : Json → String
  | .null => written ++ "null"
  | .bool true => written ++ "true"
  | .bool false => written ++ "false"
  | .number (.int n) => written ++ Number.intText n
  | .number (.double x) => written ++ layout.write x
  | .text s => writeText written s
  | .brokenText codes => writeCodePoints written codes
  | .list items => (writeItems (written.push '[') items).push ']'
  | .object fields => (writeFields (written.push '\x7b') fields).push '\x7d'

def writeItems (written : String) : List Json → String
  | [] => written
  | [v] => write written v
  | v :: rest => writeItems ((write written v).push ',') rest

def writeFields (written : String) : List (String × Json) → String
  | [] => written
  | [(name, v)] => write ((writeText written name).push ':') v
  | (name, v) :: rest =>
    writeFields ((write ((writeText written name).push ':') v).push ',') rest

end

/-- The value as one line of JSON. -/
def print (v : Json) : String := write "" v

end TrialRun.Json
