import TrialRun.Text.Quoted

/-!
# Halves of surrogate pairs

Some formats escape a character above U+FFFF as two codes, a high half and a low one.  Two halves in
this order make one character (`joinHalves`).  A half without its partner stands for no character:
it can be kept as a code, shown by an escape or replaced, but it has no bytes in UTF-8.
-/

set_option autoImplicit false

namespace TrialRun.Text

/-- The first half of a pair. -/
def isHighHalf (code : Nat) : Bool := 0xd800 ≤ code && code < 0xdc00

/-- The second half of a pair. -/
def isLowHalf (code : Nat) : Bool := 0xdc00 ≤ code && code < 0xe000

def isHalf (code : Nat) : Bool := isHighHalf code || isLowHalf code

/-- The code points that some codes stand for: a high half and a low one behind it make one. -/
def joinHalves : List Nat → List Nat
  | [] => []
  | [code] => [code]
  | high :: low :: rest =>
    if isHighHalf high && isLowHalf low then
      (0x10000 + (high - 0xd800) * 0x400 + (low - 0xdc00)) :: joinHalves rest
    else high :: joinHalves (low :: rest)

/-- The text of some code points; halves are replaced. -/
def ofCodePoints (codes : List Nat) : List Char :=
  codes.map fun code => if isHalf code then '\ufffd' else Char.ofNat code

/-- The first run of halves and where it begins, if the codes start at a position. -/
def halvesFrom (position : Nat) : List Nat → Option (Nat × List Nat)
  | [] => none
  | code :: rest =>
    if isHalf code then some (position, code :: rest.takeWhile isHalf)
    else halvesFrom (position + 1) rest

/-- The code points between quotes; halves are escaped, all else is as in any other text. -/
def quotedCodePoints (codes : List Nat) : List Char :=
  let quote := quoteFor (ofCodePoints codes)
  let shown := fun code =>
    if isHalf code then '\\' :: 'u' :: hexDigits 4 code else quotedChar quote (Char.ofNat code)
  quote :: codes.flatMap shown ++ [quote]

/-- Why some code points have no bytes: the first halves among them, and where they are. -/
def encodingObjection (codes : List Nat) : String :=
  match halvesFrom 0 codes with
  | none => ""
  | some (position, halves) =>
    let which := match halves with
      | [half] =>
        s!"character '\\u{String.ofList (hexDigits 4 half)}' in position {position}"
      | _ => s!"characters in position {position}-{position + halves.length - 1}"
    s!"'utf-8' codec can't encode {which}: surrogates not allowed"

end TrialRun.Text
