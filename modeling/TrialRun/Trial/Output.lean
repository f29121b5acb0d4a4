import TrialRun.Act
import TrialRun.Text.Word

/-!
# The output of a trial

A trial writes into a directory of its own, named after the trial, below the directory of the
settings or below a fresh one.  The directory is made when it is first asked for; which one it is is
noted before it is made.
-/

set_option autoImplicit false

namespace TrialRun.Trial

variable {τ σ : Type}

/-- A character that a name of a directory keeps. -/
def isNameChar (c : Char) : Bool := Text.isWord c || c == '.' || c == '-'

/-- The name of a trial as the name of its directory: what stands between the characters that are
kept becomes one underscore. -/
def directoryName : List Char → List Char
  | [] => []
  | c :: rest =>
    if isNameChar c then c :: directoryName rest
    else
      match rest with
      | [] => ['_']
      | next :: _ => if isNameChar next then '_' :: directoryName rest else directoryName rest

/-- The directory that the trial's own directory is made in. -/
def outputBase : Act τ σ Path := do
  match (← Act.site).settings.outputDir with
  | some base =>
    if base ≠ "" then pure (Path.ofText base) else Act.makeTemporary "codeflare-e2e-"
  | none => Act.makeTemporary "codeflare-e2e-"

/-- The directory that the trial writes into. -/
def outputPath : Act τ σ Path := do
  match (← Act.trial).outputDirectory with
  | some p => pure p
  | none =>
    let base ← outputBase
    let name := String.ofList (directoryName (← Act.trial).name.toList)
    let p := base.join (Path.ofText name)
    Act.note fun t => { t with outputDirectory := some p }
    Act.makeDirectory p
    Act.log .info s!"Output directory: {p.text}"
    pure p

/-- Writes a text into a file of the trial's directory, and makes the directories on the way.  A
text that has no bytes leaves the file empty. -/
def writeOutput (fileName : String) (contents : Json) : Act τ σ Path := do
  let p := (← outputPath).join (Path.ofText fileName)
  Act.makeDirectory p.parent
  match contents with
  | .text s =>
    Act.writeFile p s
    pure p
  | .brokenText codes =>
    Act.writeFile p ""
    Act.fail (.plain .notEncodable (Text.encodingObjection codes))
  | v => Act.fail (.plain .badType s!"data must be str, not {v.kindName}")

/-- The same for a file that is named by a value.  Only a text can name one, but the directory is
made before that is seen. -/
def writeNamed (fileName contents : Json) : Act τ σ Path := do
  match fileName with
  | .text s => writeOutput s contents
  | v =>
    let _ ← outputPath
    Act.fail (.plain .badType
      s!"unsupported operand type(s) for /: 'PosixPath' and '{v.kindName}'")

end TrialRun.Trial
