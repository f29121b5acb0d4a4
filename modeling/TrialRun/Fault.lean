import TrialRun.Json.Literal

/-!
# Faults

What ends an activity early.  A fault has a kind, a text, and a chain of causes: the fault it was
made from, what that one was made from, and so on.  Only a cause counts as such; a fault that merely
was being dealt with when another one arose is remembered apart (`Fault.setting`) and is never
followed.

Most faults are *ordinary*: cleaning up, polling and the operations on the cluster deal with
them.  An interrupt and an exit request are not; they pass through everything.
-/

set_option autoImplicit false

namespace TrialRun

/-- What the file system objects to. -/
inductive DiskError where
  | isDirectory
  | alreadyThere
  | notDirectory
  | notThere
  | nameTooLong
  deriving DecidableEq, Repr

/-- The kinds of faults. -/
inductive FaultKind where
  /-- No kind of its own. -/
  | general
  | failure
  | badValue
  | missingKey
  | noAttribute
  | badType
  | badIndex
  /-- An expectation of a scenario that does not hold. -/
  | assertion
  | timedOut
  /-- The answer to a call did not arrive in time. -/
  | awaitTimedOut
  /-- The API server refused a call. -/
  | refused (status : Json)
  | httpStatus (code : Int)
  | connection
  | unreachable
  /-- The operating system failed; the file system's objections are told apart. -/
  | system (error : Option DiskError)
  | badEncoding
  | badJson
  /-- A text that no bytes stand for. -/
  | notEncodable
  | overflow
  | tooDeep
  | interrupt
  | exit
  deriving Inhabited

namespace FaultKind

/-- Whether faults of this kind can be dealt with. -/
def isOrdinary : FaultKind → Bool
  | .interrupt | .exit => false
  | _ => true

/-- Whether the API server has said that there is no such object. -/
def isNotFound : FaultKind → Bool
  | .refused status => status.agrees (.int 404)
  | _ => false

/-- Whether the fault comes from the operating system, which connections are part of. -/
def isSystem : FaultKind → Bool
  | .system _ | .connection | .unreachable | .timedOut | .httpStatus _ => true
  | _ => false

/-- Whether a failed operation of this trial says so, rather than anything else. -/
def isFailure : FaultKind → Bool
  | .failure => true
  | _ => false

/-- Whether time ran out, rather than that an answer was not awaited any longer. -/
def isTimeout : FaultKind → Bool
  | .timedOut => true
  | _ => false

/-- Whether the file system misses what leads to a file. -/
def isNotThere : FaultKind → Bool
  | .system (some .notThere) => true
  | _ => false

end FaultKind

/-- A fault on its own, without what it came from. -/
structure Link where
  kind : FaultKind
  text : String
  deriving Inhabited

/-- A fault with the chain of its causes, nearest first. -/
structure Fault extends Link where
  causes : List Link := []
  /-- Faults that were being dealt with when a link of the chain arose, but did not cause it. -/
  setting : List Link := []
  deriving Inhabited

namespace Fault

/-- The fault and its causes, itself first. -/
def chain (f : Fault) : List Link := f.toLink :: f.causes

/-- Whether the fault can be dealt with. -/
def isOrdinary (f : Fault) : Bool := f.kind.isOrdinary

/-- Whether the fault, or one that caused it, is the API server's answer that there is no such
object. -/
def isNotFound (f : Fault) : Bool := f.chain.any (fun l => l.kind.isNotFound)

/-- A fault without a cause. -/
def plain (kind : FaultKind) (text : String) : Fault := ⟨⟨kind, text⟩, [], []⟩

/-- A fault made from another one, which becomes its cause. -/
def leadsTo (cause : Fault) (kind : FaultKind) (text : String) : Fault :=
  ⟨⟨kind, text⟩, cause.chain, cause.setting⟩

/-- What a fault leads to comes first in the chain, then the fault itself with its causes. -/
@[simp] theorem chain_leadsTo (cause : Fault) (kind : FaultKind) (text : String) :
    (cause.leadsTo kind text).chain = ⟨kind, text⟩ :: cause.chain := rfl

/-! ## Faults by their wording -/

def missingKey (key : Json) : Fault := plain .missingKey key.literal

def noAttribute (v : Json) (part : String) : Fault :=
  plain .noAttribute s!"'{v.kindName}' object has no attribute '{part}'"

/-- A value that has no parts to be asked for by position or by name. -/
def notSubscriptable (v : Json) : Fault :=
  plain .badType s!"'{v.kindName}' object is not subscriptable"

def outOfRange (what : String) : Fault := plain .badIndex s!"{what} index out of range"

/-- An integer that no double is next to, where one is needed. -/
def overflow : Fault := plain .overflow "int too large to convert to float"

def timedOut (text : String) : Fault := plain .timedOut text

/-- The file system's objection to a path. -/
def disk (error : DiskError) (path : String) : Fault :=
  let told : Nat × String := match error with
    | .notThere => (2, "No such file or directory")
    | .alreadyThere => (17, "File exists")
    | .notDirectory => (20, "Not a directory")
    | .isDirectory => (21, "Is a directory")
    | .nameTooLong => (36, "File name too long")
  plain (.system (some error))
    s!"[Errno {told.1}] {told.2}: {Json.literal (.text path)}"

end Fault

end TrialRun
