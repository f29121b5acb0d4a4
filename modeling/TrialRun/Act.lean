import TrialRun.World

/-!
# Acts

An act is something done in a world at a site: it ends with a value or a fault, and leaves a world
behind either way.  What was done before a fault is not undone.

The acts of this module are the only ones that touch the outside, the clock, the files and the
record; all others are made from them.  `Act.attempt` is the one way to go on after a fault.
-/

set_option autoImplicit false

namespace TrialRun

/-- Something done in a world, with its value or its fault. -/
def Act (τ σ α : Type) : Type := Site τ σ → World τ σ → Except Fault α × World τ σ

namespace Act

variable {τ σ α β : Type}

/-- What an act does at a site in a world. -/
def run (a : Act τ σ α) (site : Site τ σ) (w : World τ σ) : Except Fault α × World τ σ := a site w

@[inline] instance : Monad (Act τ σ) where
  pure v := fun _ w => (.ok v, w)
  bind a next := fun site w =>
    match a site w with
    | (.ok v, w) => next v site w
    | (.error f, w) => (.error f, w)

def fail (f : Fault) : Act τ σ α := fun _ w => (.error f, w)

/-- Goes on after a fault as after a value. -/
def attempt (a : Act τ σ α) : Act τ σ (Except Fault α) := fun site w =>
  match a site w with
  | (result, w) => (.ok result, w)

/-- Ends as a computation has ended. -/
def ofExcept : Except Fault α → Act τ σ α
  | .ok v => pure v
  | .error f => fail f

instance : MonadLift (Except Fault) (Act τ σ) where
  monadLift := ofExcept

/-- What is known of the site. -/
def site : Act τ σ (Site τ σ) := fun site w => (.ok site, w)

/-- The world as it is now. -/
def world : Act τ σ (World τ σ) := fun _ w => (.ok w, w)

/-- Changes the world. -/
def change (f : World τ σ → World τ σ) : Act τ σ Unit := fun _ w => (.ok (), f w)

/-- What the trial keeps in mind. -/
def trial : Act τ σ (Trial τ) := fun _ w => (.ok w.trial, w)

/-- Changes what the trial keeps in mind. -/
def note (f : Trial τ → Trial τ) : Act τ σ Unit := change fun w => { w with trial := f w.trial }

/-- Records that something happened. -/
def record (e : Event τ) : Act τ σ Unit := change fun w => { w with record := e :: w.record }

def log (level : Level) (text : String) : Act τ σ Unit := record (.log level text)

/-- Deals with an ordinary fault; others pass through. -/
def rescue (a : Act τ σ α) (handle : Fault → Act τ σ α) : Act τ σ α := do
  match ← a.attempt with
  | .ok v => pure v
  | .error f => if f.isOrdinary then handle f else fail f

/-- Does an act for each item, from the first to the last. -/
def forEach (act : β → Act τ σ Unit) : List β → Act τ σ Unit
  | [] => pure ()
  | item :: rest => do
    act item
    forEach act rest

/-! ## Time -/

variable [Timescale τ]

def pass (span : τ) : Act τ σ Unit := change fun w => { w with clock := Timescale.add w.clock span }

/-- Lets time pass, if a clock can tell it. -/
def spend (span : τ) : Act τ σ Unit :=
  if Timescale.fits span then pass span else fail .overflow

/-- Sleeps; there is no sleeping for less than no time. -/
def sleep (span : τ) : Act τ σ Unit := do
  record (.slept span)
  if Timescale.lt span (Timescale.seconds 0) then
    fail (.plain .badValue "sleep length must be non-negative")
  else spend span

/-! ## The API server and the dashboard -/

/-- How long the answer to a call is waited for, in seconds. -/
def patience : Nat := 120

/-- Calls the API server and waits for its answer. -/
def call {f : Cluster.Form} (c : Cluster.Call f) : Act τ σ f.Carrier := do
  let (answer, outside) := (← site).answer c (← world).outside
  change fun w => { w with outside := outside }
  record (.called c answer.outcome)
  pass answer.cost
  match answer.outcome with
  | .refused fault => fail fault
  | .late fault =>
    record (.awaited patience)
    fail fault
  | .served v =>
    record (.awaited patience)
    pure v

def request (r : Dashboard.Request) : Act τ σ Exchange := do
  let (reaction, outside) := (← site).react r (← world).outside
  change fun w => { w with outside := outside }
  record (.requested r reaction.exchange)
  pass reaction.cost
  pure reaction.exchange

/-! ## Files -/

/-- Does something to the files, unless the disk has a fault. -/
def disk (action : DiskAction) (act : Act τ σ α) : Act τ σ α := do
  let (obstacle, outside) := (← site).obstacle action (← world).outside
  change fun w => { w with outside := outside }
  match obstacle with
  | some fault => fail fault
  | none => act

/-- What a change of the files objects to, with the path it objects to. -/
def settle (p : Path) (change? : Volume → Except DiskError Volume) : Act τ σ Unit := do
  if p.names.any (·.toList.contains '\x00') then
    fail (.plain .badValue "embedded null byte")
  else
    match change? (← world).volume with
    | .ok volume => change fun w => { w with volume := volume }
    | .error e => fail (.disk e p.text)

/-- Makes a directory in a directory that is there. -/
def makeOneDirectory (p : Path) : Act τ σ Unit :=
  disk (.makeDirectory p) (settle p (·.makeDirectory p))

/-- Deals with a fault in making a directory: nothing is wrong if it was there already. -/
def unlessDirectory (p : Path) (f : Fault) : Act τ σ Unit := do
  if f.kind.isSystem && (← world).volume.isDirectory p then pure () else fail f

/-- How many directories may be missing on the way to one. -/
def missingLimit : Nat := 987

/-- Makes a directory, and those above it that are missing, up to some number.  The names of the
path are given from the last one on. -/
def makeDirectories (rooted : Bool) : (levels : Nat) → List String → Act τ σ Unit
  | _, [] => pure ()
  | 0, _ :: _ =>
    fail (.plain .tooDeep "maximum recursion depth exceeded while calling a Python object")
  | levels + 1, name :: above => do
    let p : Path := ⟨rooted, (name :: above).reverse⟩
    match ← (makeOneDirectory p).attempt with
    | .ok () => pure ()
    | .error f =>
      if f.kind.isNotThere then
        makeDirectories rooted levels above
        match ← (makeOneDirectory p).attempt with
        | .ok () => pure ()
        | .error f => if f.kind.isNotThere then fail f else unlessDirectory p f
      else unlessDirectory p f

/-- Makes a directory, and those above it that are missing; it may be there already. -/
def makeDirectory (p : Path) : Act τ σ Unit :=
  makeDirectories p.rooted missingLimit p.names.reverse

def writeFile (p : Path) (contents : String) : Act τ σ Unit := do
  disk (.writeFile p contents) (settle p (·.writeFile p contents))
  record (.wrote p contents)

def makeTemporary (beginning : String) : Act τ σ Path := do
  let p := (← site).temporary beginning
  disk (.makeTemporary beginning) (change fun w =>
    { w with volume := (w.volume.makeDirectory p).toOption.getD w.volume })
  pure p

end Act

end TrialRun
