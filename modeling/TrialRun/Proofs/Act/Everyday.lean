import TrialRun.Proofs.Act.Ensures

/-!
# What acts may change

An act *moves along* a relation between worlds (`Act.Moves`) if, at every site and however it ends,
the world that it leaves is related to the one it began in.  For a relation that can be chained, all
ways of putting acts together move along it if their parts do.

Most of what a trial does is everyday business: time passes, something is logged, a file is written,
a directory is noted.  A relation that allows all of this is `Everyday`; one that allows it except
for the record of what is written is `Filing`, and one that allows only what leaves the files alone
is `Calm`.  What is left to say of an act is then which calls and which requests it makes, and
whether it notes that the trial has failed.
-/

set_option autoImplicit false

namespace TrialRun

variable {τ σ α β : Type}

/-- What happens in passing: log records, sleeps, awaited answers, fetches and written files. -/
def Event.IsEveryday : Event τ → Prop
  | .log _ _ | .slept _ | .fetched | .awaited _ | .wrote _ _ => True
  | .marked _ | .called _ _ | .requested _ _ => False

/-- What happens in passing and leaves the files alone. -/
def Event.IsPassing : Event τ → Prop
  | .log _ _ | .slept _ | .fetched | .awaited _ => True
  | .wrote _ _ | .marked _ | .called _ _ | .requested _ _ => False

/-- What leaves the files alone is everyday business too. -/
theorem Event.IsPassing.isEveryday {e : Event τ} (h : e.IsPassing) : e.IsEveryday := by
  cases e <;> first | exact h.elim | exact trivial

/-- The files have changed in a way that a trial can change them: a directory was made, or a text
was written. -/
def Volume.Becomes (v v' : Volume) : Prop :=
  (∃ p, v.makeDirectory p = .ok v') ∨ ∃ p contents, v.writeFile p contents = .ok v'

/-- A relation between worlds that can be chained and allows what happens in passing. -/
structure Calm (R : World τ σ → World τ σ → Prop) : Prop where
  refl : ∀ w, R w w
  trans : ∀ {u v w}, R u v → R v w → R u w
  clock : ∀ w t, R w { w with clock := t }
  outside : ∀ w s, R w { w with outside := s }
  passing : ∀ w e, e.IsPassing → R w (w.recorded e)

/-- A relation between worlds that also allows the files to change.  The directory of a trial is
noted once. -/
structure Filing (R : World τ σ → World τ σ → Prop) : Prop extends Calm R where
  volume : ∀ w v, w.volume.Becomes v → R w { w with volume := v }
  directory : ∀ w p, w.trial.outputDirectory = none →
    R w (w.noted fun t => { t with outputDirectory := some p })

/-- A relation between worlds that can be chained and allows all everyday business. -/
structure Everyday (R : World τ σ → World τ σ → Prop) : Prop extends Filing R where
  wrote : ∀ w p contents, R w (w.recorded (.wrote p contents))

/-- A relation allows an event if its record keeps worlds related. -/
def Allows (R : World τ σ → World τ σ → Prop) (e : Event τ) : Prop := ∀ w, R w (w.recorded e)

namespace Act

/-- The act leads along the relation, whatever the site and however it ends. -/
def Moves (R : World τ σ → World τ σ → Prop) (a : Act τ σ α) : Prop :=
  ∀ site w, R w (a.run site w).2

/-- What is kept along a relation is kept by acts that move along it. -/
theorem Moves.ensures {R : World τ σ → World τ σ → Prop} {a : Act τ σ α} (h : a.Moves R)
    {site : Site τ σ} {P Q : World τ σ → Prop} (kept : ∀ w w', P w → R w w' → Q w') :
    Ensures site P a (fun _ => Q) (fun _ => Q) := by
  refine ⟨fun w hw => ?_⟩
  have reached := kept w _ hw (h site w)
  rcases ended : a.run site w with ⟨_ | v, w'⟩ <;> rw [ended] at reached <;> exact reached

end Act

namespace Calm

variable {R : World τ σ → World τ σ → Prop} (h : Calm R)

include h

/-! ## Combinations -/

/-- A value leaves the world as it is. -/
theorem pure (v : α) : (Pure.pure v : Act τ σ α).Moves R := fun _ w => h.refl w

/-- So does a fault. -/
theorem fail (f : Fault) : (Act.fail f : Act τ σ α).Moves R := fun _ w => h.refl w

/-- Two acts in a row lead along both of their ways, or along the first if it ends with a fault. -/
theorem bind {a : Act τ σ α} {next : α → Act τ σ β} (first : a.Moves R)
    (second : ∀ v, (next v).Moves R) : (a >>= next).Moves R := by
  intro site w
  have moved := first site w
  rw [Act.run_bind]
  revert moved
  rcases a.run site w with ⟨f | v, w'⟩ <;> intro moved
  · exact moved
  · exact h.trans moved (second v site w')

omit h in
/-- To attempt an act is to do it, as far as the world is concerned. -/
theorem attempt {a : Act τ σ α} (moved : a.Moves R) : a.attempt.Moves R := moved

/-- What deals with a fault has to move along the relation as well. -/
theorem rescue {a : Act τ σ α} {handle : Fault → Act τ σ α} (tried : a.Moves R)
    (handled : ∀ f, (handle f).Moves R) : (a.rescue handle).Moves R := by
  apply h.bind (attempt tried)
  intro r
  cases r with
  | ok v => exact h.pure v
  | error f =>
    dsimp only
    split
    · exact handled f
    · exact h.fail f

/-- A computation does not touch the world. -/
theorem lift (r : Except Fault α) : (liftM r : Act τ σ α).Moves R := by
  intro site w
  rw [Act.run_liftM]
  exact h.refl w

/-- What follows a computation is done only with its value. -/
theorem lift_bind {r : Except Fault α} {next : α → Act τ σ β}
    (second : ∀ v, r = .ok v → (next v).Moves R) : ((liftM r : Act τ σ α) >>= next).Moves R := by
  intro site w
  rw [Act.run_bind, Act.run_liftM]
  cases r with
  | ok v => exact second v rfl site w
  | error f => exact h.refl w

omit h in
/-- Either branch of a choice. -/
theorem ite {c : Prop} [Decidable c] {a b : Act τ σ α} (yes : a.Moves R) (no : b.Moves R) :
    (if c then a else b).Moves R := by
  split
  · exact yes
  · exact no

/-- Every item is dealt with along the relation, by induction on their list. -/
theorem forEach {act : β → Act τ σ Unit} (each : ∀ item, (act item).Moves R)
    (items : List β) : (Act.forEach act items).Moves R := by
  induction items with
  | nil => exact h.pure ()
  | cons item rest ih => exact h.bind (each item) fun _ => ih

/-- To look at the site changes nothing; so it is with the world and with what the trial notes. -/
theorem site : (Act.site : Act τ σ (Site τ σ)).Moves R := fun _ w => h.refl w

theorem world : (Act.world : Act τ σ (World τ σ)).Moves R := fun _ w => h.refl w

theorem trial : (Act.trial : Act τ σ (Trial τ)).Moves R := fun _ w => h.refl w

omit h in
/-- An event may be recorded if the relation allows it. -/
theorem record {e : Event τ} (allowed : Allows R e) : (Act.record e : Act τ σ Unit).Moves R :=
  fun _ w => allowed w

/-- Logging is a thing in passing. -/
theorem log (level : Level) (text : String) : (Act.log level text : Act τ σ Unit).Moves R :=
  fun _ w => h.passing w _ trivial

/-! ## Time, calls and requests -/

section Outside

variable [Timescale τ] {f : Cluster.Form}

/-- Time may pass. -/
theorem pass (span : τ) : (Act.pass span : Act τ σ Unit).Moves R := fun _ w => h.clock w _

/-- A sleep is recorded before it takes its time, even if it is refused. -/
theorem sleep (span : τ) : (Act.sleep span : Act τ σ Unit).Moves R := by
  refine h.bind (record fun w => h.passing w _ trivial) fun _ => ?_
  exact ite (h.fail _) (ite (h.pass span) (h.fail _))

/-- A call is allowed if it is with every outcome that it may have. -/
theorem call {c : Cluster.Call f} (allowed : ∀ o, Allows R (.called c o)) :
    (Act.call c : Act τ σ f.Carrier).Moves R := by
  refine h.bind h.site fun site => h.bind h.world fun w => ?_
  refine h.bind (fun _ w => h.outside w _) fun _ => h.bind (record (allowed _)) fun _ => ?_
  apply h.bind (h.pass _)
  intro _
  have awaited : (Act.record (.awaited Act.patience) : Act τ σ Unit).Moves R :=
    record fun w => h.passing w _ trivial
  split
  · exact h.fail _
  · exact h.bind awaited fun _ => h.fail _
  · exact h.bind awaited fun _ => h.pure _

/-- A request is allowed if it is with every exchange that may come of it. -/
theorem request {r : Dashboard.Request} (allowed : ∀ x, Allows R (.requested r x)) :
    (Act.request r : Act τ σ Exchange).Moves R := by
  refine h.bind h.site fun site => h.bind h.world fun w => ?_
  refine h.bind (fun _ w => h.outside w _) fun _ => h.bind (record (allowed _)) fun _ => ?_
  exact h.bind (h.pass _) fun _ => h.pure _

end Outside

/-! ## Files -/

/-- The disk may object to an action, and only the outside changes by that. -/
theorem disk (action : DiskAction) {a : Act τ σ α} (moved : a.Moves R) :
    (Act.disk action a).Moves R := by
  refine h.bind h.site fun site => h.bind h.world fun w => ?_
  refine h.bind (fun _ w => h.outside w _) fun _ => ?_
  split
  · exact h.fail _
  · exact moved

end Calm

namespace Filing

variable {R : World τ σ → World τ σ → Prop} (h : Filing R)

include h

/-- The files become what a trial can make of them, or stay as they are. -/
theorem settle (p : Path) {change? : Volume → Except DiskError Volume}
    (sound : ∀ v v', change? v = .ok v' → v.Becomes v') :
    (Act.settle p change? : Act τ σ Unit).Moves R := by
  intro site w
  rw [Act.run_settle]
  split
  · exact h.refl w
  · split
    next v changed => exact h.volume w v (sound _ v changed)
    · exact h.refl w

/-- A directory is made in one change of the files. -/
theorem makeOneDirectory (p : Path) : (Act.makeOneDirectory p : Act τ σ Unit).Moves R :=
  h.disk _ (h.settle p fun _ _ made => .inl ⟨p, made⟩)

/-- To look for a directory changes nothing. -/
theorem unlessDirectory (p : Path) (f : Fault) :
    (Act.unlessDirectory p f : Act τ σ Unit).Moves R :=
  h.bind h.world fun _ => Calm.ite (h.pure ()) (h.fail f)

/-- By induction on the levels: those above are made first, and the directory again behind them. -/
theorem makeDirectories (rooted : Bool) (levels : Nat) (names : List String) :
    (Act.makeDirectories rooted levels names : Act τ σ Unit).Moves R := by
  induction names generalizing levels with
  | nil => cases levels <;> exact h.pure ()
  | cons name above ih =>
    cases levels with
    | zero => exact h.fail _
    | succ levels =>
      apply h.bind (Calm.attempt (h.makeOneDirectory _))
      intro r
      cases r with
      | ok _ => exact h.pure ()
      | error f =>
        refine Calm.ite (h.bind (ih levels) fun _ => ?_) (h.unlessDirectory _ f)
        apply h.bind (Calm.attempt (h.makeOneDirectory _))
        intro r
        cases r with
        | ok _ => exact h.pure ()
        | error f => exact Calm.ite (h.fail f) (h.unlessDirectory _ f)

/-- A directory is made with those above it. -/
theorem makeDirectory (p : Path) : (Act.makeDirectory p : Act τ σ Unit).Moves R :=
  h.makeDirectories _ _ _

/-- A text is written, and then it is recorded that it was. -/
theorem writeFile (p : Path) (contents : String) (allowed : Allows R (.wrote p contents)) :
    (Act.writeFile p contents : Act τ σ Unit).Moves R :=
  h.bind (h.disk _ (h.settle p fun _ _ wrote => .inr ⟨p, contents, wrote⟩)) fun _ =>
    Calm.record allowed

/-- A temporary directory is made as any other. -/
theorem makeTemporary (beginning : String) :
    (Act.makeTemporary beginning : Act τ σ Path).Moves R := by
  refine h.bind h.site fun site => h.bind (h.disk _ fun _ w => ?_) fun _ => h.pure _
  show R w { w with volume := (w.volume.makeDirectory _).toOption.getD w.volume }
  cases made : w.volume.makeDirectory (site.temporary beginning) with
  | ok v => exact h.volume w v (.inl ⟨_, made⟩)
  | error e => exact h.refl w

end Filing

namespace Everyday

variable {R : World τ σ → World τ σ → Prop} (h : Everyday R)

include h

/-- Every everyday event may be recorded. -/
theorem recorded (w : World τ σ) (e : Event τ) (everyday : e.IsEveryday) : R w (w.recorded e) := by
  cases e with
  | wrote p contents => exact h.wrote w p contents
  | _ => exact h.passing w _ everyday

/-- Where all everyday business is allowed, texts may be written. -/
theorem writeFile (p : Path) (contents : String) :
    (Act.writeFile p contents : Act τ σ Unit).Moves R :=
  h.toFiling.writeFile p contents fun w => h.wrote w p contents

end Everyday

end TrialRun
