import TrialRun.Proofs.Trial.Conclusion
import TrialRun.Proofs.Trial.Reached

/-!
# Asking for the directory of a trial

A trial notes which directory it writes into before it makes the directory.  From then on the answer
is always the same, and nothing is made any more: a directory that was made is there for good, since
a trial removes nothing; but one that could not be made is given out nevertheless.

What a trial may come to from a world on is everything that a chain of its doings can lead to
(`World.Later`): every moment of a session and of the end of a trial is later in this sense
(`Trial.Moment.later`).  What one answer says of all later ones is `Trial.outputPath_lasting`;
`Trial.outputPath_givesMissing` is a directory that is given out although it was never made.
-/

set_option autoImplicit false

namespace TrialRun

variable {τ σ : Type}

/-! ## Directories stay -/

namespace Volume

variable {v v' : Volume} {p : Path}

/-- Nothing that a trial does to the files takes a directory away. -/
theorem Becomes.subDirectories (h : v.Becomes v') : v.SubDirectories v' := by
  intro place directory
  rcases h with ⟨p, made⟩ | ⟨p, contents, wrote⟩
  · rw [(outline?_makeDirectory made).2, directory]
    split <;> rfl
  · exact (outline?_directory_writeFile wrote place).mpr directory

theorem SubDirectories.isDirectory (more : v.SubDirectories v') (there : v.isDirectory p = true) :
    v'.isDirectory p = true := by
  obtain ⟨⟨entry, led⟩, directory⟩ := isDirectory_iff.mp there
  exact isDirectory_iff.mpr ⟨target_of_subDirectories more led, more _ directory⟩

/-- A directory that was made is there. -/
theorem isDirectory_of_makeDirectory (made : v.makeDirectory p = .ok v') :
    v'.isDirectory p = true := by
  obtain ⟨-, outline⟩ := outline?_makeDirectory made
  obtain ⟨⟨target, entry⟩, led, -⟩ := ok_of_bind made
  obtain ⟨rfl, -, -⟩ := target_ok led
  have more : v.SubDirectories v' := Becomes.subDirectories (.inl ⟨p, made⟩)
  refine isDirectory_iff.mpr ⟨target_of_subDirectories more led, ?_⟩
  rw [outline, if_pos rfl]

/-- A path without names leads to a directory. -/
theorem isDirectory_of_names_eq_nil (v : Volume) (rooted : Bool) :
    v.isDirectory ⟨rooted, []⟩ = true := by
  cases rooted <;> rfl

end Volume

namespace Act.Ensures

variable {site : Site τ σ}

/-- What was made is a directory. -/
theorem makeOneDirectory_isDirectory (p : Path) :
    Ensures site (fun _ => True) (Act.makeOneDirectory p)
      (fun _ w => w.volume.isDirectory p = true) fun _ _ => True :=
  disk (fun _ _ _ => trivial) (fun _ _ _ => trivial)
    (settle (fun _ _ _ => trivial) fun _ _ _ made => Volume.isDirectory_of_makeDirectory made)

/-- A fault is passed over only where a directory is. -/
theorem unlessDirectory_isDirectory (p : Path) (f : Fault) :
    Ensures site (fun _ => True) (Act.unlessDirectory p f)
      (fun _ w => w.volume.isDirectory p = true) fun _ _ => True := by
  have looked : Ensures site (fun _ => True) (Act.world : Act τ σ (World τ σ))
      (fun seen w => seen = w) fun _ _ => True := world fun _ _ => rfl
  refine looked.bind fun seen => ite (fun there => pure ?_) fun _ => fail fun _ _ => trivial
  rintro w rfl
  exact (Bool.and_eq_true_iff.mp there).2

/-- Only the last attempt counts: whatever became of the directories above, the directory is there
if the act ends well. -/
theorem makeDirectories_isDirectory (rooted : Bool) (levels : Nat) (names : List String) :
    Ensures site (fun _ => True) (Act.makeDirectories rooted levels names)
      (fun _ w => w.volume.isDirectory ⟨rooted, names.reverse⟩ = true) fun _ _ => True := by
  cases names with
  | nil => cases levels <;> exact pure fun w _ => w.volume.isDirectory_of_names_eq_nil rooted
  | cons name above =>
    cases levels with
    | zero => exact fail fun _ _ => trivial
    | succ levels =>
      let p : Path := ⟨rooted, (name :: above).reverse⟩
      have once : Ensures site (fun _ => True) (Act.makeOneDirectory p)
          (fun _ w => w.volume.isDirectory p = true) fun _ _ => True :=
        makeOneDirectory_isDirectory p
      have otherwise (f : Fault) : Ensures site (fun _ => True) (Act.unlessDirectory p f)
          (fun _ w => w.volume.isDirectory p = true) fun _ _ => True :=
        unlessDirectory_isDirectory p f
      -- nothing has to be known of the directories above
      have higher : Ensures site (fun _ => True) (Act.makeDirectories rooted levels above)
          (fun _ _ => True) fun _ _ => True := by
        refine ⟨fun w _ => ?_⟩
        rcases (Act.makeDirectories rooted levels above).run site w with ⟨_ | _, _⟩ <;> trivial
      refine once.attempt.bind fun r => ?_
      cases r with
      | ok _ => exact pure fun _ => id
      | error f =>
        refine ite (fun _ => higher.bind fun _ => ?_) fun _ => otherwise f
        refine once.attempt.bind fun r => ?_
        cases r with
        | ok _ => exact pure fun _ => id
        | error f => exact ite (fun _ => fail fun _ _ => trivial) fun _ => otherwise f

theorem makeDirectory_isDirectory (p : Path) :
    Ensures site (fun _ => True) (Act.makeDirectory p)
      (fun _ w => w.volume.isDirectory p = true) fun _ _ => True := by
  have made : Ensures site (fun _ => True) (Act.makeDirectory p)
      (fun _ w => w.volume.isDirectory ⟨p.rooted, p.names.reverse.reverse⟩ = true)
      fun _ _ => True := makeDirectories_isDirectory p.rooted missingLimit p.names.reverse
  rw [List.reverse_reverse] at made
  exact made

end Act.Ensures

/-! ## What may come later -/

/-- What a trial may come to from a world on, one thing after the other. -/
inductive World.Later (u : World τ σ) : World τ σ → Prop where
  | now : Later u u
  | passed {v : World τ σ} (t : τ) : Later u v → Later u { v with clock := t }
  | outside {v : World τ σ} (s : σ) : Later u v → Later u { v with outside := s }
  | happened {v : World τ σ} (e : Event τ) : Later u v → Later u (v.recorded e)
  | changed {v : World τ σ} {volume : Volume} : v.volume.Becomes volume → Later u v →
      Later u { v with volume := volume }
  | noted {v : World τ σ} (own : Trial τ) : own.outputDirectory = v.trial.outputDirectory →
      Later u v → Later u { v with trial := own }
  /-- The directory of the trial is noted, if none was before. -/
  | directory {v : World τ σ} (p : Path) : v.trial.outputDirectory = none → Later u v →
      Later u (v.noted fun own => { own with outputDirectory := some p })

namespace World.Later

variable {u v w : World τ σ}

theorem trans (first : u.Later v) (second : v.Later w) : u.Later w := by
  induction second with
  | now => exact first
  | passed t _ ih => exact .passed t ih
  | outside s _ ih => exact .outside s ih
  | happened e _ ih => exact .happened e ih
  | changed becomes _ ih => exact .changed becomes ih
  | noted own kept _ ih => exact .noted own kept ih
  | directory p unnoted _ ih => exact .directory p unnoted ih

/-- A directory that was noted stays noted. -/
theorem outputDirectory (h : u.Later v) {p : Path} (noted : u.trial.outputDirectory = some p) :
    v.trial.outputDirectory = some p := by
  induction h with
  | now => exact noted
  | passed _ _ ih | outside _ _ ih | happened _ _ ih | changed _ _ ih => exact ih
  | noted own kept _ ih => exact kept.trans ih
  | directory q unnoted _ ih => exact nomatch unnoted.symm.trans ih

/-- A directory that was there stays there. -/
theorem isDirectory (h : u.Later v) {p : Path} (there : u.volume.isDirectory p = true) :
    v.volume.isDirectory p = true := by
  induction h with
  | now => exact there
  | passed _ _ ih | outside _ _ ih | happened _ _ ih => exact ih
  | noted _ _ _ ih | directory _ _ _ ih => exact ih
  | changed becomes _ ih => exact becomes.subDirectories.isDirectory ih

end World.Later

/-- What comes later is all that a trial may do. -/
theorem lenient_later : Lenient (World.Later (τ := τ) (σ := σ)) where
  refl _ := .now
  trans := .trans
  clock _ t := .passed t .now
  outside _ s := .outside s .now
  passing _ e _ := .happened e .now
  volume _ _ becomes := .changed becomes .now
  directory _ p unnoted := .directory p unnoted .now
  wrote _ p contents := .happened (.wrote p contents) .now
  failed _ := .noted _ rfl .now
  events e _ := .happened e .now
  name _ _ := .noted _ rfl .now
  pollingInterval _ _ := .noted _ rfl .now
  dashboard _ _ := .noted _ rfl .now
  setFailed _ _ := .noted _ rfl .now
  pending _ _ := .noted _ rfl .now

namespace Trial

/-- The moments of a trial from a world on. -/
inductive Moment [Timescale τ] (site : Site τ σ) (w : World τ σ) : World τ σ → Prop where
  /-- A session of steps has ended. -/
  | ended (steps : List (Step τ)) : Moment site w ((session steps).run site w).2
  /-- Something is begun in the course of a session. -/
  | reached {goal : Task τ} {steps : List (Step τ)} {t : Account τ σ} :
      ReachedFrom site goal t (.session steps) (Account.start w) → Moment site w t.world
  /-- The trial is concluded behind a session. -/
  | concluded (steps : List (Step τ)) (report : Option Report) :
      Moment site w ((conclude report).run site ((session steps).run site w).2).2

/-- Every moment of a trial comes later than its start. -/
theorem Moment.later [Timescale τ] {site : Site τ σ} {w v : World τ σ} (h : Moment site w v) :
    w.Later v := by
  cases h with
  | ended steps => exact lenient_later.session steps site w
  | reached reached => exact lenient_later.reached reached
  | concluded steps report =>
    exact (lenient_later.session steps site w).trans (lenient_later.conclude report site _)

/-! ## One answer and all later ones -/

/-- How asking for the directory has ended: it is noted and given out, and was made if it was noted
only now; or it could not be had. -/
inductive GivesPath (site : Site τ σ) (u : World τ σ) : Except Fault Path × World τ σ → Prop where
  | given {w : World τ σ} (noted : w.trial.outputDirectory = some (directoryAt site u.trial))
      (made : u.trial.outputDirectory = none →
        w.volume.isDirectory (directoryAt site u.trial) = true) :
      GivesPath site u (.ok (directoryAt site u.trial), w)
  /-- There is no base for it; the trial is as it was. -/
  | baseless {f : Fault} {w : World τ σ} (unnoted : u.trial.outputDirectory = none)
      (failed : outputBase.run site u = (.error f, w)) (kept : w.trial = u.trial) :
      GivesPath site u (.error f, w)
  /-- It could not be made; the trial has noted it nevertheless. -/
  | unmade {f : Fault} {w : World τ σ} (unnoted : u.trial.outputDirectory = none)
      (noted : w.trial =
        { u.trial with outputDirectory := some (directoryAt site u.trial) }) :
      GivesPath site u (.error f, w)

/-- Making the directory that was just noted: the note stays, however it ends. -/
theorem givesPath_of_noted (site : Site τ σ) {u v : World τ σ}
    (unnoted : u.trial.outputDirectory = none) (kept : v.trial = u.trial) :
    let own := directoryAt site u.trial
    GivesPath site u ((do
      Act.makeDirectory own
      Act.log .info s!"Output directory: {own.text}"
      pure own : Act τ σ Path).run site
        (v.noted fun t => { t with outputDirectory := some own })) := by
  intro own
  let P (w : World τ σ) : Prop := w.trial = { u.trial with outputDirectory := some own }
  have begun : P (v.noted fun t => { t with outputDirectory := some own }) := by
    show { v.trial with outputDirectory := some own } = _
    rw [kept]
  have sturdy : Act.Sturdy P := ⟨fun _ _ => id, fun _ _ _ same _ => same⟩
  have makes : Act.Ensures site (fun w => True ∧ P w) (Act.makeDirectory own)
      (fun _ w => w.volume.isDirectory own = true ∧ P w) fun _ w => True ∧ P w :=
    (Act.Ensures.makeDirectory_isDirectory own).and (Act.Ensures.makeDirectory sturdy own)
  have made := makes.ends _ ⟨trivial, begun⟩
  rw [Act.run_bind]
  revert made
  rcases (Act.makeDirectory own).run site (v.noted _) with ⟨f | _, w⟩
  · rintro ⟨-, noted⟩
    exact .unmade unnoted noted
  · rintro ⟨there, noted⟩
    refine .given ?_ fun _ => there
    exact congrArg Trial.outputDirectory noted

/-- Every access ends in one of these ways; which one depends on what is noted before. -/
theorem givesPath_outputPath (site : Site τ σ) (u : World τ σ) :
    GivesPath site u ((outputPath : Act τ σ Path).run site u) := by
  cases noted : u.trial.outputDirectory with
  | some p =>
    have same : directoryAt site u.trial = p := by
      rw [directoryAt, noted]
      rfl
    rw [run_outputPath_of_noted noted, ← same]
    refine .given (noted.trans (congrArg some same.symm)) fun unnoted => ?_
    cases noted.symm.trans unnoted
  | none =>
    have same : directoryAt site u.trial =
        site.outputBase.join (Path.ofText (String.ofList (directoryName u.trial.name.toList))) := by
      rw [directoryAt, noted]
      rfl
    have based := run_outputBase site u
    rw [outputPath, Act.run_bind_of_ok _ (Act.run_trial site u), noted]
    dsimp only
    rw [Act.run_bind]
    rcases ran : (outputBase : Act τ σ Path).run site u with ⟨f | base, v⟩
    · rw [ran] at based
      exact .baseless noted ran based
    · rw [ran] at based
      obtain ⟨rfl, kept⟩ := based
      have gives := givesPath_of_noted site noted kept
      rw [same] at gives
      dsimp only
      rw [Act.run_bind_of_ok _ (Act.run_trial site v), Act.run_bind_of_ok _ (Act.run_note ..), kept]
      exact gives

/-- **The directory of a trial, once it was asked for.**  Whatever the trial is named, whatever its
settings are, and whatever the disk comes to: if an answer is given, it is the one directory of the
trial, and this was made if it is noted only now.  If there is a fault, no directory was noted
before; either there is no base for it, and the trial is as it was, so that a later question tries
again; or the directory could not be made, but is noted.

Once a directory is noted it is given out at every later moment, whatever was done in between, and
nothing is done for it any more; if it was there, it still is.  So it is there whenever it is given
out, unless the question by which it was noted has ended with a fault. -/
theorem outputPath_lasting [Timescale τ] (site : Site τ σ) (u : World τ σ) :
    let ended := (outputPath : Act τ σ Path).run site u
    GivesPath site u ended ∧
      (∀ v p, ended.2.Later v → ended.2.trial.outputDirectory = some p →
        (outputPath : Act τ σ Path).run site v = (.ok p, v) ∧
          (ended.2.volume.isDirectory p = true → v.volume.isDirectory p = true)) ∧
      ∀ v, Moment site ended.2 v → ended.2.Later v := by
  refine ⟨givesPath_outputPath site u, fun v p later noted => ⟨?_, later.isDirectory⟩,
    fun v => Moment.later⟩
  exact run_outputPath_of_noted (later.outputDirectory noted)

/-- A site whose disk is full, with a directory in its settings. -/
def settledFullSite : Site Number Unit := { fullSite with settings := { outputDir := some "out" } }

/-- The directory cannot be made, and the question ends with a fault.  But the same question is
answered the next time, without a try, and the directory is not there. -/
theorem outputPath_givesMissing :
    let first := (outputPath : Act Number Unit Path).run settledFullSite Cluster.silentWorld
    let second := (outputPath : Act Number Unit Path).run settledFullSite first.2
    let own := directoryAt settledFullSite Cluster.silentWorld.trial
    first.1.toOption = none ∧
      first.2.trial.outputDirectory ≠ Cluster.silentWorld.trial.outputDirectory ∧
      second.1.toOption = some own ∧ second.2.volume.isDirectory own = false := by
  decide +kernel

end Trial

end TrialRun
