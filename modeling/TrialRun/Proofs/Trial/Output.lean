import TrialRun.Proofs.Act.Ensures
import TrialRun.Proofs.Files.Places
import TrialRun.Proofs.Polling.Replies
import TrialRun.Trial.Output

/-!
# What a trial writes

A trial writes into a directory of its own.  Which one that is is known from the site and the trial
before it is noted (`Trial.directoryAt`), and so are the paths of its files (`Trial.fileAt`).

`Trial.Stores` tells what has come about from one world to another: the calls that were made, the
texts that were written, and that all other texts are as they were.  Two such steps make one.  A
text that is written is a step (`Trial.ensures_writeOutput`); making directories, logging and noting
the directory are nothing.

Whether a text can be written lies with the disk.  `Trial.Writable` says it of worlds with a
property that is kept by all that comes between.  One such property is that the directories are
there, if nothing is in the way (`Trial.writable_of_hasRoom`).
-/

set_option autoImplicit false

namespace TrialRun

variable {τ σ α : Type}

/-- All texts that were written, with their paths, the last first. -/
def filesWritten (record : List (Event τ)) : List (Path × String) :=
  record.filterMap fun
    | .wrote p contents => some (p, contents)
    | _ => none

/-! ## The directory of a trial -/

/-- The directory that the directories of trials are made in. -/
def Site.outputBase (site : Site τ σ) : Path :=
  match site.settings.outputDir with
  | some base => if base ≠ "" then Path.ofText base else site.temporary "codeflare-e2e-"
  | none => site.temporary "codeflare-e2e-"

namespace Trial

/-- The directory that a trial writes into: the one that it has noted, or will note. -/
def directoryAt (site : Site τ σ) (own : Trial τ) : Path :=
  own.outputDirectory.getD
    (site.outputBase.join (Path.ofText (String.ofList (directoryName own.name.toList))))

/-- A file of a trial. -/
def fileAt (site : Site τ σ) (own : Trial τ) (file : String) : Path :=
  (directoryAt site own).join (Path.ofText file)

/-- A trial that has noted its directory has nothing left to fail in saying where it is. -/
theorem run_outputPath_of_noted {site : Site τ σ} {w : World τ σ} {directory : Path}
    (noted : w.trial.outputDirectory = some directory) :
    (outputPath : Act τ σ Path).run site w = (.ok directory, w) := by
  rw [outputPath, Act.run_bind_of_ok _ (Act.run_trial site w), noted]
  rfl

theorem ensures_outputBase {site : Site τ σ} {P : World τ σ → Prop}
    (outside : ∀ w s, P w → P { w with outside := s })
    (made : site.outputBase = site.temporary "codeflare-e2e-" → ∀ w v, P w →
      w.volume.makeDirectory (site.temporary "codeflare-e2e-") = .ok v →
      P { w with volume := v }) :
    Act.Ensures site P outputBase (fun base w => base = site.outputBase ∧ P w) fun _ => P := by
  have known : Act.Ensures site P Act.site (fun s w => s = site ∧ P w) fun _ => P :=
    .site' fun w hw => ⟨rfl, hw⟩
  refine known.bind fun s => .given ?_
  rintro rfl
  revert made
  unfold Site.outputBase
  cases s.settings.outputDir with
  | none => exact fun made => .makeTemporary outside (made rfl)
  | some base =>
    dsimp only
    by_cases given : base ≠ ""
    · rw [if_pos given, if_pos given]
      exact fun _ => .pure fun w hw => ⟨rfl, hw⟩
    · rw [if_neg given, if_neg given]
      exact fun made => .makeTemporary outside (made rfl)

/-- Finding the base notes nothing. -/
theorem run_outputBase (site : Site τ σ) (w : World τ σ) :
    Ends (fun base u => base = site.outputBase ∧ u.trial = w.trial) (fun _ u => u.trial = w.trial)
      ((outputBase : Act τ σ Path).run site w) := by
  exact (ensures_outputBase (P := fun u => u.trial = w.trial) (fun _ _ => id)
    fun _ _ _ same _ => same).ends w rfl

/-! ## What is stored -/

/-- What has happened from one world to another: these calls were made, and these texts were written
into files of the trial, the last of each first.  All other texts are as they were. -/
structure Stores (site : Site τ σ) (w : World τ σ) (calls : List (Event τ))
    (files : List (String × String)) (w' : World τ σ) : Prop where
  directory : directoryAt site w'.trial = directoryAt site w.trial
  calls : callsMade w'.record = calls ++ callsMade w.record
  written : filesWritten w'.record =
    files.map (fun file => (fileAt site w.trial file.1, file.2)) ++ filesWritten w.record
  texts : ∀ place, w'.volume.text? place =
    ((files.find? fun file => (fileAt site w.trial file.1).place = place).map (·.2)).or
      (w.volume.text? place)

namespace Stores

variable {site : Site τ σ} {u v w : World τ σ} {calls later : List (Event τ)}
  {files more : List (String × String)}

theorem refl (site : Site τ σ) (w : World τ σ) : Stores site w [] [] w where
  directory := rfl
  calls := rfl
  written := rfl
  texts _ := rfl

theorem trans (first : Stores site u calls files v) (second : Stores site v later more w) :
    Stores site u (later ++ calls) (more ++ files) w where
  directory := second.directory.trans first.directory
  calls := by rw [second.calls, first.calls, List.append_assoc]
  written := by
    rw [second.written, first.written, List.map_append, List.append_assoc]
    simp only [fileAt, first.directory]
  texts place := by
    rw [second.texts, first.texts, List.find?_append, Option.map_or, Option.or_assoc]
    simp only [fileAt, first.directory]
    rfl

/-- Logging stores nothing. -/
theorem logged (h : Stores site w calls files v) (level : Level) (text : String) :
    Stores site w calls files (v.recorded (.log level text)) :=
  ⟨h.directory, h.calls, h.written, h.texts⟩

/-- Noting the directory that was to be noted anyway stores nothing. -/
theorem noted (h : Stores site w calls files v) : Stores site w calls files
    (v.noted fun own => { own with outputDirectory := some (directoryAt site w.trial) }) :=
  ⟨rfl, h.calls, h.written, h.texts⟩

/-- Making directories stores nothing. -/
theorem sturdy (site : Site τ σ) (w : World τ σ) (calls : List (Event τ))
    (files : List (String × String)) : Act.Sturdy (Stores site w calls files) where
  outside _ _ h := ⟨h.directory, h.calls, h.written, h.texts⟩
  made _ _ _ h made := ⟨h.directory, h.calls, h.written, fun place =>
    (Volume.text?_makeDirectory made place).trans (h.texts place)⟩

/-- A text that is written is stored. -/
theorem wrote (h : Stores site w calls files v) {file contents : String} {volume : Volume}
    (wrote : v.volume.writeFile (fileAt site w.trial file) contents = .ok volume) :
    Stores site w calls ((file, contents) :: files)
      (World.recorded { v with volume := volume }
        (.wrote (fileAt site w.trial file) contents)) where
  directory := h.directory
  calls := h.calls
  written := congrArg (List.cons _) h.written
  texts place := by
    refine (Volume.text?_writeFile wrote place).trans ?_
    rw [List.find?_cons, h.texts]
    by_cases same : place = (fileAt site w.trial file).place
    · simp [same]
    · simp [same, Ne.symm same]

/-- What is stored is found, if no two texts are stored at one place. -/
theorem text_of_mem (h : Stores site w calls files v)
    (apart : ∀ file ∈ files, ∀ other ∈ files,
      (fileAt site w.trial other.1).place = (fileAt site w.trial file.1).place → other = file)
    {file : String × String} (member : file ∈ files) :
    v.volume.text? (fileAt site w.trial file.1).place = some file.2 := by
  rw [h.texts]
  cases found : files.find? fun other =>
      (fileAt site w.trial other.1).place = (fileAt site w.trial file.1).place with
  | none => exact absurd (decide_eq_true rfl) (List.find?_eq_none.mp found file member)
  | some other =>
    have same := List.find?_some found
    obtain rfl := apart file member other (List.mem_of_find?_eq_some found)
      (of_decide_eq_true same)
    rfl

/-- Where nothing is stored, the text is as it was. -/
theorem text_of_ne (h : Stores site w calls files v) {place : List String}
    (elsewhere : ∀ file ∈ files, (fileAt site w.trial file.1).place ≠ place) :
    v.volume.text? place = w.volume.text? place := by
  rw [h.texts]
  have none : files.find? (fun file => (fileAt site w.trial file.1).place = place) = none := by
    refine List.find?_eq_none.mpr fun file member same => ?_
    exact elsewhere file member (of_decide_eq_true same)
  rw [none]
  rfl

end Stores

/-- To note the directory and to make it stores nothing. -/
theorem ensures_noteDirectory (site : Site τ σ) (w : World τ σ) :
    let directory := directoryAt site w.trial
    Act.Ensures site (Stores site w [] []) (do
        Act.note fun own => { own with outputDirectory := some directory }
        Act.makeDirectory directory
        Act.log .info s!"Output directory: {directory.text}"
        pure directory)
      (fun p u => p = directory ∧ Stores site w [] [] u) fun _ _ => True := by
  intro directory
  have notes : Act.Ensures site (Stores site w [] [])
      (Act.note fun own => { own with outputDirectory := some directory })
      (fun _ => Stores site w [] []) fun _ _ => True := .note fun u hu => hu.noted
  have makes : Act.Ensures site (Stores site w [] []) (Act.makeDirectory directory)
      (fun _ => Stores site w [] []) fun _ _ => True :=
    (Act.Ensures.makeDirectory (Stores.sturdy site w [] []) directory).values
  have logs : Act.Ensures site (Stores site w [] [])
      (Act.log .info s!"Output directory: {directory.text}")
      (fun _ => Stores site w [] []) fun _ _ => True := .log fun u hu => hu.logged _ _
  exact notes.bind fun _ => makes.bind fun _ => logs.bind fun _ => .pure fun u hu => ⟨rfl, hu⟩

/-- To ask for the directory stores nothing. -/
theorem ensures_outputPath (site : Site τ σ) (w : World τ σ) :
    Act.Ensures site (· = w) outputPath
      (fun p u => p = directoryAt site w.trial ∧ Stores site w [] [] u) fun _ _ => True := by
  cases noted : w.trial.outputDirectory with
  | some directory =>
    have same : directoryAt site w.trial = directory := by
      rw [directoryAt, noted]
      rfl
    refine ⟨?_⟩
    rintro u rfl
    rw [run_outputPath_of_noted noted]
    exact ⟨same.symm, .refl site u⟩
  | none =>
    have same : directoryAt site w.trial =
        site.outputBase.join (Path.ofText (String.ofList (directoryName w.trial.name.toList))) := by
      rw [directoryAt, noted]
      rfl
    -- the name of the trial is asked for again behind the base, so that it has to be kept
    let P (u : World τ σ) : Prop := u.trial = w.trial ∧ Stores site w [] [] u
    have sturdy : Act.Sturdy P :=
      ⟨fun u s h => ⟨h.1, (Stores.sturdy site w [] []).outside u s h.2⟩,
        fun u p v h made => ⟨h.1, (Stores.sturdy site w [] []).made u p v h.2 made⟩⟩
    have begun : Act.Ensures site (· = w) Act.trial (fun own u => own = w.trial ∧ P u)
        fun _ _ => True := by
      refine .trial ?_
      rintro u rfl
      exact ⟨rfl, rfl, .refl site u⟩
    have asked : Act.Ensures site P Act.trial
        (fun own u => own = w.trial ∧ Stores site w [] [] u) fun _ _ => True :=
      .trial fun u hu => hu
    refine begun.bind fun own => .given ?_
    rintro rfl
    rw [noted]
    have based : Act.Ensures site P outputBase _ _ :=
      ensures_outputBase sturdy.outside fun _ v => sturdy.made v _
    refine based.values.bind fun base => .given ?_
    rintro rfl
    refine asked.bind fun own => .given ?_
    rintro rfl
    have notes := ensures_noteDirectory site w
    rw [same] at notes ⊢
    exact notes

/-- A text that is written into a file is all that is stored. -/
theorem ensures_writeOutput (site : Site τ σ) (w : World τ σ) (file contents : String) :
    Act.Ensures site (· = w) (writeOutput file (.text contents))
      (fun p u => p = fileAt site w.trial file ∧ Stores site w [] [(file, contents)] u)
      fun _ _ => True := by
  have makes : Act.Ensures site (Stores site w [] [])
      (Act.makeDirectory (fileAt site w.trial file).parent)
      (fun _ => Stores site w [] []) fun _ _ => True :=
    (Act.Ensures.makeDirectory (Stores.sturdy site w [] []) _).values
  refine (ensures_outputPath site w).bind fun directory => .given ?_
  rintro rfl
  refine makes.bind fun _ => ?_
  have settles : Act.Ensures site (Stores site w [] [])
      (Act.disk (.writeFile (fileAt site w.trial file) contents)
        (Act.settle (fileAt site w.trial file) (·.writeFile (fileAt site w.trial file) contents)))
      (fun _ u => Stores site w [] [(file, contents)]
        (u.recorded (.wrote (fileAt site w.trial file) contents))) fun _ _ => True := by
    refine .disk (Stores.sturdy site w [] []).outside (fun _ _ _ => trivial) ?_
    exact .settle (fun _ _ _ => trivial) fun u v hu => hu.wrote
  have writes : Act.Ensures site (Stores site w [] [])
      (Act.writeFile (fileAt site w.trial file) contents)
      (fun _ => Stores site w [] [(file, contents)]) fun _ _ => True :=
    settles.bind fun _ => .record fun _ => id
  exact writes.bind fun _ => .pure fun _ stored => ⟨rfl, stored⟩

/-! ## What can be written -/

variable {site : Site τ σ}

/-- From each of these worlds on, whatever is answered and logged and written, texts can be written
into these files. -/
structure Writable [Timescale τ] (site : Site τ σ) (files : List String)
    (P : World τ σ → Prop) : Prop where
  answered : ∀ {f : Cluster.Form} (c : Cluster.Call f) (w), P w → P (w.answered site c)
  logged : ∀ level text (w), P w → P (w.recorded (.log level text))
  written : ∀ file ∈ files, ∀ contents (w), P w →
    ∃ p w', (writeOutput file (.text contents)).run site w = (.ok p, w') ∧ P w'

/-- What can be written is stored. -/
theorem Writable.exists_stores [Timescale τ] {files : List String} {P : World τ σ → Prop}
    (writable : Writable site files P) {file : String} (member : file ∈ files) (contents : String)
    {w : World τ σ} (hw : P w) :
    ∃ p w', (writeOutput file (.text contents)).run site w = (.ok p, w') ∧ P w' ∧
      Stores site w [] [(file, contents)] w' := by
  obtain ⟨p, w', ran, hw'⟩ := writable.written file member contents w hw
  have stored := (ensures_writeOutput site w file contents).ends w rfl
  rw [ran] at stored
  exact ⟨p, w', ran, hw', stored.2⟩

section Room

variable {w : World τ σ} (free : ∀ action s, (site.obstacle action s).1 = none)

include free

/-- To make a directory that is there changes nothing, if nothing is in the way. -/
theorem run_makeDirectory_of_isDirectory {p : Path}
    (plain : p.names.any (·.toList.contains '\x00') = false)
    (there : w.volume.isDirectory p = true) :
    ∃ s, (Act.makeDirectory p).run site w = (.ok (), { w with outside := s }) := by
  rw [Act.makeDirectory]
  cases names : p.names.reverse with
  | nil => exact ⟨w.outside, rfl⟩
  | cons name above =>
    have same : (⟨p.rooted, (name :: above).reverse⟩ : Path) = p := by
      rw [← names, List.reverse_reverse]
    obtain ⟨⟨entry, led⟩, directory⟩ := Volume.isDirectory_iff.mp there
    obtain ⟨l, found⟩ := Volume.outline?_eq_directory_iff.mp directory
    obtain ⟨-, here, -⟩ := Volume.target_ok led
    have taken : w.volume.makeDirectory p = .error .alreadyThere := by
      rw [Volume.makeDirectory, led, ← here, found]
      rfl
    let s := (site.obstacle (.makeDirectory p) w.outside).2
    have tried : (Act.makeOneDirectory p).run site w =
        (.error (.disk .alreadyThere p.text), { w with outside := s }) := by
      rw [Act.makeOneDirectory, Act.run_disk, free]
      rw [Act.run_settle, plain, taken]
      rfl
    refine ⟨s, ?_⟩
    rw [Act.missingLimit, Act.makeDirectories]
    rw [same, Act.run_bind, Act.run_attempt, tried]
    dsimp only
    rw [Act.run_ite, if_neg nofun, Act.unlessDirectory, Act.run_bind_of_ok _ (Act.run_world _ _),
      Act.run_ite, there]
    rfl

/-- A text is written where there is room, if nothing is in the way. -/
theorem run_writeFile_of_hasRoom {p : Path} (contents : String)
    (plain : p.names.any (·.toList.contains '\x00') = false) (room : w.volume.HasRoom p) :
    ∃ s volume, w.volume.writeFile p contents = .ok volume ∧
      (Act.writeFile p contents).run site w =
        (.ok (), World.recorded { w with outside := s, volume := volume } (.wrote p contents)) := by
  obtain ⟨volume, written⟩ := room.exists_writeFile contents
  refine ⟨(site.obstacle (.writeFile p contents) w.outside).2, volume, written, ?_⟩
  rw [Act.writeFile, Act.run_bind, Act.run_disk, free]
  dsimp only
  rw [Act.run_settle, plain, written]
  rfl

/-- A trial that has noted its directory can write wherever there is room, if nothing is in the
way. -/
theorem writable_of_hasRoom [Timescale τ] {directory : Path} {files : List String}
    (plain : ∀ file ∈ files,
      (directory.join (Path.ofText file)).names.any (·.toList.contains '\x00') = false) :
    Writable site files fun w => w.trial.outputDirectory = some directory ∧
      ∀ file ∈ files, w.volume.HasRoom (directory.join (Path.ofText file)) where
  answered _ _ h := h
  logged _ _ _ h := h
  written file member contents w h := by
    obtain ⟨noted, room⟩ := h
    have plainHere := plain file member
    have plainParent : (directory.join (Path.ofText file)).parent.names.any
        (·.toList.contains '\x00') = false := by
      rw [List.any_eq_false] at plainHere ⊢
      exact fun name inside => plainHere name (List.dropLast_subset _ inside)
    obtain ⟨s, made⟩ := run_makeDirectory_of_isDirectory (w := w) free plainParent
      (room file member).parent
    obtain ⟨s', volume, changed, wrote⟩ := run_writeFile_of_hasRoom
      (w := { w with outside := s }) free contents plainHere (room file member)
    have ran : (writeOutput file (.text contents)).run site w =
        (.ok (directory.join (Path.ofText file)),
          World.recorded { w with outside := s', volume := volume }
            (.wrote (directory.join (Path.ofText file)) contents)) := by
      rw [writeOutput, Act.run_bind_of_ok _ (run_outputPath_of_noted noted),
        Act.run_bind_of_ok _ made]
      dsimp only
      rw [Act.run_bind_of_ok _ wrote]
      rfl
    exact ⟨_, _, ran, noted, fun other among => (room other among).writeFile changed⟩

end Room

end Trial

end TrialRun
