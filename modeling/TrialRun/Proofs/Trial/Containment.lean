import TrialRun.Proofs.Files.Inward
import TrialRun.Proofs.Trial.JobLogs
import TrialRun.Proofs.Trial.LogFiles
import TrialRun.Proofs.Trial.Reached

/-!
# Where a trial writes

A trial writes below its base: behind the base comes the directory named after the trial, and behind
that the names of a file.  If these together never go up more often than down
(`Path.LeadsInto`), neither the file nor any directory that is made for it is outside, except for
directories on the way to the base, which are made if they are missing.

The name of a directory has no slash in it, so that it goes up only if it is two dots, and it is two
dots only if the trial is named so.  Nothing is done to what identifies a job, so that its slashes
and dots count; without a slash the log stays inside (`Trial.inward_jobLogFile`).

`Contained` is what every act of a session keeps, and `Trial.session_contained` what comes of it.
`Trial.session_escapes` has a name and a job that lead out of the base.
-/

set_option autoImplicit false

namespace TrialRun

variable {τ σ : Type}

/-! ## Names of directories -/

namespace Trial

/-- No slash is left in the name of a directory. -/
theorem slash_notMem_directoryName (cs : List Char) : '/' ∉ directoryName cs := by
  fun_induction directoryName cs with
  | case1 => exact List.not_mem_nil
  | case2 c rest kept ih =>
    rw [List.mem_cons, not_or]
    refine ⟨?_, ih⟩
    rintro rfl
    exact absurd kept (by decide)
  | case3 c dropped => decide
  | case4 c dropped next behind kept ih =>
    rw [List.mem_cons, not_or]
    exact ⟨by decide, ih⟩
  | case5 c dropped next behind again ih => exact ih

/-- What is not kept leaves an underscore. -/
theorem underscore_mem_directoryName {c : Char} {cs : List Char} (inside : c ∈ cs)
    (dropped : isNameChar c = false) : '_' ∈ directoryName cs := by
  fun_induction directoryName cs generalizing c with
  | case1 => cases inside
  | case2 d rest kept ih =>
    rcases List.mem_cons.mp inside with rfl | behind
    · rw [dropped] at kept
      cases kept
    · exact List.mem_cons_of_mem _ (ih behind dropped)
  | case3 d _ => exact List.mem_singleton_self _
  | case4 d _ next behind kept ih => exact List.mem_cons_self
  | case5 d _ next behind again ih =>
    rcases List.mem_cons.mp inside with rfl | later
    · exact ih List.mem_cons_self (Bool.eq_false_iff.mpr again)
    · exact ih later dropped

/-- A name of kept characters is kept as it is. -/
theorem directoryName_eq_self {cs : List Char} (kept : ∀ c ∈ cs, isNameChar c = true) :
    directoryName cs = cs := by
  induction cs with
  | nil => rfl
  | cons c rest ih =>
    rw [directoryName.eq_def]
    dsimp only
    rw [if_pos (kept c List.mem_cons_self),
      ih fun d inside => kept d (List.mem_cons_of_mem c inside)]

/-- Only two dots are kept as two dots. -/
theorem eq_of_directoryName_eq_dots {name : String}
    (dots : String.ofList (directoryName name.toList) = "..") : name = ".." := by
  have chars : directoryName name.toList = ['.', '.'] := by
    rw [← String.toList_ofList (l := directoryName name.toList), dots]
    rfl
  have kept : ∀ c ∈ name.toList, isNameChar c = true := by
    intro c inside
    by_contra dropped
    have underscore := underscore_mem_directoryName inside (Bool.eq_false_iff.mpr dropped)
    rw [chars] at underscore
    exact absurd underscore (by decide)
  rw [directoryName_eq_self kept] at chars
  exact String.toList_injective chars

/-! ## Files of a trial -/

/-- The names that lead from the base to a file of a trial. -/
def namesWithin (own : Trial τ) (file : String) : List String :=
  (Path.ofText (String.ofList (directoryName own.name.toList))).names ++ (Path.ofText file).names

/-- The directory of a trial is the base or in it, unless the trial is named by two dots. -/
theorem inward_directory {own : Trial τ} (name : own.name ≠ "..") :
    Path.Inward (Path.ofText (String.ofList (directoryName own.name.toList))).names := by
  apply Path.inward_of_ne
  intro part among
  rw [Path.ofText, String.toList_ofList,
    Path.splitSlashes_of_not_mem (slash_notMem_directoryName _)] at among
  obtain rfl := List.mem_singleton.mp (List.mem_filter.mp among).1
  exact fun dots => name (eq_of_directoryName_eq_dots dots)

end Trial

/-! ## Paths that lead into a directory -/

/-- The path goes on behind another one and stays inside where that one leads. -/
def Path.LeadsInto (base p : Path) : Prop :=
  p.rooted = base.rooted ∧ ∃ rest, p.names = base.names ++ rest ∧ Path.Inward rest

/-- What is on the way to a directory: what some of its first names lead to. -/
def Path.OnTheWayTo (base : Path) (place : List String) : Prop :=
  ∃ front, front <+: base.names ∧ place = (⟨base.rooted, front⟩ : Path).place

namespace Path.LeadsInto

variable {base p : Path} {front : List String}

/-- Such a path leads to a place in the directory. -/
theorem prefix_place (h : LeadsInto base p) : base.place <+: p.place := by
  obtain ⟨-, rest, names, inward⟩ := h
  rw [place, place, names, List.foldl_append]
  exact inward.prefix_place _ (List.prefix_refl rest)

/-- What is on the way to such a path is on the way to the directory or in it. -/
theorem of_prefix (h : LeadsInto base p) (begins : front <+: p.names) :
    base.OnTheWayTo (⟨p.rooted, front⟩ : Path).place ∨
      base.place <+: (⟨p.rooted, front⟩ : Path).place := by
  obtain ⟨rooted, rest, names, inward⟩ := h
  rw [names] at begins
  rcases List.prefix_or_prefix_of_prefix begins (List.prefix_append base.names rest) with
    within | ⟨behind, rfl⟩
  · exact .inl ⟨front, within, rfl⟩
  · right
    have further : behind <+: rest := (List.prefix_append_right_inj base.names).mp begins
    rw [place, place, List.foldl_append]
    exact inward.prefix_place _ further

end Path.LeadsInto

/-! ## Worlds -/

/-- Nothing was written and nothing was made, and the trial has the name and the directory that it
had. -/
structure World.LeavesFiles (w w' : World τ σ) : Prop where
  name : w'.trial.name = w.trial.name
  directory : w'.trial.outputDirectory = w.trial.outputDirectory
  volume : w'.volume = w.volume
  written : filesWritten w'.record = filesWritten w.record

/-- Looking at the cluster leaves the files alone. -/
theorem inspecting_leavesFiles : Inspecting (World.LeavesFiles (τ := τ) (σ := σ)) where
  refl _ := ⟨rfl, rfl, rfl, rfl⟩
  trans first second := ⟨second.name.trans first.name, second.directory.trans first.directory,
    second.volume.trans first.volume, second.written.trans first.written⟩
  clock _ _ := ⟨rfl, rfl, rfl, rfl⟩
  outside _ _ := ⟨rfl, rfl, rfl, rfl⟩
  passing w e passing := by
    cases e with
    | wrote p contents => exact passing.elim
    | _ => exact ⟨rfl, rfl, rfl, rfl⟩
  glances _ _ _ _ _ _ := ⟨rfl, rfl, rfl, rfl⟩
  inspects _ _ _ _ _ _ := ⟨rfl, rfl, rfl, rfl⟩
  failed _ := ⟨rfl, rfl, rfl, rfl⟩

/-- All that was written from one world to another is in the base, and so is all that was made but
for directories on the way to the base. -/
structure Contained (site : Site τ σ) (w w' : World τ σ) : Prop where
  directory : Trial.directoryAt site w'.trial = Trial.directoryAt site w.trial
  written : ∀ file ∈ filesWritten w'.record,
    file ∈ filesWritten w.record ∨ site.outputBase.place <+: file.1.place
  changed : ∀ place, w'.volume.outline? place = w.volume.outline? place ∨
    site.outputBase.place <+: place ∨
    (site.outputBase.OnTheWayTo place ∧ w.volume.outline? place = none ∧
      w'.volume.outline? place = some (.directory .empty))

namespace Contained

variable {site : Site τ σ} {w u v : World τ σ}

/-- Nothing was written or made at first. -/
theorem refl (site : Site τ σ) (w : World τ σ) : Contained site w w where
  directory := rfl
  written _ := .inl
  changed _ := .inl rfl

/-- What leaves the files alone changes nothing about that. -/
theorem left (h : Contained site w u) (left : u.LeavesFiles v) : Contained site w v where
  directory := by
    rw [← h.directory, Trial.directoryAt, Trial.directoryAt, left.directory, left.name]
  written := by
    rw [left.written]
    exact h.written
  changed := by
    rw [left.volume]
    exact h.changed

/-- A directory was made on the way into the base. -/
theorem made (h : Contained site w u) {p : Path} {volume : Volume}
    (made : u.volume.makeDirectory p = .ok volume)
    (way : site.outputBase.OnTheWayTo p.place ∨ site.outputBase.place <+: p.place) :
    Contained site w { u with volume := volume } where
  directory := h.directory
  written := h.written
  changed place := by
    obtain ⟨nothing, outline⟩ := Volume.outline?_makeDirectory made
    show volume.outline? place = _ ∨ _ ∨ _ ∧ _ ∧ volume.outline? place = _
    rw [outline]
    by_cases here : place = p.place
    · rw [if_pos here]
      subst here
      rcases way with onTheWay | inside
      · rcases h.changed p.place with same | inside | ⟨-, -, there⟩
        · exact .inr (.inr ⟨onTheWay, same.symm.trans nothing, rfl⟩)
        · exact .inr (.inl inside)
        · cases nothing.symm.trans there
      · exact .inr (.inl inside)
    · rw [if_neg here]
      exact h.changed place

/-- A text was written in the base. -/
theorem wrote (h : Contained site w u) {p : Path} {contents : String} {volume : Volume}
    (wrote : u.volume.writeFile p contents = .ok volume)
    (inside : site.outputBase.place <+: p.place) :
    Contained site w (World.recorded { u with volume := volume } (.wrote p contents)) where
  directory := h.directory
  written file among := by
    rcases List.mem_cons.mp among with rfl | earlier
    · exact .inr inside
    · exact h.written file earlier
  changed place := by
    show volume.outline? place = _ ∨ _ ∨ _ ∧ _ ∧ volume.outline? place = _
    rw [(Volume.outline?_writeFile wrote).2]
    by_cases here : place = p.place
    · exact .inr (.inl (here ▸ inside))
    · rw [if_neg here]
      exact h.changed place

/-- To note the directory that was to be noted anyway changes nothing. -/
theorem noted (h : Contained site w u) : Contained site w
    (u.noted fun own => { own with outputDirectory := some (Trial.directoryAt site w.trial) }) where
  directory := rfl
  written := h.written
  changed := h.changed

/-- The outside may change. -/
theorem outside (h : Contained site w u) (s : σ) : Contained site w { u with outside := s } :=
  h.left ⟨rfl, rfl, rfl, rfl⟩

end Contained

/-! ## Acts -/

namespace Trial

variable {site : Site τ σ} {w : World τ σ}

/-- Acts that leave the files alone keep all that was written in the base. -/
theorem contained_of_leavesFiles {α : Type} {a : Act τ σ α} (moves : a.Moves World.LeavesFiles) :
    Act.Ensures site (Contained site w) a (fun _ => Contained site w) fun _ => Contained site w :=
  moves.ensures fun _ _ hu => hu.left

/-- A directory on the way to a file of the trial is in the base, or on the way to it. -/
theorem contained_makeDirectory {p q : Path} (inside : site.outputBase.LeadsInto p)
    (rooted : q.rooted = p.rooted) (begins : q.names <+: p.names) :
    Act.Ensures site (Contained site w) (Act.makeDirectory q) (fun _ => Contained site w)
      fun _ => Contained site w := by
  refine .makeDirectory_of_prefixes (fun u s hu => hu.outside s) fun front among u v hu made => ?_
  rw [rooted] at made
  exact hu.made made (inside.of_prefix (among.trans begins))

/-- A text is written at a place in the base. -/
theorem contained_writeFile {p : Path} (inside : site.outputBase.LeadsInto p) (contents : String) :
    Act.Ensures site (Contained site w) (Act.writeFile p contents) (fun _ => Contained site w)
      fun _ => Contained site w := by
  have settles : Act.Ensures site (Contained site w)
      (Act.disk (.writeFile p contents) (Act.settle p (·.writeFile p contents)))
      (fun _ u => Contained site w (u.recorded (.wrote p contents)))
      fun _ => Contained site w := by
    refine .disk (fun u s hu => hu.outside s) (fun _ _ => id) ?_
    exact .settle (fun _ _ => id) fun u v hu wrote => hu.wrote wrote inside.prefix_place
  exact settles.bind fun _ => .record fun _ => id

/-- Finding the base makes nothing but the base. -/
theorem contained_outputBase (own : Trial τ) :
    Act.Ensures site (fun u => u.trial = own ∧ Contained site w u) outputBase
      (fun base u => base = site.outputBase ∧ u.trial = own ∧ Contained site w u)
      fun _ => Contained site w := by
  refine (ensures_outputBase (fun u s hu => ⟨hu.1, hu.2.outside s⟩) ?_).mono (fun _ => id)
    (fun _ _ => id) fun _ _ hu => hu.2
  intro base u v hu made
  refine ⟨hu.1, hu.2.made made (.inr ?_)⟩
  rw [base]

section Own

variable (own : site.outputBase.LeadsInto (directoryAt site w.trial))

include own

/-- The directory of the trial is noted before it is made, so that it is the same whether or not
that fails. -/
theorem contained_noteDirectory :
    let directory := directoryAt site w.trial
    Act.Ensures site (Contained site w) (do
        Act.note fun own => { own with outputDirectory := some directory }
        Act.makeDirectory directory
        Act.log .info s!"Output directory: {directory.text}"
        pure directory)
      (fun p u => p = directory ∧ Contained site w u) fun _ => Contained site w := by
  intro directory
  have notes : Act.Ensures site (Contained site w)
      (Act.note fun own => { own with outputDirectory := some directory })
      (fun _ => Contained site w) fun _ => Contained site w := .note fun _ hu => hu.noted
  have makes : Act.Ensures site (Contained site w) (Act.makeDirectory directory)
      (fun _ => Contained site w) fun _ => Contained site w :=
    contained_makeDirectory own rfl (List.prefix_refl _)
  have logs : Act.Ensures site (Contained site w)
      (Act.log .info s!"Output directory: {directory.text}")
      (fun _ => Contained site w) fun _ => Contained site w :=
    contained_of_leavesFiles (inspecting_leavesFiles.log _ _)
  exact notes.bind fun _ => makes.bind fun _ => logs.bind fun _ => .pure fun _ hu => ⟨rfl, hu⟩

/-- The directory for output is the trial's own, noted or not. -/
theorem contained_outputPath :
    Act.Ensures site (Contained site w) outputPath
      (fun p u => p = directoryAt site w.trial ∧ Contained site w u)
      fun _ => Contained site w := by
  have begun : Act.Ensures site (Contained site w) Act.trial
      (fun t u => directoryAt site t = directoryAt site w.trial ∧ u.trial = t ∧ Contained site w u)
      fun _ => Contained site w := .trial fun u hu => ⟨hu.directory, rfl, hu⟩
  refine begun.bind fun t => .given fun same => ?_
  rw [directoryAt] at same
  cases noted : t.outputDirectory with
  | some p =>
    rw [noted] at same
    exact .pure fun u hu => ⟨same, hu.2⟩
  | none =>
    rw [noted, Option.getD_none] at same
    -- the name of the trial is asked for again behind the base, so that it has to be kept
    have asked : Act.Ensures site (fun u => u.trial = t ∧ Contained site w u) Act.trial
        (fun t' u => t' = t ∧ Contained site w u) fun _ => Contained site w := .trial fun _ => id
    refine (contained_outputBase t).bind fun base => .given ?_
    rintro rfl
    refine asked.bind fun t' => .given ?_
    rintro rfl
    dsimp only
    rw [same]
    exact contained_noteDirectory own

/-- A file that leads into the base may be written there, with the directories on the way to it. -/
theorem contained_writeOutput {file : String}
    (inside : site.outputBase.LeadsInto (fileAt site w.trial file)) (contents : Json) :
    Act.Ensures site (Contained site w) (writeOutput file contents) (fun _ => Contained site w)
      fun _ => Contained site w := by
  refine (contained_outputPath own).bind fun directory => .given ?_
  rintro rfl
  have parent : Act.Ensures site (Contained site w)
      (Act.makeDirectory (fileAt site w.trial file).parent) (fun _ => Contained site w)
      fun _ => Contained site w :=
    contained_makeDirectory inside rfl (List.dropLast_prefix _)
  refine parent.bind fun _ => ?_
  cases contents with
  | text s => exact (contained_writeFile inside s).bind fun _ => .pure fun _ => id
  | brokenText codes => exact (contained_writeFile inside "").bind fun _ => .fail fun _ => id
  | _ => exact .fail fun _ => id

end Own

end Trial

/-! ## Names that the server gives -/

/-- A name of lower-case letters, digits, dashes and dots that begins with a letter or a digit, as
all names of objects do. -/
def IsServerName (v : Json) : Prop :=
  ∃ (c : Char) (rest : List Char), v = .text (String.ofList (c :: rest)) ∧ (c.isLower ∨ c.isDigit) ∧
    ∀ d ∈ rest, d.isLower ∨ d.isDigit ∨ d = '-' ∨ d = '.'

/-- The names that servers give have no slashes in them. -/
theorem IsServerName.slash_notMem {v : Json} (h : IsServerName v) : '/' ∉ v.display.toList := by
  obtain ⟨c, rest, rfl, first, others⟩ := h
  rw [Json.display_text, String.toList_ofList, List.mem_cons, not_or]
  constructor
  · rintro rfl
    exact absurd first (by decide)
  · exact fun slash => absurd (others _ slash) (by decide)

/-- Nor are they empty or made of dots, so that each is one name of a path. -/
theorem IsServerName.isName {v : Json} (h : IsServerName v) : Path.IsName v.display := by
  have whole := h.slash_notMem
  obtain ⟨c, rest, rfl, first, -⟩ := h
  have notDot : c ≠ '.' := by
    rintro rfl
    exact absurd first (by decide)
  have other {s : String} (begins : ∀ d, s.toList.head? = some d → d = '.') :
      (Json.text (String.ofList (c :: rest))).display ≠ s := by
    rintro rfl
    exact notDot (begins c (by simp))
  exact
    { whole := whole
      something := other nofun
      notHere := other (by simp)
      notAbove := other (by simp) }

/-- The server names pods and their containers as it names all objects. -/
def Site.NamesPods (site : Site τ σ) : Prop :=
  ∀ ns selector s pods, (site.answer (.listPods ns selector) s).1.outcome = .served (some pods) →
    ∀ pod ∈ pods, IsServerName pod.name ∧ ∀ container ∈ pod.containers, IsServerName container

namespace Trial

/-- A text without a slash in front is no path from the root. -/
theorem rooted_ofText_of_ne {s : String} (relative : s.toList.head? ≠ some '/') :
    (Path.ofText s).rooted = false :=
  decide_eq_false relative

section Fresh

variable {site : Site τ σ} {own : Trial τ} (fresh : own.outputDirectory = none)

include fresh

/-- The directory of a trial is behind the base. -/
theorem directoryAt_of_fresh : directoryAt site own =
    ⟨site.outputBase.rooted, site.outputBase.names ++
      (Path.ofText (String.ofList (directoryName own.name.toList))).names⟩ := by
  have relative : (Path.ofText (String.ofList (directoryName own.name.toList))).rooted = false := by
    apply rooted_ofText_of_ne
    rw [String.toList_ofList]
    exact fun slash => slash_notMem_directoryName _ (List.mem_of_head? slash)
  rw [directoryAt, fresh, Option.getD_none, Path.join, relative, if_neg Bool.false_ne_true]

/-- A trial with any other name than two dots has its directory in the base. -/
theorem leadsInto_directoryAt (name : own.name ≠ "..") :
    site.outputBase.LeadsInto (directoryAt site own) := by
  rw [directoryAt_of_fresh fresh]
  exact ⟨rfl, _, rfl, inward_directory name⟩

/-- A file whose names stay inside is in the base. -/
theorem leadsInto_fileAt {file : String} (relative : file.toList.head? ≠ some '/')
    (inward : Path.Inward (namesWithin own file)) :
    site.outputBase.LeadsInto (fileAt site own file) := by
  rw [fileAt, directoryAt_of_fresh fresh, Path.join, rooted_ofText_of_ne relative,
    if_neg Bool.false_ne_true]
  exact ⟨rfl, _, List.append_assoc .., inward⟩

/-- The files of a namespace are where they are looked for. -/
theorem leadsInto_namespaceFile (name : own.name ≠ "..") {ns : Json} (named : IsServerName ns)
    {below : String} (down : ∀ part ∈ (Path.ofText below).names, part ≠ "..") :
    site.outputBase.LeadsInto (fileAt site own (ns.display ++ "/" ++ below)) := by
  apply leadsInto_fileAt fresh
  · have whole := named.slash_notMem
    obtain ⟨c, rest, rfl, -, -⟩ := named
    intro slash
    simp at slash
    exact whole (by simp [slash])
  · rw [namesWithin, Path.names_ofText_slash, named.isName.names_ofText]
    refine (inward_directory name).append fun part among => ?_
    rcases List.mem_cons.mp among with rfl | behind
    · exact named.isName.notAbove
    · exact down part behind

end Fresh

/-- The identity of a job stands in the middle of the name of its log. -/
theorem toList_jobLogFile (job : Json) : (jobLogFile job).toList =
    "ray-job-log-".toList ++ (job.display.toList ++ ".log".toList) := by
  simp [jobLogFile, toString]

/-- The log of a job is written below the directory of the trial, if there is no slash in what
identifies the job. -/
theorem inward_jobLogFile {own : Trial τ} (name : own.name ≠ "..") {job : Json}
    (whole : '/' ∉ job.display.toList) : Path.Inward (namesWithin own (jobLogFile job)) := by
  have file : Path.IsName (jobLogFile job) := by
    have first {s : String} (same : jobLogFile job = s) : s.toList.head? = some 'r' := by
      rw [← same, toList_jobLogFile]
      rfl
    exact
      { whole := by simp [toList_jobLogFile, whole]
        something := fun same => absurd (first same) (by decide)
        notHere := fun same => absurd (first same) (by decide)
        notAbove := fun same => absurd (first same) (by decide) }
  rw [namesWithin, file.names_ofText]
  refine (inward_directory name).append fun part among => ?_
  rw [List.mem_singleton.mp among]
  exact file.notAbove

/-! ## Steps -/

section Steps

variable [Timescale τ] {site : Site τ σ} {w : World τ σ} (fresh : w.trial.outputDirectory = none)
  (name : w.trial.name ≠ "..")

include fresh name

/-- The log of a container is stored in the base, as its names are those of a server. -/
theorem contained_storeContainerLog {ns pod container : Json} (namedSpace : IsServerName ns)
    (namedPod : IsServerName pod) (namedContainer : IsServerName container) :
    Act.Ensures site (Contained site w) (storeContainerLog ns pod container)
      (fun _ => Contained site w) fun _ => Contained site w := by
  have own : site.outputBase.LeadsInto (directoryAt site w.trial) :=
    leadsInto_directoryAt fresh name
  have log := isName_logName namedPod.slash_notMem namedContainer.slash_notMem
  have inside :
      site.outputBase.LeadsInto (fileAt site w.trial (containerLogFile ns pod container)) := by
    rw [containerLogFile_eq]
    refine leadsInto_namespaceFile fresh name namedSpace fun part among => ?_
    have pods : Path.IsName "pods" := by constructor <;> decide
    rw [Path.names_ofText_slash, pods.names_ofText, log.names_ofText] at among
    rcases List.mem_cons.mp among with rfl | last
    · exact pods.notAbove
    · rw [List.mem_singleton.mp last]
      exact log.notAbove
  have reads : Act.Ensures site (Contained site w) (Cluster.readPodLogs ns pod container) _ _ :=
    contained_of_leavesFiles (inspecting_leavesFiles.readPodLogs ns pod container)
  have logs (text : String) : Act.Ensures site (Contained site w) (Act.log .warning text)
      (fun _ => Contained site w) fun _ => Contained site w :=
    contained_of_leavesFiles (inspecting_leavesFiles.log _ _)
  refine reads.attempt.bind fun r => ?_
  cases r with
  | ok logs => exact (contained_writeOutput own inside logs).bind fun _ => .pure fun _ => id
  | error f => exact .ite (fun _ => logs _) fun _ => .fail fun _ => id

omit fresh name in
/-- The pods that are found have the names that the server gives them. -/
theorem contained_listPods (named : site.NamesPods) (ns : Json) :
    Act.Ensures site (Contained site w) (Cluster.listPods ns)
      (fun pods u => (∀ pod ∈ pods, IsServerName pod.name ∧
        ∀ container ∈ pod.containers, IsServerName container) ∧ Contained site w u)
      fun _ => Contained site w := by
  let task := s!"list Pods in namespace: {ns.display}"
  have serves : Act.Ensures site (fun _ => True) (Cluster.ask task (.listPods ns .null))
      (fun pods _ => ∀ pod ∈ pods.getD [], IsServerName pod.name ∧
        ∀ container ∈ pod.containers, IsServerName container) fun _ _ => True := by
    refine ⟨fun u _ => ?_⟩
    rcases ran : (Cluster.ask task (.listPods ns .null)).run site u with ⟨f | pods, u'⟩
    · trivial
    · cases pods with
      | none => exact fun _ among => nomatch among
      | some pods => exact named ns .null u.outside pods (Cluster.served_of_ask ran)
  have asks : Act.Ensures site (Contained site w) (Cluster.ask task (.listPods ns .null)) _ _ :=
    contained_of_leavesFiles (inspecting_leavesFiles.ask _ _ rfl rfl)
  have both : Act.Ensures site (Contained site w) (Cluster.ask task (.listPods ns .null)) _ _ :=
    (serves.and asks).mono (fun _ hu => ⟨trivial, hu⟩) (fun _ _ => id) fun _ _ => And.right
  exact both.bind fun pods => .pure fun _ => id

/-- The logs of pods with names of a server are stored in the base, and so are the occurrences. -/
theorem contained_storeDiagnostics (named : site.NamesPods) {ns : Json}
    (namedSpace : IsServerName ns) :
    Act.Ensures site (Contained site w) (storeDiagnostics ns) (fun _ => Contained site w)
      fun _ => Contained site w := by
  have own : site.outputBase.LeadsInto (directoryAt site w.trial) :=
    leadsInto_directoryAt fresh name
  have lists : Act.Ensures site (Contained site w) (Cluster.listOccurrences ns) _ _ :=
    contained_of_leavesFiles (inspecting_leavesFiles.listOccurrences ns)
  have inside : site.outputBase.LeadsInto (fileAt site w.trial s!"{ns.display}/events.log") := by
    have file : s!"{ns.display}/events.log" = _ := occurrencesFile_eq ns
    rw [file]
    refine leadsInto_namespaceFile fresh name namedSpace ?_
    decide
  refine (contained_listPods named ns).bind fun pods => .given fun server => ?_
  refine Act.Ensures.bind (.forEach fun pod among => .forEach fun container held => ?_) fun _ => ?_
  · obtain ⟨namedPod, namedContainers⟩ := server pod among
    exact contained_storeContainerLog fresh name namedSpace namedPod (namedContainers _ held)
  · refine lists.bind fun occurrences => ?_
    exact (contained_writeOutput own inside _).bind fun _ => .pure fun _ => id

/-- The log of a job is written in the base if its identity leads nowhere else. -/
theorem contained_writeJobLogs {job : Json}
    (inward : Path.Inward (namesWithin w.trial (jobLogFile job))) (dashboard : Option Dashboard) :
    Act.Ensures site (Contained site w) (writeJobLogs dashboard job) (fun _ => Contained site w)
      fun _ => Contained site w := by
  have inside : site.outputBase.LeadsInto (fileAt site w.trial (jobLogFile job)) := by
    refine leadsInto_fileAt fresh (fun slash => ?_) inward
    rw [toList_jobLogFile] at slash
    exact absurd (Option.some.inj slash) (by decide)
  have tells : Act.Ensures site (Contained site w)
      (Act.log .info s!"Retrieving Ray job {job.display} logs") (fun _ => Contained site w)
      fun _ => Contained site w := contained_of_leavesFiles (inspecting_leavesFiles.log _ _)
  have asks : Act.Ensures site (Contained site w) ((Query.jobLogs job).run dashboard)
      (fun _ => Contained site w) fun _ => Contained site w := by
    cases dashboard with
    | none => exact .fail fun _ => id
    | some d =>
      refine contained_of_leavesFiles (inspecting_leavesFiles.toCalm.jobLogs d job ?_)
      exact fun _ _ _ _ => ⟨rfl, rfl, rfl, rfl⟩
  refine tells.bind fun _ => asks.bind fun logs => ?_
  exact contained_writeOutput (leadsInto_directoryAt fresh name) inside logs

end Steps

end Trial

/-! ## Sessions -/

/-- A step that asks for the directory of a trial, connects to a dashboard, writes the log of a job
whose file is below the base, or stores the diagnostics of a namespace. -/
def Step.StaysInside (own : Trial τ) : Step τ → Prop
  | .outputDirectory | .connect _ _ _ | .connectAsTrial _ => True
  | .writeJobLogs job => Path.Inward (Trial.namesWithin own (Trial.jobLogFile job))
  | .storeDiagnostics ns => IsServerName ns
  | _ => False

namespace Trial

variable {site : Site τ σ} {w : World τ σ}

/-- To connect to a dashboard leaves the files alone. -/
theorem contained_connected {act : Act τ σ Dashboard} (moves : act.Moves World.LeavesFiles) :
    Act.Ensures site (Contained site w) (Step.connected act) (fun _ => Contained site w)
      fun _ => Contained site w := by
  refine contained_of_leavesFiles (inspecting_leavesFiles.bind moves fun d => ?_)
  refine inspecting_leavesFiles.bind ?_ fun _ => inspecting_leavesFiles.pure _
  exact fun _ _ => ⟨rfl, rfl, rfl, rfl⟩

variable [Timescale τ]

/-- What each step of a session keeps, whether it fails or not, they all keep. -/
theorem ensures_answers {P : World τ σ → Prop} {steps : List (Step τ)}
    (each : ∀ step ∈ steps, Act.Ensures site P step.run (fun _ => P) fun _ => P) :
    Act.Ensures site P (answers steps) (fun _ => P) fun _ => P := by
  induction steps with
  | nil => exact .pure fun _ => id
  | cons step rest ih =>
    refine (each step List.mem_cons_self).attempt.bind fun r => ?_
    have others := ih fun other among => each other (List.mem_cons_of_mem _ among)
    cases r <;> exact others.bind fun _ => .pure fun _ => id

/-- A step that stays inside keeps all that was written in the base, whatever its bound is. -/
theorem contained_exec (fresh : w.trial.outputDirectory = none) (name : w.trial.name ≠ "..")
    (named : site.NamesPods) {step : Step τ} (inside : step.StaysInside w.trial) (bound : Nat) :
    Act.Ensures site (Contained site w) (step.exec bound) (fun _ => Contained site w)
      fun _ => Contained site w := by
  cases bound with
  | zero => exact .pure fun _ => id
  | succ bound =>
    cases step with
    | outputDirectory =>
      have own : site.outputBase.LeadsInto (directoryAt site w.trial) :=
        leadsInto_directoryAt fresh name
      exact (contained_outputPath own).bind fun _ => .pure fun _ hu => hu.2
    | connect address token verified =>
      exact contained_connected (inspecting_leavesFiles.pure _)
    | connectAsTrial url => exact contained_connected (inspecting_leavesFiles.toCalm.connect url)
    | writeJobLogs job =>
      have known : Act.Ensures site (Contained site w) Act.trial (fun _ => Contained site w)
          fun _ => Contained site w := .trial fun _ => id
      refine known.bind fun t => ?_
      exact (contained_writeJobLogs fresh name inside t.dashboard).bind fun _ => .pure fun _ => id
    | storeDiagnostics ns =>
      exact (contained_storeDiagnostics fresh name named inside).bind fun _ => .pure fun _ => id
    | _ => exact inside.elim

/-- **Containment.**  Whatever a trial is named but two dots, wherever its base is, and whatever is
answered: all that a session of such steps writes is in the base, and so is all that it makes but
for directories on the way to the base. -/
theorem session_contained (fresh : w.trial.outputDirectory = none) (name : w.trial.name ≠ "..")
    (named : site.NamesPods) (steps : List (Step τ))
    (inside : ∀ step ∈ steps, step.StaysInside w.trial) :
    Contained site w ((session steps).run site w).2 := by
  have each : ∀ step ∈ steps, Act.Ensures site (Contained site w) step.run
      (fun _ => Contained site w) fun _ => Contained site w := by
    intro step among
    have known : Act.Ensures site (Contained site w) Act.trial (fun _ => Contained site w)
        fun _ => Contained site w := .trial fun _ => id
    exact known.bind fun _ => contained_exec fresh name named (inside step among) _
  have whole : Act.Ensures site (Contained site w) (session steps) (fun _ => Contained site w)
      fun _ => Contained site w := (ensures_answers each).bind fun _ => .pure fun _ => id
  have ended := whole.ends w (.refl site w)
  revert ended
  rcases (session steps).run site w with ⟨f | _, w'⟩ <;> exact id

/-- A site with two pods, a dashboard that knows of no logs, and a base. -/
def basedSite : Site Number Unit :=
  { twoPodSite (.served "head logs") with
    react := fun _ s => (⟨.int 0, .response 200 [123, 125]⟩, s)
    settings := { outputDir := some "base" } }

/-- The pods of that site have the names that a server gives. -/
theorem namesPods_basedSite : basedSite.NamesPods := by
  have word (c : Char) (rest : List Char) (first : c.isLower ∨ c.isDigit)
      (others : ∀ d ∈ rest, d.isLower ∨ d.isDigit ∨ d = '-' ∨ d = '.') :
      IsServerName (.text (String.ofList (c :: rest))) := ⟨c, rest, rfl, first, others⟩
  intro ns selector s pods served pod among
  obtain rfl : twoPods = pods := Option.some.inj (Outcome.served.inj served)
  obtain rfl | rfl : pod = ⟨"head", ["ray-head"]⟩ ∨ pod = ⟨"worker", ["ray-worker"]⟩ := by
    simpa [twoPods] using among
  all_goals
    refine ⟨word _ _ (by decide) (by simp), fun container held => ?_⟩
    rw [List.mem_singleton.mp held]
    exact word _ _ (by decide) (by simp)

/-- The log of a job, those of two containers and the occurrences are written, all in the base. -/
theorem session_contained_twoPods :
    let steps : List (Step Number) := [.outputDirectory, .connect "http://ray" none true,
      .writeJobLogs "raysubmit_x7k2p", .storeDiagnostics "test-ns"]
    let ended := ((session steps).run basedSite Cluster.silentWorld).2
    (filesWritten ended.record).length = 4 ∧
      ∀ file ∈ filesWritten ended.record, ["base"] <+: file.1.place := by
  intro steps ended
  have inside : ∀ step ∈ steps, step.StaysInside Cluster.silentWorld.trial := by
    intro step among
    obtain rfl | rfl | rfl | rfl : step = .outputDirectory ∨
        step = .connect "http://ray" none true ∨ step = .writeJobLogs "raysubmit_x7k2p" ∨
        step = .storeDiagnostics "test-ns" := by simpa [steps] using among
    · trivial
    · trivial
    · exact inward_jobLogFile (by decide) (by decide)
    · exact ⟨'t', "est-ns".toList, rfl, by decide, by simp⟩
  have contained := session_contained (w := Cluster.silentWorld) rfl (by decide)
    namesPods_basedSite steps inside
  refine ⟨by decide +kernel, fun file among => ?_⟩
  rcases contained.written file among with before | inside
  · cases before
  · exact inside

/-- A trial that is named by two dots writes beside its base, and so does a trial that is asked for
the log of a job whose identifier goes up. -/
theorem session_escapes :
    let places (name : String) (steps : List (Step Number)) :=
      (filesWritten ((session steps).run basedSite
        (Cluster.silentWorld.noted fun own => { own with name := name })).2.record).map
          fun file => file.1.place
    basedSite.outputBase.place = ["base"] ∧
      ["test-ns", "events.log"] ∈ places ".." [.storeDiagnostics "test-ns"] ∧
      places "trial" [.connect "http://ray" none true, .writeJobLogs "/../../../x"] =
        [["x.log"]] := by
  decide +kernel

end Trial

end TrialRun
