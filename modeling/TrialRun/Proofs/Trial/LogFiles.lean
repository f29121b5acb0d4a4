import TrialRun.Proofs.Files.Texts
import TrialRun.Proofs.Trial.Diagnostics

/-!
# Which logs are kept

The file for a log is named by the pod and the container with a dash between them.  But names have
dashes of their own, so that the same text can come of different containers: the end of the name of
one pod may as well be the beginning of the name of a container (`Trial.Overlaps`).  This is the
only way in which two logs come into one file (`Trial.logName_eq_iff`), whatever the namespace is
named.

The logs are written one after the other, and the last one that is written into a file is found in
it.  So each log is kept in a file of its own if no two containers overlap, and otherwise one of
them is lost although all reads and writes succeed (`Trial.storeDiagnostics_keepsLastLogs`);
`Trial.storeDiagnostics_overwritesLog` is such a namespace.
-/

set_option autoImplicit false

namespace TrialRun

variable {τ σ : Type}

/-- A separator that occurs in both texts beside it can be found at different places. -/
theorem append_cons_eq_append_cons_iff {α : Type} {a : α} {xs ys xs' ys' : List α} :
    xs ++ a :: ys = xs' ++ a :: ys' ↔ (xs = xs' ∧ ys = ys') ∨
      (∃ between, xs' = xs ++ a :: between ∧ ys = between ++ a :: ys') ∨
      ∃ between, xs = xs' ++ a :: between ∧ ys' = between ++ a :: ys := by
  constructor
  · intro same
    rcases List.append_eq_append_iff.mp same with ⟨more, ahead, behind⟩ | ⟨more, ahead, behind⟩ <;>
      rcases more with - | ⟨first, between⟩
    · cases behind
      exact .inl ⟨by rw [ahead, List.append_nil], rfl⟩
    · cases behind
      exact .inr (.inl ⟨between, ahead, rfl⟩)
    · cases behind
      exact .inl ⟨by rw [ahead, List.append_nil], rfl⟩
    · cases behind
      exact .inr (.inr ⟨between, ahead, rfl⟩)
  · rintro (⟨rfl, rfl⟩ | ⟨between, rfl, rfl⟩ | ⟨between, rfl, rfl⟩) <;> simp

namespace Trial

/-! ## Names of files for logs -/

/-- The name of the file for a log, without the directories that it is in. -/
def logName (pod container : Json) : String :=
  pod.display ++ "-" ++ container.display ++ ".log"

/-- The name of the second pod goes on behind that of the first one, and the name of the first
container has all that is missing there. -/
def Overlaps (c d : Json × Json) : Prop :=
  ∃ between, d.1.display = c.1.display ++ "-" ++ between ∧
    c.2.display = between ++ "-" ++ d.2.display

/-- No two containers of some pods overlap. -/
def Apart (pods : List Cluster.Pod) : Prop :=
  ∀ c ∈ containersOf pods, ∀ d ∈ containersOf pods, ¬ Overlaps c d

/-- A name of lower-case letters, digits and dashes. -/
def IsObjectName (v : Json) : Prop :=
  ∃ s, v = .text s ∧ ∀ c ∈ s.toList, c.isLower ∨ c.isDigit ∨ c = '-'

/-- Pods with different names, and each with containers of different names, as the server has
them. -/
structure WellNamed (pods : List Cluster.Pod) : Prop where
  different : (pods.map (·.name)).Nodup
  containers : ∀ pod ∈ pods, pod.containers.Nodup
  names : ∀ pod ∈ pods, IsObjectName pod.name ∧ ∀ container ∈ pod.containers, IsObjectName container

/-- A container does not overlap with itself. -/
theorem Overlaps.ne {c d : Json × Json} (h : Overlaps c d) : c ≠ d := by
  rintro rfl
  obtain ⟨between, longer, -⟩ := h
  have lengths := congrArg String.length longer
  have dash : "-".length = 1 := by decide
  rw [String.length_append, String.length_append, dash] at lengths
  omega

/-- Only containers that overlap have files of one name. -/
theorem logName_eq_iff {c d : Json × Json} :
    logName c.1 c.2 = logName d.1 d.2 ↔
      (c.1.display = d.1.display ∧ c.2.display = d.2.display) ∨ Overlaps c d ∨ Overlaps d c := by
  have overlaps (c d : Json × Json) : Overlaps c d ↔
      ∃ between, d.1.display.toList = c.1.display.toList ++ '-' :: between ∧
        c.2.display.toList = between ++ '-' :: d.2.display.toList := by
    constructor
    · rintro ⟨between, pod, container⟩
      exact ⟨between.toList, by simp [pod], by simp [container]⟩
    · rintro ⟨between, pod, container⟩
      exact ⟨String.ofList between, String.toList_injective (by simp [pod]),
        String.toList_injective (by simp [container])⟩
  have names (pod container : Json) : (logName pod container).toList =
      (pod.display.toList ++ '-' :: container.display.toList) ++ ".log".toList := by
    simp [logName]
  rw [overlaps, overlaps, ← String.toList_inj, names, names, List.append_left_inj,
    append_cons_eq_append_cons_iff, String.toList_inj, String.toList_inj]

/-- Object names are told apart by how they are displayed. -/
theorem IsObjectName.eq_of_display {v v' : Json} (h : IsObjectName v) (h' : IsObjectName v')
    (same : v.display = v'.display) : v = v' := by
  obtain ⟨s, rfl, -⟩ := h
  obtain ⟨s', rfl, -⟩ := h'
  exact congrArg Json.text same

theorem IsObjectName.whole {v : Json} (h : IsObjectName v) : '/' ∉ v.display.toList := by
  obtain ⟨s, rfl, plain⟩ := h
  exact fun slash => absurd (plain _ slash) (by decide)

/-- A log has one name, not a path, unless the pod or the container has a slash in its name. -/
theorem isName_logName {pod container : Json} (wholePod : '/' ∉ pod.display.toList)
    (wholeContainer : '/' ∉ container.display.toList) : Path.IsName (logName pod container) := by
  have long : 2 < (logName pod container).length := by
    have ending : ".log".length = 4 := by decide
    rw [logName, String.length_append, ending]
    omega
  have longer (s : String) (short : s.length ≤ 2) : logName pod container ≠ s := by
    rintro rfl
    omega
  exact
    { whole := by simp [logName, wholePod, wholeContainer]
      something := longer _ (by decide)
      notHere := longer _ (by decide)
      notAbove := longer _ (by decide) }

/-! ## Places of files for logs -/

theorem occurrencesFile_eq (ns : Json) :
    occurrencesFile ns = ns.display ++ "/" ++ "events.log" := by
  apply String.toList_injective
  simp [occurrencesFile, toString]

theorem containerLogFile_eq (ns pod container : Json) :
    containerLogFile ns pod container =
      ns.display ++ "/" ++ ("pods" ++ "/" ++ logName pod container) := by
  apply String.toList_injective
  simp [containerLogFile, logName, toString]

/-- Where the log of a container is written. -/
def logPlace (site : Site τ σ) (own : Trial τ) (ns : Json) (c : Json × Json) : List String :=
  (fileAt site own (containerLogFile ns c.1 c.2)).place

/-- Where it is written what has happened. -/
def occurrencesPlace (site : Site τ σ) (own : Trial τ) (ns : Json) : List String :=
  (fileAt site own (occurrencesFile ns)).place

/-- The files of a namespace are found from one place on. -/
theorem exists_places (site : Site τ σ) (own : Trial τ) (ns : Json) : ∃ there,
    occurrencesPlace site own ns = there ++ ["events.log"] ∧
      ∀ c : Json × Json, IsObjectName c.1 → IsObjectName c.2 →
        logPlace site own ns c = there ++ ["pods", logName c.1 c.2] := by
  obtain ⟨there, found⟩ := (directoryAt site own).exists_place_join ns.display
  refine ⟨there, ?_, fun c pod container => ?_⟩
  · have named : Path.IsName "events.log" := by constructor <;> decide
    rw [occurrencesPlace, fileAt, occurrencesFile_eq, found, named.foldl_enter]
  · have inside : Path.IsName "pods" := by constructor <;> decide
    rw [logPlace, fileAt, containerLogFile_eq, found, Path.names_ofText_slash, List.foldl_append,
      inside.foldl_enter, (isName_logName pod.whole container.whole).foldl_enter,
      List.append_assoc]
    rfl

variable {ns : Json} {pods : List Cluster.Pod} {site : Site τ σ} {own : Trial τ}

namespace WellNamed

theorem names_of_mem (h : WellNamed pods) {c : Json × Json} (member : c ∈ containersOf pods) :
    IsObjectName c.1 ∧ IsObjectName c.2 := by
  obtain ⟨pod, among, inside⟩ := List.mem_flatMap.mp member
  obtain ⟨container, held, rfl⟩ := List.mem_map.mp inside
  exact ⟨(h.names pod among).1, (h.names pod among).2 container held⟩

/-- No container is met twice. -/
theorem nodup_containersOf (h : WellNamed pods) : (containersOf pods).Nodup := by
  refine List.nodup_flatMap.mpr ⟨fun pod among => ?_, ?_⟩
  · exact (h.containers pod among).map fun _ _ same => congrArg Prod.snd same
  · refine (List.pairwise_map.mp h.different).imp fun {pod other} different => ?_
    refine List.disjoint_left.mpr fun c inside outside => ?_
    obtain ⟨container, -, rfl⟩ := List.mem_map.mp inside
    obtain ⟨container', -, same⟩ := List.mem_map.mp outside
    exact different (congrArg Prod.fst same).symm

/-- Two logs are written into one file only if their containers overlap. -/
theorem logPlace_eq_iff (h : WellNamed pods) {c d : Json × Json} (hc : c ∈ containersOf pods)
    (hd : d ∈ containersOf pods) :
    logPlace site own ns c = logPlace site own ns d ↔ c = d ∨ Overlaps c d ∨ Overlaps d c := by
  obtain ⟨pod, container⟩ := h.names_of_mem hc
  obtain ⟨pod', container'⟩ := h.names_of_mem hd
  obtain ⟨there, -, places⟩ := exists_places site own ns
  have same : c.1.display = d.1.display ∧ c.2.display = d.2.display ↔ c = d :=
    ⟨fun texts => Prod.ext (pod.eq_of_display pod' texts.1)
      (container.eq_of_display container' texts.2), fun same => same ▸ ⟨rfl, rfl⟩⟩
  rw [places c pod container, places d pod' container', ← same, ← logName_eq_iff]
  simp

/-- No log is written into the file for what has happened. -/
theorem logPlace_ne (h : WellNamed pods) {c : Json × Json} (hc : c ∈ containersOf pods) :
    logPlace site own ns c ≠ occurrencesPlace site own ns := by
  obtain ⟨pod, container⟩ := h.names_of_mem hc
  obtain ⟨there, occurrences, places⟩ := exists_places site own ns
  rw [places c pod container, occurrences]
  simp

/-- Each log has a file of its own if no containers overlap, and only then. -/
theorem nodup_logPlace_iff (h : WellNamed pods) :
    ((containersOf pods).map (logPlace site own ns)).Nodup ↔ Apart pods := by
  constructor
  · intro alone c hc d hd overlap
    refine overlap.ne (List.inj_on_of_nodup_map alone hc hd ?_)
    exact (h.logPlace_eq_iff hc hd).mpr (.inr (.inl overlap))
  · intro apart
    refine h.nodup_containersOf.map_on fun c hc d hd same => ?_
    rcases (h.logPlace_eq_iff hc hd).mp same with same | overlap | overlap
    · exact same
    · exact absurd overlap (apart c hc d hd)
    · exact absurd overlap (apart d hd c hc)

end WellNamed

/-! ## Logs that are kept -/

/-- A read that has ended with a text. -/
def IsLog (outcome : Outcome Json) : Prop := ∃ log, outcome = .served (.text log)

/-- A log that was read is a reading of its container. -/
theorem IsLog.isReading {outcome : Outcome Json} (h : IsLog outcome) : IsReading outcome := by
  obtain ⟨log, rfl⟩ := h
  exact ⟨log, rfl⟩

/-- The read of a log that has ended with a text. -/
def readingOf (log : Json × Json → String) (c : Json × Json) : Reading :=
  ⟨c.1, c.2, .served (.text (log c))⟩

/-- If no container is met twice, what was read is one text for each container. -/
theorem exists_log {readings : List Reading} (logs : ∀ r ∈ readings, IsLog r.outcome)
    (once : (readings.map Reading.source).Nodup) :
    ∃ log, readings = (readings.map Reading.source).map (readingOf log) := by
  classical
  induction readings with
  | nil => exact ⟨fun _ => "", rfl⟩
  | cons r rest ih =>
    obtain ⟨pod, container, outcome⟩ := r
    obtain ⟨first, others⟩ := List.forall_mem_cons.mp logs
    obtain ⟨text, rfl⟩ := first
    rw [List.map_cons, List.nodup_cons] at once
    obtain ⟨log, read⟩ := ih others once.2
    refine ⟨Function.update log (pod, container) text, ?_⟩
    rw [List.map_cons, List.map_cons]
    congr 1
    · show (⟨pod, container, .served (.text text)⟩ : Reading) = readingOf _ (pod, container)
      rw [readingOf, Function.update_self]
    · refine read.trans (List.map_congr_left fun c member => ?_)
      have other : c ≠ (pod, container) := by
        rintro rfl
        exact once.1 member
      rw [readingOf, readingOf, Function.update_of_ne other]

/-- If every log is read, each container has its file, and the last one is written last. -/
theorem files_readingOf (ns : Json) (log : Json × Json → String) (containers : List (Json × Json)) :
    Reading.files ns (containers.map (readingOf log)) =
      (containers.map fun c => (containerLogFile ns c.1 c.2, log c)).reverse := by
  rw [Reading.files, List.filterMap_map, List.filterMap_eq_map_iff_forall_eq_some.mpr]
  exact fun _ _ => rfl

/-- What is found of the logs of some pods: the calls that were made, and what is in which file. -/
structure KeepsLastLogs (site : Site τ σ) (w : World τ σ) (ns : Json) (pods : List Cluster.Pod)
    (log : Json × Json → String) (occurrences : Option (List Cluster.Occurrence))
    (w' : World τ σ) : Prop where
  /-- Each log is read once, and then what has happened is looked up. -/
  calls : callsMade w'.record =
    (.called (.listOccurrences ns) (.served occurrences)) ::
      ((containersOf pods).map fun c =>
        .called (.readPodLog ns c.1 c.2) (.served (.text (log c)))).reverse ++
      .called (.listPods ns .null) (.served (some pods)) :: callsMade w.record
  /-- Two logs are written into one file only if their containers overlap. -/
  shared : ∀ c ∈ containersOf pods, ∀ d ∈ containersOf pods,
    logPlace site w.trial ns c = logPlace site w.trial ns d ↔ c = d ∨ Overlaps c d ∨ Overlaps d c
  /-- In each file the last log that is written there is found. -/
  last : ∀ before c after, containersOf pods = before ++ c :: after →
    (∀ d ∈ after, logPlace site w.trial ns d ≠ logPlace site w.trial ns c) →
    w'.volume.text? (logPlace site w.trial ns c) = some (log c)
  /-- What has happened is found in a file of its own. -/
  occurrences : w'.volume.text? (occurrencesPlace site w.trial ns) =
    some (occurrencesText (occurrences.getD []))
  /-- All other texts are as they were. -/
  others : ∀ place, place ≠ occurrencesPlace site w.trial ns →
    (∀ c ∈ containersOf pods, logPlace site w.trial ns c ≠ place) →
    w'.volume.text? place = w.volume.text? place

variable {w : World τ σ}

/-- The text that was written last at a place is found there. -/
theorem Stores.text_of_last {v : World τ σ} {calls : List (Event τ)} {file contents : String}
    {files later earlier : List (String × String)} (h : Stores site w calls files v)
    (split : files = later ++ (file, contents) :: earlier)
    (last : ∀ other ∈ later,
      (fileAt site w.trial other.1).place ≠ (fileAt site w.trial file).place) :
    v.volume.text? (fileAt site w.trial file).place = some contents := by
  have skipped : later.find? (fun other =>
      (fileAt site w.trial other.1).place = (fileAt site w.trial file).place) = none :=
    List.find?_eq_none.mpr fun other member same => last other member (of_decide_eq_true same)
  rw [h.texts, split, List.find?_append, skipped, List.find?_cons, decide_eq_true rfl]
  rfl

/-- If the logs are stored one after the other, and then what has happened, the last logs are
kept. -/
theorem keepsLastLogs_of_stores {w' : World τ σ} {log : Json × Json → String}
    {occurrences : Option (List Cluster.Occurrence)} (named : WellNamed pods)
    (stores : Stores site w
      (.called (.listOccurrences ns) (.served occurrences) ::
        ((containersOf pods).map fun c =>
          .called (.readPodLog ns c.1 c.2) (.served (.text (log c)))).reverse ++
        [.called (.listPods ns .null) (.served (some pods))])
      ((occurrencesFile ns, occurrencesText (occurrences.getD [])) ::
        ((containersOf pods).map fun c => (containerLogFile ns c.1 c.2, log c)).reverse) w') :
    KeepsLastLogs site w ns pods log occurrences w' where
  calls := by
    rw [stores.calls]
    simp
  shared _ hc _ hd := named.logPlace_eq_iff hc hd
  last before c after split elsewhere := by
    have member : c ∈ containersOf pods := by simp [split]
    let stored (c : Json × Json) : String × String := (containerLogFile ns c.1 c.2, log c)
    let happened : String × String := (occurrencesFile ns, occurrencesText (occurrences.getD []))
    have files : happened :: ((containersOf pods).map stored).reverse =
        (happened :: (after.map stored).reverse) ++ stored c :: (before.map stored).reverse := by
      simp [split]
    refine stores.text_of_last files (List.forall_mem_cons.mpr ⟨?_, ?_⟩)
    · exact fun same => named.logPlace_ne member same.symm
    · intro other among
      obtain ⟨d, hd, rfl⟩ := List.mem_map.mp (List.mem_reverse.mp among)
      exact elsewhere d hd
  occurrences := stores.text_of_last (List.nil_append _).symm fun _ none => nomatch none
  others place aside elsewhere := by
    refine stores.text_of_ne (List.forall_mem_cons.mpr ⟨Ne.symm aside, ?_⟩)
    intro file among
    obtain ⟨c, hc, rfl⟩ := List.mem_map.mp (List.mem_reverse.mp among)
    exact elsewhere c hc

/-- If no containers overlap, all logs are kept. -/
theorem KeepsLastLogs.text_of_apart {w' : World τ σ} {log : Json × Json → String}
    {occurrences : Option (List Cluster.Occurrence)}
    (h : KeepsLastLogs site w ns pods log occurrences w') (named : WellNamed pods)
    (apart : Apart pods) {c : Json × Json} (hc : c ∈ containersOf pods) :
    w'.volume.text? (logPlace site w.trial ns c) = some (log c) := by
  obtain ⟨before, after, split⟩ := List.append_of_mem hc
  refine h.last before c after split fun d later same => ?_
  have hd : d ∈ containersOf pods := by simp [split, later]
  rcases (h.shared d hd c hc).mp same with rfl | overlap | overlap
  · have once := named.nodup_containersOf
    rw [split, List.nodup_append, List.nodup_cons] at once
    exact once.2.1.1 later
  · exact apart d hd c hc overlap
  · exact apart c hc d hd overlap

variable [Timescale τ] {P : World τ σ → Prop}

/-- If the pods are listed, all logs are served, and what has happened is told, then all of it is
written, since it can be. -/
theorem run_storeDiagnostics_of_isLog
    (listed : (site.answer (.listPods ns .null) w.outside).1.outcome = .served (some pods))
    (occurred : ∀ s, ∃ occurrences,
      (site.answer (.listOccurrences ns) s).1.outcome = .served occurrences)
    (readable : ∀ c ∈ containersOf pods, ∀ s,
      IsLog (site.answer (.readPodLog ns c.1 c.2) s).1.outcome)
    (once : (containersOf pods).Nodup) (writable : Writable site (diagnosticFiles ns pods) P)
    (begun : P w) :
    ∃ (log : Json × Json → String) (occurrences : Option (List Cluster.Occurrence))
        (w' : World τ σ), (storeDiagnostics ns).run site w = (.ok (), w') ∧
      Stores site w
        (.called (.listOccurrences ns) (.served occurrences) ::
          ((containersOf pods).map fun c =>
            .called (.readPodLog ns c.1 c.2) (.served (.text (log c)))).reverse ++
          [.called (.listPods ns .null) (.served (some pods))])
        ((occurrencesFile ns, occurrencesText (occurrences.getD [])) ::
          ((containersOf pods).map fun c => (containerLogFile ns c.1 c.2, log c)).reverse) w' := by
  have asked := (Stores.refl site w).answered (.listPods ns .null)
  rw [listed] at asked
  obtain ⟨readings, logs, stores, ends⟩ := run_storeContainerLogs_of writable
    (fun _ => IsLog.isReading) (containersOf pods)
    (writable.answered (.listPods ns .null) w begun)
    (fun c member => List.mem_cons_of_mem _ (List.mem_map_of_mem member)) readable
  -- a log that was served was not awaited in vain, so that nothing was cut short
  obtain ⟨whole, done, kept⟩ := ends.resolve_right fun ⟨last, cause, short, _⟩ => by
    obtain ⟨before, all, -⟩ := short.before
    obtain ⟨log, served⟩ := logs last (by simp [all])
    have vain := short.cause
    rw [Reading.inVain?, served] at vain
    cases vain
  obtain ⟨log, read⟩ := exists_log logs (by rwa [whole.containers])
  rw [whole.containers] at read
  rcases ran : (Act.forEach (fun c : Json × Json => storeContainerLog ns c.1 c.2)
    (containersOf pods)).run site (w.answered site (.listPods ns .null)) with ⟨ended, w₁⟩
  rw [ran] at stores done kept
  cases done
  obtain ⟨occurrences, w', behind, last⟩ := exists_storedOccurrences writable occurred kept
  refine ⟨log, occurrences, w', ?_, ?_⟩
  · rw [run_storeDiagnostics_of_listed listed, Option.getD_some, Act.run_bind_of_ok _ ran]
    exact behind
  · have all := (asked.trans stores).trans last
    rw [read, files_readingOf, Reading.calls, List.map_map, List.append_nil] at all
    exact all

/-- **Which logs are kept.**  Suppose that the pods of a namespace and their containers are named as
objects are, each differently, that they are listed, that all logs are served and what has happened
is told, and that all of it can be written.  Then storing the diagnostics ends well; each log is
read once and written into the file that is named by its pod and container, and in each file the
last log that is written there is found.  Two containers have one file only if they overlap.  So
each log is found in a file of its own if no two of them overlap, and there are fewer files than
logs if some do. -/
theorem storeDiagnostics_keepsLastLogs (site : Site τ σ) (w : World τ σ) (ns : Json)
    (pods : List Cluster.Pod) (P : World τ σ → Prop)
    (listed : (site.answer (.listPods ns .null) w.outside).1.outcome = .served (some pods))
    (occurred : ∀ s, ∃ occurrences,
      (site.answer (.listOccurrences ns) s).1.outcome = .served occurrences)
    (readable : ∀ c ∈ containersOf pods, ∀ s,
      IsLog (site.answer (.readPodLog ns c.1 c.2) s).1.outcome)
    (named : WellNamed pods) (writable : Writable site (diagnosticFiles ns pods) P) (begun : P w) :
    let ended := (storeDiagnostics ns).run site w
    ended.1 = .ok () ∧
      ∃ log occurrences, KeepsLastLogs site w ns pods log occurrences ended.2 ∧
        (((containersOf pods).map (logPlace site w.trial ns)).Nodup ↔ Apart pods) ∧
        (Apart pods → ∀ c ∈ containersOf pods,
          ended.2.volume.text? (logPlace site w.trial ns c) = some (log c)) := by
  intro ended
  obtain ⟨log, occurrences, w', ran, stores⟩ := run_storeDiagnostics_of_isLog listed occurred
    readable named.nodup_containersOf writable begun
  have done : ended = (.ok (), w') := ran
  have kept := keepsLastLogs_of_stores named stores
  rw [done]
  exact ⟨rfl, log, occurrences, kept, named.nodup_logPlace_iff,
    fun apart c hc => kept.text_of_apart named apart hc⟩

/-- A pod named by one letter and one whose name begins with it.  The names of their containers make
up for the difference. -/
def dashedPods : List Cluster.Pod :=
  [{ name := .text "a", containers := [.text "b-c"] },
    { name := .text "a-b", containers := [.text "c"] }]

/-- The answers of a cluster with these pods, where the log of each container tells its pod. -/
def dashedAnswer : {f : Cluster.Form} → Cluster.Call f → Outcome f.Carrier
  | _, .listPods _ _ => .served (some dashedPods)
  | _, .readPodLog _ pod _ => .served (.text ("log of " ++ pod.display))
  | _, .listOccurrences _ => .served none
  | _, _ => .refused (.plain .unreachable "unreachable")

def dashedSite : Site Number Unit :=
  { Cluster.silentSite with answer c s := (⟨.int 0, dashedAnswer c⟩, s) }

theorem wellNamed_dashedPods : WellNamed dashedPods where
  different := by simp [dashedPods]
  containers := by simp [dashedPods]
  names := by
    have plain : ∀ s ∈ ["a", "b-c", "a-b", "c"],
        s.toList.all (fun c => c.isLower || c.isDigit || c == '-') = true := by decide
    have name : ∀ s ∈ ["a", "b-c", "a-b", "c"], IsObjectName (.text s) := by
      refine fun s member => ⟨s, rfl, fun c there => ?_⟩
      simpa [or_assoc] using List.all_eq_true.mp (plain s member) c there
    simp [dashedPods, name]

/-- All files for the diagnostics of these pods can be written. -/
theorem exists_writable_dashedPods : ∃ P : World Number Unit → Prop,
    Writable dashedSite (diagnosticFiles (.text "test-ns") dashedPods) P ∧ P preparedWorld :=
  exists_writable_preparedWorld (fun _ _ => rfl) (by decide +kernel) (by decide +kernel)

/-- Both logs are read, and the last one is found. -/
theorem storeDiagnostics_keepsLastLogs_dashedPods :
    let ended := (storeDiagnostics (.text "test-ns")).run dashedSite preparedWorld
    WellNamed dashedPods ∧ ended.1 = .ok () ∧
      ∃ log occurrences, KeepsLastLogs dashedSite preparedWorld (.text "test-ns") dashedPods log
        occurrences ended.2 := by
  intro ended
  obtain ⟨P, writable, begun⟩ := exists_writable_dashedPods
  have logs : ∀ c ∈ containersOf dashedPods, ∀ s,
      IsLog (dashedSite.answer (.readPodLog (.text "test-ns") c.1 c.2) s).1.outcome :=
    fun _ _ _ => ⟨_, rfl⟩
  obtain ⟨done, log, occurrences, kept, -⟩ := storeDiagnostics_keepsLastLogs dashedSite
    preparedWorld (.text "test-ns") dashedPods P rfl (fun _ => ⟨_, rfl⟩) logs wellNamed_dashedPods
    writable begun
  exact ⟨wellNamed_dashedPods, done, log, occurrences, kept⟩

/-- All reads and writes succeed, but only one of two logs is found anywhere. -/
theorem storeDiagnostics_overwritesLog :
    let ended := (storeDiagnostics (.text "test-ns")).run dashedSite preparedWorld
    WellNamed dashedPods ∧
      (∃ P : World Number Unit → Prop,
        Writable dashedSite (diagnosticFiles (.text "test-ns") dashedPods) P ∧ P preparedWorld) ∧
      (∀ pod container s,
        (dashedSite.answer (.readPodLog (.text "test-ns") pod container) s).1.outcome =
          .served (.text ("log of " ++ pod.display))) ∧
      ended.1.toOption = some () ∧
      ended.2.volume = ⟨.directory "out" (.directory "test-ns" (.file "events.log" ""
        (.directory "pods" (.file "a-b-c.log" "log of a-b" .empty) .empty)) .empty) .empty⟩ :=
  ⟨wellNamed_dashedPods, exists_writable_dashedPods, fun _ _ _ => rfl, by decide +kernel,
    by decide +kernel⟩

end Trial

end TrialRun
