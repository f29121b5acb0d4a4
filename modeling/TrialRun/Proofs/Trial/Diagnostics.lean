import Mathlib.Data.List.Nodup
import TrialRun.Proofs.Cluster.Failures
import TrialRun.Proofs.Trial.Output
import TrialRun.Trial.Diagnostics

/-!
# What is stored of a namespace

The diagnostics of a namespace are the logs of its containers and what has happened in it.  A log
that cannot be read is passed over with a remark.  But if the answer with a log is not awaited any
longer, that is the end: no later log is read, and what has happened is not stored.

What one container comes to is told by the outcome of its read (`Trial.run_storeContainerLog`), and
what all come to by induction on the containers (`Trial.run_storeContainerLogs`).  So it is known
exactly which texts are found in the end (`Trial.storeDiagnostics_stores`);
`Trial.storeDiagnostics_losesLogs` is a namespace of which nothing is stored, although there is a
second log that could be read.
-/

set_option autoImplicit false

namespace TrialRun

variable {τ σ : Type}

/-- The fault that a call has ended with. -/
def Outcome.fault? {α : Type} : Outcome α → Option Fault
  | .served _ => none
  | .refused f | .late f => some f

/-- A fault, if it is that an answer was not awaited any longer. -/
def Fault.inVain? (f : Fault) : Option Fault :=
  match f.kind with
  | .awaitTimedOut => some f
  | _ => none

namespace Trial

/-! ## Reading logs -/

/-- What reading the log of a container has come to. -/
structure Reading where
  pod : Json
  container : Json
  outcome : Outcome Json

namespace Reading

/-- The container, with its pod. -/
def source (r : Reading) : Json × Json := (r.pod, r.container)

/-- The call of the read. -/
def call (ns : Json) (r : Reading) : Event τ :=
  .called (.readPodLog ns r.pod r.container) r.outcome

/-- The file for a log that was read, with its text. -/
def file? (ns : Json) (r : Reading) : Option (String × String) :=
  match r.outcome with
  | .served (.text log) => some (containerLogFile ns r.pod r.container, log)
  | _ => none

/-- The fault of a read whose answer was not awaited any longer. -/
def inVain? (r : Reading) : Option Fault := r.outcome.fault?.bind Fault.inVain?

/-- The calls of some reads, the last one first. -/
def calls (ns : Json) (readings : List Reading) : List (Event τ) :=
  (readings.map (call ns)).reverse

/-- The files for the logs of some reads, the last one first. -/
def files (ns : Json) (readings : List Reading) : List (String × String) :=
  (readings.filterMap (file? ns)).reverse

theorem calls_cons (ns : Json) (r : Reading) (rest : List Reading) :
    (calls ns (r :: rest) : List (Event τ)) = calls ns rest ++ [r.call ns] := by
  rw [calls, List.map_cons, List.reverse_cons, calls]

theorem files_cons (ns : Json) (r : Reading) (rest : List Reading) :
    files ns (r :: rest) = files ns rest ++ (r.file? ns).toList := by
  rw [files, files, List.filterMap_cons]
  cases r.file? ns <;> simp

theorem mem_files_iff {ns : Json} {readings : List Reading} {file : String × String} :
    file ∈ files ns readings ↔ ∃ r ∈ readings, r.file? ns = some file := by
  rw [files, List.mem_reverse, List.mem_filterMap]

theorem eq_of_file? {ns : Json} {r : Reading} {file : String × String}
    (stored : r.file? ns = some file) :
    file.1 = containerLogFile ns r.source.1 r.source.2 := by
  unfold file? at stored
  split at stored
  · cases stored
    rfl
  · cases stored

end Reading

/-- The read of a log has ended with a text, or with a fault that can be dealt with. -/
def IsReading : Outcome Json → Prop
  | .served v => ∃ log, v = .text log
  | .refused f | .late f => f.isOrdinary = true

/-- The fault that storing the log of a container ends with if its answer is not awaited any
longer. -/
def lateLog (ns pod : Json) (cause : Fault) : Fault :=
  cause.leadsTo .timedOut s!"Timeout to read logs for the pod {ns.display}/{pod.display}"

variable [Timescale τ] {site : Site τ σ} {files : List String} {P : World τ σ → Prop}

theorem Stores.answered {w w' : World τ σ} {calls : List (Event τ)}
    {stored : List (String × String)} (h : Stores site w calls stored w') {f : Cluster.Form}
    (c : Cluster.Call f) :
    Stores site w (.called c (site.answer c w'.outside).1.outcome :: calls) stored
      (w'.answered site c) where
  directory := h.directory
  calls := by
    have waits : callsMade ((site.answer c w'.outside).1.outcome.waits : List (Event τ)) = [] :=
      callsMade_eq_nil fun _ => Outcome.isEveryday_of_mem_waits
    rw [World.answered_record, callsMade_append, waits]
    exact congrArg (List.cons _) h.calls
  written := by
    rw [World.answered_record, ← h.written]
    cases (site.answer c w'.outside).1.outcome <;> rfl
  texts := h.texts

/-- Reading the log of a container comes first, and what is done then depends on what it told. -/
theorem run_storeContainerLog_eq (site : Site τ σ) (w : World τ σ) (ns pod container : Json) :
    (storeContainerLog ns pod container).run site w =
      (match (site.answer (.readPodLog ns pod container) w.outside).1.outcome.told
          s!"read logs for the pod {ns.display}/{pod.display}" with
        | .ok log => do
          let _ ← writeOutput (containerLogFile ns pod container) log
        | .error f => if f.kind.isFailure then Act.log .warning f.text else Act.fail f
          : Act τ σ Unit).run site (w.answered site (.readPodLog ns pod container)) := by
  rw [storeContainerLog, Act.run_bind, Act.run_attempt, Cluster.readPodLogs, Cluster.run_ask_eq]
  rfl

/-- A log that cannot be read is passed over with a remark, unless it was awaited in vain. -/
theorem run_storeContainerLog_of_fault {w : World τ σ} {ns pod container : Json} {f : Fault}
    (ordinary : f.isOrdinary = true)
    (fault : (site.answer (.readPodLog ns pod container) w.outside).1.outcome.fault? = some f) :
    (storeContainerLog ns pod container).run site w =
      match f.inVain? with
      | some cause =>
        (.error (lateLog ns pod cause), w.answered site (.readPodLog ns pod container))
      | none => (.ok (), (w.answered site (.readPodLog ns pod container)).recorded
          (.log .warning s!"Failed to read logs for the pod {ns.display}/{pod.display}")) := by
  rw [run_storeContainerLog_eq]
  have told (task : String) :
      (site.answer (.readPodLog ns pod container) w.outside).1.outcome.told task =
        .error (Cluster.operationFault task f) := by
    revert fault
    cases (site.answer (.readPodLog ns pod container) w.outside).1.outcome <;> intro fault <;>
      cases fault <;> exact congrArg Except.error (if_pos ordinary)
  rw [told, Cluster.operationFault, Fault.inVain?]
  cases f.kind <;> rfl

/-- **One log.**  Storing the log of a container makes one call.  A text is written into the file of
the container, and a read that has failed stores nothing; only one that was awaited in vain ends
with a fault. -/
theorem run_storeContainerLog (writable : Writable site files P) {w : World τ σ} (hw : P w)
    {ns pod container : Json} (member : containerLogFile ns pod container ∈ files)
    {outcome : Outcome Json} (readable : IsReading outcome)
    (read : (site.answer (.readPodLog ns pod container) w.outside).1.outcome = outcome) :
    let r : Reading := ⟨pod, container, outcome⟩
    let ended := (storeContainerLog ns pod container).run site w
    Stores site w [r.call ns] (r.file? ns).toList ended.2 ∧
      ((r.inVain? = none ∧ ended.1 = .ok () ∧ P ended.2) ∨
        ∃ cause, r.inVain? = some cause ∧ ended.1 = .error (lateLog ns pod cause)) := by
  intro r ended
  let c : Cluster.Call .value := .readPodLog ns pod container
  have asked : Stores site w [r.call ns] [] (w.answered site c) := by
    have answered := (Stores.refl site w).answered c
    rw [read] at answered
    exact answered
  have kept : P (w.answered site c) := writable.answered c w hw
  have failed : ∀ f, f.isOrdinary = true → outcome.fault? = some f →
      Stores site w [r.call ns] [] ended.2 ∧
      ((r.inVain? = none ∧ ended.1 = .ok () ∧ P ended.2) ∨
        ∃ cause, r.inVain? = some cause ∧ ended.1 = .error (lateLog ns pod cause)) := by
    intro f ordinary fault
    have vain : r.inVain? = f.inVain? := by
      rw [Reading.inVain?, fault]
      rfl
    have done : ended = _ := run_storeContainerLog_of_fault ordinary (read ▸ fault)
    rw [done, vain]
    cases f.inVain? with
    | some cause => exact ⟨asked, .inr ⟨cause, rfl, rfl⟩⟩
    | none => exact ⟨asked.logged _ _, .inl ⟨rfl, rfl, writable.logged _ _ _ kept⟩⟩
  cases outcome with
  | served v =>
    obtain ⟨log, rfl⟩ := readable
    obtain ⟨p, w', ran, hw', stored⟩ := writable.exists_stores member log kept
    have done : ended = (.ok (), w') := by
      show (storeContainerLog ns pod container).run site w = _
      rw [run_storeContainerLog_eq, read]
      exact Act.run_bind_of_ok _ ran
    rw [done]
    exact ⟨asked.trans stored, .inl ⟨rfl, rfl, hw'⟩⟩
  | refused f => exact failed f readable rfl
  | late f => exact failed f readable rfl

/-! ## All logs -/

/-- The containers of some pods, with the pods, in the order in which their logs are read. -/
def containersOf (pods : List Cluster.Pod) : List (Json × Json) :=
  pods.flatMap fun pod => pod.containers.map fun container => (pod.name, container)

/-- The logs of all containers were read, and no answer was awaited in vain. -/
structure ReadAll (containers : List (Json × Json)) (readings : List Reading) : Prop where
  containers : readings.map Reading.source = containers
  calm : ∀ r ∈ readings, r.inVain? = none

/-- The logs of the first containers were read, up to one whose answer was awaited in vain. -/
structure CutShort (containers : List (Json × Json)) (readings : List Reading) (last : Reading)
    (cause : Fault) : Prop where
  containers : readings.map Reading.source <+: containers
  before : ∃ before, readings = before ++ [last] ∧ ∀ r ∈ before, r.inVain? = none
  cause : last.inVain? = some cause

/-- The logs are read one after the other, to the end or to the first one that is awaited in vain,
and those that were texts are stored.  All reads end as reads are known to end. -/
theorem run_storeContainerLogs_of (writable : Writable site files P) {ns : Json}
    {known : Outcome Json → Prop} (isReading : ∀ outcome, known outcome → IsReading outcome)
    (containers : List (Json × Json)) {w : World τ σ} (hw : P w)
    (members : ∀ c ∈ containers, containerLogFile ns c.1 c.2 ∈ files)
    (readable : ∀ c ∈ containers, ∀ s,
      known (site.answer (.readPodLog ns c.1 c.2) s).1.outcome) :
    let ended := (Act.forEach (fun c : Json × Json => storeContainerLog ns c.1 c.2)
      containers).run site w
    ∃ readings, (∀ r ∈ readings, known r.outcome) ∧
      Stores site w (Reading.calls ns readings) (Reading.files ns readings) ended.2 ∧
      ((ReadAll containers readings ∧ ended.1 = .ok () ∧ P ended.2) ∨
        ∃ last cause, CutShort containers readings last cause ∧
          ended.1 = .error (lateLog ns last.pod cause)) := by
  induction containers generalizing w with
  | nil => exact ⟨[], nofun, .refl site w, .inl ⟨⟨rfl, nofun⟩, rfl, hw⟩⟩
  | cons c rest ih =>
    obtain ⟨pod, container⟩ := c
    have reading := readable _ List.mem_cons_self w.outside
    obtain ⟨stores, ends⟩ := run_storeContainerLog writable hw (members _ List.mem_cons_self)
      (isReading _ reading) rfl
    generalize (site.answer (.readPodLog ns pod container) w.outside).1.outcome = outcome at *
    let r : Reading := ⟨pod, container, outcome⟩
    rw [Act.run_forEach_cons, Act.run_bind]
    -- the log was awaited in vain, which ends the loop, or it was dealt with and the others follow
    rcases ran : (storeContainerLog ns pod container).run site w with ⟨f | _, w₁⟩
    · rw [ran] at stores ends
      obtain ⟨cause, vain, failed⟩ : ∃ cause, r.inVain? = some cause ∧
          (.error f : Except Fault Unit) = .error (lateLog ns pod cause) := by
        rcases ends with ⟨-, impossible, -⟩ | vain
        · cases impossible
        · exact vain
      refine ⟨[r], by simpa [r] using reading, ?_, .inr ⟨r, cause, ⟨?_, ?_, vain⟩, failed⟩⟩
      · rw [Reading.files_cons]
        exact stores
      · exact ⟨rest, rfl⟩
      · exact ⟨[], rfl, nofun⟩
    · rw [ran] at stores ends
      obtain ⟨calm, -, hw₁⟩ : r.inVain? = none ∧ (.ok () : Except Fault Unit) = .ok () ∧ P w₁ := by
        rcases ends with calm | ⟨cause, -, impossible⟩
        · exact calm
        · cases impossible
      obtain ⟨readings, readings_read, further, ends⟩ := ih hw₁
        (fun other member => members other (List.mem_cons_of_mem _ member))
        (fun other member => readable other (List.mem_cons_of_mem _ member))
      refine ⟨r :: readings, ?_, ?_, ?_⟩
      · exact List.forall_mem_cons.mpr ⟨reading, readings_read⟩
      · rw [Reading.calls_cons, Reading.files_cons]
        exact stores.trans further
      · rcases ends with ⟨whole, done, hw'⟩ | ⟨last, cause, short, failed⟩
        · exact .inl ⟨⟨congrArg _ whole.containers, List.forall_mem_cons.mpr ⟨calm, whole.calm⟩⟩,
            done, hw'⟩
        · obtain ⟨before, rfl, calmBefore⟩ := short.before
          exact .inr ⟨last, cause,
            { containers := (List.prefix_cons_inj _).mpr short.containers
              before := ⟨r :: before, rfl, List.forall_mem_cons.mpr ⟨calm, calmBefore⟩⟩
              cause := short.cause }, failed⟩

/-- **All logs.**  The logs are read one after the other, to the end or to the first one that is
awaited in vain, and those that were texts are stored. -/
theorem run_storeContainerLogs (writable : Writable site files P) {ns : Json}
    (containers : List (Json × Json)) {w : World τ σ} (hw : P w)
    (members : ∀ c ∈ containers, containerLogFile ns c.1 c.2 ∈ files)
    (readable : ∀ c ∈ containers, ∀ s,
      IsReading (site.answer (.readPodLog ns c.1 c.2) s).1.outcome) :
    let ended := (Act.forEach (fun c : Json × Json => storeContainerLog ns c.1 c.2)
      containers).run site w
    ∃ readings, (∀ r ∈ readings, IsReading r.outcome) ∧
      Stores site w (Reading.calls ns readings) (Reading.files ns readings) ended.2 ∧
      ((ReadAll containers readings ∧ ended.1 = .ok () ∧ P ended.2) ∨
        ∃ last cause, CutShort containers readings last cause ∧
          ended.1 = .error (lateLog ns last.pod cause)) :=
  run_storeContainerLogs_of writable (fun _ => id) containers hw members readable

/-! ## All diagnostics -/

/-- The file for what has happened in a namespace. -/
def occurrencesFile (ns : Json) : String := s!"{ns.display}/events.log"

/-- What has happened, one line each. -/
def occurrencesText (occurrences : List Cluster.Occurrence) : String :=
  "\n".intercalate (occurrences.map (·.line))

/-- All files that the diagnostics of a namespace with some pods may be written into. -/
def diagnosticFiles (ns : Json) (pods : List Cluster.Pod) : List String :=
  occurrencesFile ns :: (containersOf pods).map fun c => containerLogFile ns c.1 c.2

/-- Behind the list of pods there are first all logs, and then what has happened. -/
theorem run_storeDiagnostics_of_listed {w : World τ σ} {ns : Json}
    {listed : Option (List Cluster.Pod)}
    (pods : (site.answer (.listPods ns .null) w.outside).1.outcome = .served listed) :
    (storeDiagnostics ns).run site w =
      (Act.forEach (fun c : Json × Json => storeContainerLog ns c.1 c.2)
          (containersOf (listed.getD [])) >>= fun _ => do
        let occurrences ← Cluster.listOccurrences ns
        let _ ← writeOutput (occurrencesFile ns) (.text (occurrencesText occurrences))
        pure ()).run site (w.answered site (.listPods ns .null)) := by
  have known : (Cluster.listPods ns).run site w =
      (.ok (listed.getD []), w.answered site (.listPods ns .null)) := by
    rw [Cluster.listPods, Act.run_bind, Cluster.run_ask_eq, pods]
    rfl
  let act (c : Json × Json) : Act τ σ Unit := storeContainerLog ns c.1 c.2
  have each : (fun pod : Cluster.Pod => Act.forEach act
      (pod.containers.map fun container => (pod.name, container))) =
      fun pod => Act.forEach (fun container => storeContainerLog ns pod.name container)
        pod.containers := by
    funext pod site w
    exact Act.run_forEach_map site w act _ _
  rw [storeDiagnostics, Act.run_bind_of_ok _ known, Act.run_bind, Act.run_bind, containersOf,
    Act.run_forEach_flatMap, each]
  rfl

/-- What has happened is told and stored, since it can be. -/
theorem exists_storedOccurrences {ns : Json} {pods : List Cluster.Pod}
    (writable : Writable site (diagnosticFiles ns pods) P)
    (occurred : ∀ s, ∃ occurrences,
      (site.answer (.listOccurrences ns) s).1.outcome = .served occurrences)
    {w : World τ σ} (hw : P w) :
    ∃ occurrences w',
      (do
        let occurrences ← Cluster.listOccurrences ns
        let _ ← writeOutput (occurrencesFile ns) (.text (occurrencesText occurrences))
        pure () : Act τ σ Unit).run site w = (.ok (), w') ∧
      Stores site w [.called (.listOccurrences ns) (.served occurrences)]
        [(occurrencesFile ns, occurrencesText (occurrences.getD []))] w' := by
  obtain ⟨occurrences, served⟩ := occurred w.outside
  have told : (Cluster.listOccurrences ns).run site w =
      (.ok (occurrences.getD []), w.answered site (.listOccurrences ns)) := by
    rw [Cluster.listOccurrences, Act.run_bind, Cluster.run_ask_eq, served]
    rfl
  have asked := (Stores.refl site w).answered (.listOccurrences ns)
  rw [served] at asked
  obtain ⟨p, w', wrote, -, stored⟩ := writable.exists_stores List.mem_cons_self
    (occurrencesText (occurrences.getD [])) (writable.answered (.listOccurrences ns) w hw)
  refine ⟨occurrences, w', ?_, asked.trans stored⟩
  rw [Act.run_bind_of_ok _ told, Act.run_bind_of_ok _ wrote]
  rfl

omit [Timescale τ] in
/-- The logs of different containers are stored in different files, and none with what has
happened. -/
theorem apart_of_distinct {w : World τ σ} {ns : Json} {pods : List Cluster.Pod}
    (distinct : ((diagnosticFiles ns pods).map fun file => (fileAt site w.trial file).place).Nodup)
    {readings : List Reading} (read : readings.map Reading.source <+: containersOf pods)
    (text : String) :
    ∀ file ∈ (occurrencesFile ns, text) :: Reading.files ns readings,
      ∀ other ∈ (occurrencesFile ns, text) :: Reading.files ns readings,
        (fileAt site w.trial other.1).place = (fileAt site w.trial file.1).place →
          other = file := by
  let place (file : String) : List String := (fileAt site w.trial file).place
  let log (c : Json × Json) : List String := place (containerLogFile ns c.1 c.2)
  obtain ⟨alone, logs⟩ := List.nodup_cons.mp distinct
  rw [List.map_map] at alone logs
  have nodup : (readings.map fun r => log r.source).Nodup := by
    have first := (read.map log).sublist.nodup logs
    rwa [List.map_map] at first
  -- no log is stored where it is told what has happened
  have aside : ∀ file ∈ Reading.files ns readings, place file.1 ≠ place (occurrencesFile ns) := by
    intro file member same
    obtain ⟨r, hr, stored⟩ := Reading.mem_files_iff.mp member
    refine alone (List.mem_map.mpr ⟨r.source, read.subset (List.mem_map_of_mem hr), ?_⟩)
    rw [Reading.eq_of_file? stored] at same
    exact same
  intro file member other among same
  rcases List.mem_cons.mp member with rfl | member <;>
    rcases List.mem_cons.mp among with rfl | among
  · rfl
  · exact absurd same (aside other among)
  · exact absurd same.symm (aside file member)
  · obtain ⟨r, hr, stored⟩ := Reading.mem_files_iff.mp member
    obtain ⟨r', hr', stored'⟩ := Reading.mem_files_iff.mp among
    rw [Reading.eq_of_file? stored, Reading.eq_of_file? stored'] at same
    obtain rfl : r' = r := List.inj_on_of_nodup_map nodup hr' hr same
    exact Option.some.inj (stored'.symm.trans stored)

/-- **What is stored of a namespace.**  Suppose that the pods can be listed, and what has happened;
that each read of a log ends with a text, or with a fault that can be dealt with; that no two files
are one, and that they can be written.  Then the logs are read one after the other, and each text
is found in the file of its container; no other text has changed.  If no answer was awaited in
vain, all logs were read, and what has happened is stored too.  But the first read that was awaited
in vain is the last one: its fault is the end, and nothing is stored behind it. -/
theorem storeDiagnostics_stores (site : Site τ σ) (w : World τ σ) (ns : Json)
    (listed : Option (List Cluster.Pod)) (P : World τ σ → Prop)
    (pods : (site.answer (.listPods ns .null) w.outside).1.outcome = .served listed)
    (occurred : ∀ s, ∃ occurrences,
      (site.answer (.listOccurrences ns) s).1.outcome = .served occurrences)
    (readable : ∀ c ∈ containersOf (listed.getD []), ∀ s,
      IsReading (site.answer (.readPodLog ns c.1 c.2) s).1.outcome)
    (distinct : ((diagnosticFiles ns (listed.getD [])).map
      fun file => (fileAt site w.trial file).place).Nodup)
    (writable : Writable site (diagnosticFiles ns (listed.getD [])) P) (begun : P w) :
    let ended := (storeDiagnostics ns).run site w
    ∃ readings calls stored, (∀ r ∈ readings, IsReading r.outcome) ∧
      Stores site w
        (calls ++ Reading.calls ns readings ++ [.called (.listPods ns .null) (.served listed)])
        (stored ++ Reading.files ns readings) ended.2 ∧
      (∀ file ∈ stored ++ Reading.files ns readings,
        ended.2.volume.text? (fileAt site w.trial file.1).place = some file.2) ∧
      (∀ place, (∀ file ∈ stored ++ Reading.files ns readings,
          (fileAt site w.trial file.1).place ≠ place) →
        ended.2.volume.text? place = w.volume.text? place) ∧
      ((ReadAll (containersOf (listed.getD [])) readings ∧ ended.1 = .ok () ∧ ∃ occurrences,
          calls = [.called (.listOccurrences ns) (.served occurrences)] ∧
          stored = [(occurrencesFile ns, occurrencesText (occurrences.getD []))]) ∨
        ∃ last cause, CutShort (containersOf (listed.getD [])) readings last cause ∧
          ended.1 = .error (lateLog ns last.pod cause) ∧ calls = [] ∧ stored = []) := by
  intro ended
  have began : ended = _ := run_storeDiagnostics_of_listed pods
  have asked := (Stores.refl site w).answered (.listPods ns .null)
  rw [pods] at asked
  have kept := writable.answered (.listPods ns .null) w begun
  obtain ⟨readings, read, logged, ends⟩ := run_storeContainerLogs writable
    (containersOf (listed.getD [])) kept
    (fun c member => List.mem_cons_of_mem _ (List.mem_map_of_mem member)) readable
  have logs := asked.trans logged
  rw [List.append_nil] at logs
  rw [Act.run_bind] at began
  -- the logs come first, and only if none of them was awaited in vain what has happened follows
  rcases ran : (Act.forEach (fun c : Json × Json => storeContainerLog ns c.1 c.2)
    (containersOf (listed.getD []))).run site (w.answered site (.listPods ns .null))
    with ⟨f | _, w₁⟩
  · rw [ran] at ends logs began
    rcases ends with ⟨-, impossible, -⟩ | ⟨last, cause, short, failed⟩
    · cases impossible
    · have apart := apart_of_distinct distinct short.containers ""
      rw [began]
      refine ⟨readings, [], [], read, logs, fun file member => ?_, fun place => logs.text_of_ne,
        .inr ⟨last, cause, short, failed, rfl, rfl⟩⟩
      exact logs.text_of_mem (fun file member other among =>
        apart file (List.mem_cons_of_mem _ member) other (List.mem_cons_of_mem _ among)) member
  · rw [ran] at ends logs began
    rcases ends with ⟨whole, -, hw₁⟩ | ⟨last, cause, short, impossible⟩
    · obtain ⟨occurrences, w', behind, stores⟩ :=
        exists_storedOccurrences writable occurred hw₁
      have all := logs.trans stores
      have done : ended = (.ok (), w') := began.trans behind
      have apart := apart_of_distinct distinct ⟨[], by rw [whole.containers, List.append_nil]⟩
        (occurrencesText (occurrences.getD []))
      rw [done]
      exact ⟨readings, _, _, read, all, fun file => all.text_of_mem apart,
        fun place => all.text_of_ne, .inl ⟨whole, rfl, occurrences, rfl, rfl⟩⟩
    · cases impossible

/-- A pod of a Ray head and one of a Ray worker, each with one container. -/
def twoPods : List Cluster.Pod :=
  [{ name := .text "head", containers := [.text "ray-head"] },
    { name := .text "worker", containers := [.text "ray-worker"] }]

/-- The answers of a cluster with two pods, where the log of the first one is read as given. -/
def twoPodAnswer (first : Outcome Json) :
    {f : Cluster.Form} → Cluster.Call f → Outcome f.Carrier
  | _, .listPods _ _ => .served (some twoPods)
  | _, .readPodLog _ (.text "head") _ => first
  | _, .readPodLog _ _ _ => .served (.text "worker logs")
  | _, .listOccurrences _ => .served none
  | _, _ => .refused (.plain .unreachable "unreachable")

def twoPodSite (first : Outcome Json) : Site Number Unit :=
  { Cluster.silentSite with answer c s := (⟨.int 0, twoPodAnswer first c⟩, s) }

/-- A trial that has noted its directory, with all directories for the diagnostics of a
namespace. -/
def preparedWorld : World Number Unit :=
  { Cluster.silentWorld.noted fun own =>
      { own with outputDirectory := some (Path.ofText "out") } with
    volume :=
      ⟨.directory "out" (.directory "test-ns" (.directory "pods" .empty .empty) .empty) .empty⟩ }

/-- Where nothing is in the way, such a trial can write all files that there is room for. -/
theorem exists_writable_preparedWorld {site : Site Number Unit} {files : List String}
    (free : ∀ action s, (site.obstacle action s).1 = none)
    (plain : ∀ file ∈ files, ((Path.ofText "out").join (Path.ofText file)).names.any
      (·.toList.contains '\x00') = false)
    (room : ∀ file ∈ files, preparedWorld.volume.HasRoom
      ((Path.ofText "out").join (Path.ofText file))) :
    ∃ P : World Number Unit → Prop, Writable site files P ∧ P preparedWorld :=
  ⟨_, writable_of_hasRoom free plain, rfl, room⟩

/-- All files for the diagnostics of two pods can be written. -/
theorem exists_writable_twoPods (first : Outcome Json) : ∃ P : World Number Unit → Prop,
    Writable (twoPodSite first) (diagnosticFiles (.text "test-ns") twoPods) P ∧
      P preparedWorld :=
  exists_writable_preparedWorld (fun _ _ => rfl) (by decide +kernel) (by decide +kernel)

/-- A cluster in which the first log cannot be read. -/
def flawedSite : Site Number Unit := twoPodSite (.refused (.plain .unreachable "unreachable"))

/-- The first log cannot be read, and all else is stored. -/
theorem storeDiagnostics_stores_twoPods :
    ((storeDiagnostics (.text "test-ns")).run flawedSite preparedWorld).1.toOption = some () ∧
      ∃ readings, ReadAll (containersOf twoPods) readings ∧
        ∀ r ∈ readings, ∀ log, r.outcome = .served (.text log) →
          ((storeDiagnostics (.text "test-ns")).run flawedSite preparedWorld).2.volume.text?
            (fileAt flawedSite preparedWorld.trial
              (containerLogFile (.text "test-ns") r.pod r.container)).place = some log := by
  have done : ((storeDiagnostics (.text "test-ns")).run flawedSite preparedWorld).1.toOption =
      some () := by decide +kernel
  have readable : ∀ c ∈ containersOf twoPods, ∀ s,
      IsReading (flawedSite.answer (.readPodLog (.text "test-ns") c.1 c.2) s).1.outcome := by
    intro c member s
    obtain rfl | rfl : c = (.text "head", .text "ray-head") ∨
        c = (.text "worker", .text "ray-worker") := by
      simpa [containersOf, twoPods] using member
    · exact rfl
    · exact ⟨_, rfl⟩
  have distinct : ((diagnosticFiles (.text "test-ns") twoPods).map
      fun file => (fileAt flawedSite preparedWorld.trial file).place).Nodup := by decide +kernel
  obtain ⟨P, writable, begun⟩ :=
    exists_writable_twoPods (.refused (.plain .unreachable "unreachable"))
  obtain ⟨readings, calls, stored, -, -, kept, -, ends⟩ :=
    storeDiagnostics_stores flawedSite preparedWorld (.text "test-ns") (some twoPods) P rfl
      (fun _ => ⟨_, rfl⟩) readable distinct writable begun
  rcases ends with ⟨whole, -⟩ | ⟨last, cause, -, failed, -⟩
  · refine ⟨done, readings, whole, fun r member log served => ?_⟩
    have file : r.file? (.text "test-ns") =
        some (containerLogFile (.text "test-ns") r.pod r.container, log) := by
      rw [Reading.file?, served]
    have among := List.mem_append_right stored (Reading.mem_files_iff.mpr ⟨r, member, file⟩)
    have found := kept _ among
    dsimp only at found
    exact found
  · cases done.symm.trans (congrArg Except.toOption failed)

/-- The answer with the first log is not awaited any longer.  The second log could be read and all
files could be written, but nothing is stored. -/
theorem storeDiagnostics_losesLogs :
    let site := twoPodSite (.late (.plain .awaitTimedOut ""))
    let ended := (storeDiagnostics (.text "test-ns")).run site preparedWorld
    (∃ P : World Number Unit → Prop,
        Writable site (diagnosticFiles (.text "test-ns") twoPods) P ∧ P preparedWorld) ∧
      (∀ s, (site.answer (.readPodLog (.text "test-ns") (.text "worker") (.text "ray-worker"))
        s).1.outcome = .served (.text "worker logs")) ∧
      ended.1 = .error (lateLog (.text "test-ns") (.text "head") (.plain .awaitTimedOut "")) ∧
      filesWritten ended.2.record = [] ∧ ended.2.volume = preparedWorld.volume :=
  ⟨exists_writable_twoPods _, fun _ => rfl, rfl, rfl, rfl⟩

end Trial

end TrialRun
