import TrialRun.Proofs.Scenario.Milestones

/-!
# Which steps pass which milestones

Each step of a scenario that is to pass a milestone does so whenever it ends with a value, by the
reply that it ends with.
-/

set_option autoImplicit false

namespace TrialRun

variable {τ σ : Type}

/-- The Ray cluster of a scenario goes by one name. -/
theorem Workload.RayCluster.name_toJson (c : RayCluster) :
    Workload.name c.toJson = .ok (.text rayClusterName) := by
  have named : ∀ labels : List (String × Json), labels = [] ∨ (∃ v, labels = [("labels", v)]) →
      (Json.ofFields ([("name", .text rayClusterName), ("namespace", c.ns)] ++ labels)).field
        "name" = .ok (.text rayClusterName) := by
    rintro labels (rfl | ⟨v, rfl⟩)
    · simp [Json.ofFields, Json.field, Json.lookup_insertField_of_ne, Json.lookup_insertField_self]
    · simp [Json.ofFields, Json.field, Json.lookup_insertField_of_ne, Json.lookup_insertField_self]
  have metadata : ∃ labels, (labels = [] ∨ ∃ v, labels = [("labels", v)]) ∧
      c.toJson.field "metadata" =
        .ok (.ofFields ([("name", .text rayClusterName), ("namespace", c.ns)] ++ labels)) := by
    refine ⟨if c.wrapped then []
      else [("labels", .ofFields [(queueNameLabel, c.localQueue)])], ?_, ?_⟩
    · split
      · exact .inl rfl
      · exact .inr ⟨_, rfl⟩
    · simp [toJson, Json.ofFields, Json.field, Json.lookup_insertField_of_ne,
        Json.lookup_insertField_self]
  obtain ⟨labels, shape, found⟩ := metadata
  rw [name, found]
  exact named labels shape

variable [Timescale τ]

namespace Act.Marks

/-- Who has a Ray cluster made knows its name from the server's answer. -/
theorem createRayCluster (ns body : Json) :
    (Trial.createRayCluster ns body : Act τ σ Json).Marks fun name e =>
      e.Creates ⟨.object .rayCluster, ns, name⟩ := by
  refine (createObject .rayCluster ns body).bind (fun made => ?_) ?_
  · apply everyday_grown.bind (everyday_grown.lift _)
    intro name
    exact everyday_grown.bind (everyday_grown.log _ _) fun _ => everyday_grown.pure _
  · rintro made name site w w' run e rfl
    obtain ⟨u, w₁, named, run⟩ := ok_of_run_bind run
    obtain ⟨-, w₂, -, run⟩ := ok_of_run_bind run
    rw [run_liftM] at named
    cases run
    exact Event.creates_of_named (Prod.mk.inj named).1

/-- The Ray cluster that the wait returns was read, and it was ready. -/
theorem waitUntilReady (ns name : Json) :
    (Trial.waitUntilReady ns name : Act τ σ Json).Marks fun v e =>
      e = .called (.getObject .rayCluster ns name) (.served v) ∧
        Workload.rayClusterState v = .ok (.text Workload.rayClusterReady) := by
  apply after (everyday_grown.log _ _)
  intro _
  refine (waitForJson (observant_grown.getObject _ _ _) (getObject _ _ _)).mono ?_
  rintro v e ⟨yes, served⟩
  obtain ⟨state, asked, yes⟩ := ok_of_bind yes
  cases Json.eq_text_of_agrees (Except.ok.inj yes)
  exact ⟨served, asked⟩

theorem waitUntilReady_shows (ns name : Json) :
    (Trial.waitUntilReady ns name : Act τ σ Json).Marks fun _ e => e.ShowsReady ns name :=
  (waitUntilReady ns name).mono fun v _ ⟨served, state⟩ => ⟨v, served, state⟩

theorem waitForAppWrapperRunning (ns : Json) (timeout : τ) :
    (Trial.waitForAppWrapperPhase ns Workload.appWrapperRunning timeout : Act τ σ Json).Marks
      fun _ e => e.ShowsRunning ns := by
  refine Marks.bind (m := fun _ e => e.ShowsRunning ns)
    ((waitForJson (observant_grown.listObjects _ _) (listObjects _ _)).mono ?_) ?_
    fun _ _ _ _ _ _ _ => id
  · rintro items e ⟨yes, v, served, held⟩
    obtain ⟨found, looked, yes⟩ := ok_of_bind yes
    obtain ⟨wrappers, listed, first⟩ := ok_of_bind looked
    obtain ⟨wrapper, rfl⟩ := Option.isSome_iff_exists.mp (Except.ok.inj yes)
    obtain ⟨member, phase, asked, agrees⟩ := Trial.mem_of_firstInPhase first
    cases Json.eq_text_of_agrees agrees
    exact ⟨v, served, items, wrappers, wrapper, held, listed, member, asked⟩
  · intro items
    apply everyday_grown.bind (everyday_grown.lift _)
    intro found
    cases found with
    | some wrapper => exact everyday_grown.pure _
    | none => exact everyday_grown.fail _

/-- The job that the wait returns was read in a phase in which it stays. -/
theorem waitForRayJobTerminal (ns name : Json) (timeout : τ) :
    (Trial.waitForRayJobTerminal ns name timeout : Act τ σ Json).Marks
      fun _ e => e.ShowsTerminal ns name := by
  apply after (everyday_grown.log _ _)
  intro _
  refine (waitForJson (observant_grown.getObject _ _ _) (getObject _ _ _)).mono ?_
  rintro v e ⟨yes, served⟩
  obtain ⟨status, asked, yes⟩ := ok_of_bind yes
  refine ⟨v, served, ?_⟩
  cases status with
  | text s => exact ⟨s, List.contains_iff_mem.mp (Except.ok.inj yes), asked⟩
  | _ => cases yes

/-- A list of none is an empty one. -/
theorem waitForNone {description : String} (type : ResourceType) (ns : Json) (timeout : τ) :
    (Trial.waitForJson description timeout (Cluster.listObjects type ns) fun items => do
      pure ((← items.size) == 0) : Act τ σ Json).Marks fun _ e => e.ShowsNone type ns := by
  refine (waitForJson (observant_grown.listObjects _ _) (listObjects _ _)).mono ?_
  rintro items e ⟨yes, v, served, held⟩
  obtain ⟨size, counted, yes⟩ := ok_of_bind yes
  have none : size = 0 := beq_iff_eq.mp (Except.ok.inj yes)
  exact ⟨v, served, items, held, none ▸ counted⟩

/-- The wait is over once a list of the Ray clusters was empty. -/
theorem waitForRayClustersDeleted (ns : Json) (timeout : τ) :
    (Trial.waitForRayClustersDeleted ns timeout : Act τ σ Unit).Marks
      fun _ e => e.ShowsNone .rayCluster ns :=
  after (everyday_grown.log _ _) fun _ =>
    (waitForNone .rayCluster ns timeout).bind (fun _ => everyday_grown.pure _)
      fun _ _ _ _ _ _ _ => id

theorem waitForAppWrappersDeleted (ns : Json) (timeout : τ) :
    (Trial.waitForAppWrappersDeleted ns timeout : Act τ σ Unit).Marks
      fun _ e => e.ShowsNone .appWrapper ns :=
  after (everyday_grown.log _ _) fun _ =>
    (waitForNone .appWrapper ns timeout).bind (fun _ => everyday_grown.pure _)
      fun _ _ _ _ _ _ _ => id

/-- No reply ends this wait: the fault does that tells of a missing object. -/
theorem waitForRayClusterGone (ns name : Json) (timeout : τ) :
    (Trial.waitForRayClusterGone ns name timeout : Act τ σ Unit).Marks
      fun _ e => e.ShowsGone .rayCluster ns name := by
  apply after (everyday_grown.log _ _)
  intro _
  refine (waitForMissing .rayCluster ns name).bind (fun _ => everyday_grown.pure _) ?_
  rintro _ _ _ _ _ _ e ⟨cause, o, called, ended, missing⟩
  exact ⟨cause, o, called, ended, missing⟩

/-- What a query gives was read from an answer to its request. -/
theorem fetch (r : Dashboard.Request) :
    (Dashboard.fetch r : Act τ σ Json).Marks fun answer e => ∃ status body,
      e = .requested r (.response status body) ∧ Dashboard.bodyValue body = .ok answer := by
  refine (request r).bind (fun x => ?_) fun x answer site w w' run e met => ?_
  · cases x with
    | response status body => exact everyday_grown.lift _
    | errorStatus code => exact everyday_grown.fail _
    | failed f => exact everyday_grown.fail f
  · cases x with
    | response status body =>
      rw [run_ofExcept] at run
      exact ⟨status, body, met, (Prod.mk.inj run).1⟩
    | errorStatus code => cases run
    | failed f => cases run

/-- Logs that are given were read from the answer that a job's logs were asked of. -/
theorem jobLogs (d : Dashboard) (job : Json) :
    (d.jobLogs job : Act τ σ Json).Marks fun logs e => e.ShowsLogs job logs := by
  have answered : (d.get s!"/api/jobs/{job.display}/logs" : Act τ σ Json).Marks fun answer e =>
      ∃ r status body, d.request (d.address ++ s!"/api/jobs/{job.display}/logs") = .ok r ∧
        e = .requested r (.response status body) ∧ Dashboard.bodyValue body = .ok answer := by
    refine lift_bind fun r asked => ((fetch r).rescue _).mono ?_
    rintro answer e ⟨status, body, requested, value⟩
    exact ⟨r, status, body, asked, requested, value⟩
  refine answered.lift ?_
  rintro answer logs held e ⟨r, status, body, asked, rfl, value⟩
  exact ⟨⟨d, asked⟩, status, body, answer, rfl, value, held⟩

omit [Timescale τ] in
/-- What is written as output stands in the output directory, and it is a text. -/
theorem writeOutput (fileName : String) (contents : Json) :
    (Trial.writeOutput fileName contents : Act τ σ Path).Marks fun _ e =>
      ∃ (s : String) (directory : Path), contents = .text s ∧
        e = .wrote (directory.join (Path.ofText fileName)) s := by
  apply after everyday_grown.outputPath
  intro directory
  apply after (everyday_grown.makeDirectory _)
  intro _
  cases contents with
  | text s =>
    apply (writeFile _ s).bind (fun _ => everyday_grown.pure _)
    intro _ _ _ _ _ _ e wrote
    exact ⟨s, directory, rfl, wrote⟩
  | brokenText codes => exact after (everyday_grown.writeFile _ _) fun _ => fail _
  | _ => exact fail _

end Act.Marks

end TrialRun
