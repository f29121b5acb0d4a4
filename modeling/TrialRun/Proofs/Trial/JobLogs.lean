import TrialRun.Proofs.Act.Objections
import TrialRun.Proofs.Dashboard.Queries
import TrialRun.Proofs.Trial.Diagnostics
import TrialRun.Trial.DashboardAccess

/-!
# What is written of what a job has logged

To write the log of a job is to ask a dashboard for it and to write what was got.  Each part has its
own faults.  What keeps the answer from being read is the cause of one failure, but what is looked
for in it is looked for outside of that: an answer that is no object and a log that is no text come
to other faults (`Exchange.TellsLog`).  What is no text then is not written (`Json.unwritable?`); a
text is, unless the files object.

`Trial.jobLogs_delivered` tells all ends, and `Trial.jobLogs_untold` two answers that tell no log.
-/

set_option autoImplicit false

namespace TrialRun

variable {τ σ : Type}

/-! ## What is no text -/

/-- What writing has against a value that is not a text with bytes. -/
def Json.unwritable? : Json → Option Fault
  | .text _ => none
  | .brokenText codes => some (.plain .notEncodable (Text.encodingObjection codes))
  | v => some (.plain .badType s!"data must be str, not {v.kindName}")

namespace Trial

variable {site : Site τ σ}

theorem objects_outputPath : (outputPath : Act τ σ Path).Objects site := by
  have own : (Act.trial : Act τ σ (Trial τ)).Objects site := .trial fun _ => id
  have known : (Act.site : Act τ σ (Site τ σ)).Objects site := .site' fun _ => id
  have base : (outputBase : Act τ σ Path).Objects site := by
    refine known.bind fun s => ?_
    cases s.settings.outputDir with
    | none => exact Act.Objects.makeTemporary _
    | some base => exact .ite (fun _ => .pure fun _ => id) fun _ => Act.Objects.makeTemporary _
  refine own.bind fun t => ?_
  cases t.outputDirectory with
  | some p => exact .pure fun _ => id
  | none =>
    have notes (p : Path) :
        (Act.note fun own => { own with outputDirectory := some p } : Act τ σ Unit).Objects site :=
      .note fun _ => id
    have logs (text : String) : (Act.log .info text : Act τ σ Unit).Objects site :=
      .log fun _ => id
    refine base.bind fun base => own.bind fun t => (notes _).bind fun _ => ?_
    exact (Act.Objects.makeDirectory _).bind fun _ => (logs _).bind fun _ => .pure fun _ => id

/-- A text is written, if the files do not object; anything else comes to a fault in any case. -/
theorem ensures_writeOutput_objects (file : String) (contents : Json) :
    Act.Ensures site (fun _ => True) (writeOutput file contents)
      (fun _ _ => contents.unwritable? = none)
      fun f _ => site.Objects f ∨ contents.unwritable? = some f := by
  have objection {α : Type} {a : Act τ σ α} (h : a.Objects site) :
      Act.Ensures site (fun _ => True) a (fun _ _ => True)
        fun f _ => site.Objects f ∨ contents.unwritable? = some f :=
    h.mono (fun _ => id) (fun _ _ => id) fun _ _ => .inl
  refine (objection objects_outputPath).bind fun directory => ?_
  refine (objection (.makeDirectory _)).bind fun _ => ?_
  cases contents with
  | text s => exact (objection (.writeFile _ s)).bind fun _ => .pure fun _ _ => rfl
  | brokenText codes => exact (objection (.writeFile _ "")).bind fun _ => .fail fun _ _ => .inr rfl
  | _ => exact .fail fun _ _ => .inr rfl

/-- What is written of a value: the text that it is, into the file, unless the files object. -/
theorem ensures_writeOutput_value (site : Site τ σ) (w : World τ σ) (file : String)
    (contents : Json) : Act.Ensures site (· = w) (writeOutput file contents)
      (fun p u => p = fileAt site w.trial file ∧
        ∃ s, contents = .text s ∧ Stores site w [] [(file, s)] u)
      fun f _ => site.Objects f ∨ contents.unwritable? = some f := by
  have objections : Act.Ensures site _ _ _ _ := ensures_writeOutput_objects file contents
  cases contents with
  | text s =>
    exact ((ensures_writeOutput site w file s).and objections).mono (fun _ hw => ⟨hw, trivial⟩)
      (fun _ _ h => ⟨h.1.1, s, rfl, h.1.2⟩) fun _ _ h => h.2
  | _ =>
    refine objections.mono (fun _ _ => trivial) (fun _ _ writable => ?_) fun _ _ => id
    cases writable

/-- What comes of an act is written, if it is a value, in the world that the act has left. -/
theorem run_bind_writeOutput {a : Act τ σ Json} {w u : World τ σ} {file : String}
    {ended : Except Fault Path × World τ σ}
    (whole : ended = (a >>= writeOutput file).run site u)
    (kept : (a.run site u).2.trial = w.trial) :
    (∀ f, (a.run site u).1 = .error f → ended = (.error f, (a.run site u).2)) ∧
    ∀ v, (a.run site u).1 = .ok v → Ends
      (fun p u' => p = fileAt site w.trial file ∧
        ∃ s, v = .text s ∧ Stores site (a.run site u).2 [] [(file, s)] u')
      (fun f _ => site.Objects f ∨ v.unwritable? = some f) ended := by
  rw [whole, Act.run_bind]
  revert kept
  rcases a.run site u with ⟨f | v, u'⟩ <;> intro kept
  · refine ⟨fun _ failed => ?_, fun _ fetched => ?_⟩
    · cases failed
      rfl
    · cases fetched
  · refine ⟨fun _ failed => ?_, fun _ fetched => ?_⟩
    · cases failed
    cases fetched
    have written := (ensures_writeOutput_value site u' file v).ends u' rfl
    rw [fileAt, directoryAt, kept] at written
    exact written

end Trial

/-! ## Logs of jobs -/

/-- If there is a value in the exchange, it is an object, and its log is a text. -/
def Exchange.TellsLog (x : Exchange) : Prop :=
  ∀ v, x.value = .ok v → ∃ fields s, v = .object fields ∧
    (Json.lookup "logs" fields).getD (.text "") = .text s

/-- No fault of a body is beyond dealing with. -/
theorem Exchange.isOrdinary_of_value {x : Exchange} {f : Fault} (fault : x.value = .error f)
    (received : ∀ g, x = .failed g → g.isOrdinary = true) : f.isOrdinary = true := by
  cases x with
  | failed g =>
    cases fault
    exact received f rfl
  | errorStatus code =>
    cases fault
    rfl
  | response status body =>
    rw [value, Dashboard.bodyValue] at fault
    split at fault
    · cases fault
      rfl
    · split at fault <;> cases fault <;> rfl

/-- What a query for a log ends with is a text or a failure with its cause just if the exchange
tells a log. -/
theorem Query.Ends.tellsLog_iff {url : String} {job : Json} {x : Exchange}
    {result : Except Fault Json} (ends : (Query.jobLogs job).Ends url x result)
    (received : ∀ f, x = .failed f → f.isOrdinary = true) :
    x.TellsLog ↔ (∃ s, result = .ok (.text s)) ∨
      ∃ cause : Fault, result = .error (cause.leadsTo .failure s!"Failed to get {url}") := by
  cases ends with
  | logs read =>
    constructor
    · intro tells
      obtain ⟨fields, s, same, text⟩ := tells _ read
      cases same
      exact .inl ⟨s, congrArg _ text⟩
    · rintro (⟨s, text⟩ | ⟨cause, failure⟩) v got
      · cases read.symm.trans got
        exact ⟨_, s, rfl, Except.ok.inj text⟩
      · cases failure
  | noLogs read shapeless =>
    constructor
    · intro tells
      obtain ⟨fields, s, same, -⟩ := tells _ read
      exact absurd same (shapeless fields)
    · rintro (⟨s, text⟩ | ⟨cause, failure⟩)
      · cases text
      · have kinds := congrArg (·.kind) (Except.error.inj failure)
        cases kinds
  | failed _ fault _ =>
    refine ⟨fun _ => .inr ⟨_, rfl⟩, fun _ v got => ?_⟩
    cases fault.symm.trans got
  | interrupted _ fault strange =>
    rw [Exchange.isOrdinary_of_value fault received] at strange
    cases strange

namespace Trial

variable [Timescale τ]

/-- What is got is written. -/
theorem run_writeJobLogs (job : Json) (site : Site τ σ) (w : World τ σ)
    (dashboard : Option Dashboard) :
    (writeJobLogs dashboard job).run site w =
      ((Query.jobLogs job).run dashboard >>= writeOutput (jobLogFile job)).run site
        (w.recorded (.log .info s!"Retrieving Ray job {job.display} logs")) :=
  rfl

theorem trial_of_run_jobLogs (d : Dashboard) (job : Json) (site : Site τ σ) (w : World τ σ) :
    (((Query.jobLogs job).run (some d)).run site w).2.trial = w.trial := by
  cases asked : d.request (d.address ++ (Query.jobLogs job).path) with
  | ok r =>
    rw [(Query.run_ends site w (.jobLogs job) asked).1]
    rfl
  | error f =>
    have ran : ((Query.jobLogs job).run (some d)).run site w = _ :=
      Dashboard.run_jobLogs_of_unasked site w asked
    rw [ran]

/-- **Logs of jobs.**  A client that cannot make its request asks nothing.  Otherwise it makes one,
and what it gets is as the exchange tells: a text or a failure with its cause, just if the exchange
tells a log and the request was not interrupted.

A fault ends it all, and nothing is written.  A value is written if it is a text, that text and
nothing else, into the file of the job; if not, the files object or the value is no text. -/
theorem jobLogs_delivered (d : Dashboard) (job : Json) (site : Site τ σ) (w : World τ σ) :
    let url := d.address ++ (Query.jobLogs job).path
    let begun := w.recorded (.log .info s!"Retrieving Ray job {job.display} logs")
    let got := ((Query.jobLogs job).run (some d)).run site begun
    let wrote := (writeJobLogs (some d) job).run site w
    (∀ f, d.request url = .error f → got = (.error f, begun) ∧ f.kind = .badValue) ∧
    (∀ r, d.request url = .ok r →
      let x := (site.react r w.outside).1.exchange
      got.2 = begun.afterRequest site r ∧ (Query.jobLogs job).Ends url x got.1 ∧
      ((∀ f, x = .failed f → f.isOrdinary = true) → (x.TellsLog ↔ (∃ s, got.1 = .ok (.text s)) ∨
        ∃ cause : Fault, got.1 = .error (cause.leadsTo .failure s!"Failed to get {url}")))) ∧
    (∀ f, got.1 = .error f → wrote = (.error f, got.2)) ∧
    ∀ v, got.1 = .ok v → Ends
      (fun p u => p = fileAt site w.trial (jobLogFile job) ∧
        ∃ s, v = .text s ∧ Stores site got.2 [] [(jobLogFile job, s)] u)
      (fun f _ => site.Objects f ∨ v.unwritable? = some f) wrote := by
  intro url begun got wrote
  refine ⟨fun f unasked => ?_, fun r asked => ?_, ?_⟩
  · exact ⟨Dashboard.run_jobLogs_of_unasked site begun unasked,
      Dashboard.kind_of_unasked unasked⟩
  · obtain ⟨after, ends⟩ := Query.run_ends site begun (.jobLogs job) asked
    exact ⟨after, ends, ends.tellsLog_iff⟩
  have same : w.recorded (.log .info s!"Retrieving Ray job {job.display} logs") = begun := rfl
  have whole := run_writeJobLogs job site w (some d)
  rw [same] at whole
  exact run_bind_writeOutput (a := (Query.jobLogs job).run (some d)) (w := w) (u := begun)
    whole (trial_of_run_jobLogs d job site begun)

/-- A dashboard answers with a text. -/
def answerOf (body : String) : Exchange := .response 200 body.toUTF8.data.toList

/-- The log of a job from a dashboard that answers with a list, and from one whose log is null.
Neither is a text or a failure with a cause. -/
theorem jobLogs_untold :
    let wrote (body : String) := ((writeJobLogs (some (Dashboard.connect "http://ray")) "j").run
      (Dashboard.answeringSite (answerOf body)) preparedWorld).1
    (wrote "[]" matches .error ⟨⟨.noAttribute, _⟩, _, _⟩) ∧
      wrote "\x7b\"logs\": null\x7d" matches .error ⟨⟨.badType, _⟩, _, _⟩ := by
  decide +kernel

end Trial

end TrialRun
