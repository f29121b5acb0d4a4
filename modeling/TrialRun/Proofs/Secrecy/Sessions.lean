import TrialRun.Proofs.Secrecy.Clients
import TrialRun.Proofs.Trial.Rules

/-!
# Sessions under two keys

No step but the one that asks for the token sees the keys.  A step ends alike in both runs: with the
same fault, or with results that are the same but for the header in a client that the trial has made
for itself (`SameResult`).  This is by induction on the bound of `Step.exec`, and carries over to
sessions, whose steps go on after a fault of an earlier one (`Trial.answers`).
-/

set_option autoImplicit false

namespace TrialRun

variable {τ σ α β : Type}

/-- Results of steps that differ at most in the header of a client that the trial has made for
itself.  A guarded body gives the results of its steps in a list. -/
inductive SameResult (token token' : Option String) : Json → Json → Prop where
  | same (v : Json) : SameResult token token' v v
  | client (address : String) :
    SameResult token token' (Dashboard.connect address token false).toJson
      (Dashboard.connect address token' false).toJson
  | list {vs vs' : List Json} : List.Forall₂ (SameResult token token') vs vs' →
    SameResult token token' (.list vs) (.list vs')

/-- All steps are discreet if each of them is. -/
theorem Step.allDiscreet_iff {steps : List (Step τ)} :
    Step.AllDiscreet steps ↔ ∀ step ∈ steps, step.IsDiscreet := by
  induction steps with
  | nil => simp [Step.AllDiscreet]
  | cons step rest ih => simp [Step.AllDiscreet, ih]

namespace Comparison

variable {C : Comparison τ σ} {R : α → β → Prop}

/-- The results of a step in both runs. -/
def SameResult (C : Comparison τ σ) : Json → Json → Prop := TrialRun.SameResult C.token C.token'

/-- What a step does is alike in both runs, if no step in it asks for the token. -/
def KeepsStill (C : Comparison τ σ) (exec : Step τ → Act τ σ Json) : Prop :=
  ∀ step : Step τ, step.IsDiscreet → C.Twin C.SameResult (exec step) (exec step)

namespace Twin

/-- Results that are not used need not be related. -/
theorem forget {a : Act τ σ α} {b : Act τ σ β} (h : C.Twin R a b) :
    C.Twin Eq (do let _ ← a) (do let _ ← b) := bind h fun _ _ _ => pure rfl

/-- A trial keeps its own client in mind, for the queries that follow. -/
theorem keep {d d' : Dashboard} (same : C.SameClient d d') :
    C.Twin Eq (Act.note fun t => { t with dashboard := some d } : Act τ σ Unit)
      (Act.note fun t => { t with dashboard := some d' }) :=
  change fun w w' alike => ⟨alike.clock, alike.outside, alike.volume,
    ⟨by rw [alike.trial.same], .some same, alike.trial.discreet⟩, alike.record⟩

/-- A blind act makes one result. -/
theorem result {a : Act τ σ Json} (h : C.Blind a) : C.Twin C.SameResult a a :=
  mono h fun v _ same => same ▸ .same v

end Twin

/-! ## Putting off and guarding -/

/-- What was put off last is the same step, and discreet. -/
theorem Twin.takeLast :
    C.Twin (fun last last' => last' = last ∧ ∀ step ∈ last, step.IsDiscreet)
      (Trial.takeLast : Act τ σ (Option (Step τ))) Trial.takeLast := by
  refine bind trial fun t t' alike => ?_
  have same : t'.pending = t.pending := by rw [alike.same]
  have discreet := alike.discreet
  rw [same]
  cases put : t.pending with
  | nil => exact pure ⟨rfl, nofun⟩
  | cons step rest =>
    rw [put] at discreet
    refine bind (Blind.note (fun _ _ => rfl) fun _ _ => discreet.2) fun _ _ _ => pure ⟨rfl, ?_⟩
    rintro _ ⟨⟩
    exact discreet.1

/-- What was put off is done alike, by induction on the bound; the results are of no use. -/
theorem Blind.drain {exec : Step τ → Act τ σ Json} (still : C.KeepsStill exec) (bound : Nat) :
    C.Blind (Trial.drain exec bound) := by
  induction bound with
  | zero => exact pure ()
  | succ bound ih =>
    refine Twin.bind Twin.takeLast fun last last' same => ?_
    obtain ⟨rfl, discreet⟩ := same
    cases last' with
    | none => exact pure ()
    | some step =>
      exact bind (warning _ (Twin.forget (still step (discreet step rfl)))) fun _ => ih

namespace Twin

/-- Steps in a row give results that are the same one by one. -/
theorem sequence {exec : Step τ → Act τ σ Json} (still : C.KeepsStill exec) {steps : List (Step τ)}
    (discreet : Step.AllDiscreet steps) :
    C.Twin (List.Forall₂ C.SameResult) (Trial.sequence exec steps) (Trial.sequence exec steps) := by
  induction steps with
  | nil => exact pure .nil
  | cons step rest ih =>
    refine bind (still step discreet.1) fun v v' same => ?_
    exact bind (ih discreet.2) fun vs vs' others => pure (.cons same others)

/-- Guarded bodies fail with one fault or end with related values. -/
theorem onFailure {diagnostics : List (Act τ σ Unit)} {a : Act τ σ α} {b : Act τ σ β}
    (looks : ∀ d ∈ diagnostics, C.Blind d) (body : C.Twin R a b) :
    C.Twin R (Trial.onFailure diagnostics a) (Trial.onFailure diagnostics b) := by
  have looked : C.Blind (Act.forEach Trial.diagnose diagnostics) :=
    Blind.forEach fun d listed => Blind.warning _ (looks d listed)
  refine bind (attempt body) fun r r' ended => ?_
  cases ended with
  | value related => exact pure related
  | fault f =>
    exact bind (Blind.setFailed true) fun _ _ _ => bind looked fun _ _ _ => fail f

/-! ## Steps -/

variable [Timescale τ]

omit [Timescale τ] in
/-- A client is kept for the queries that follow. -/
theorem connected {a : Act τ σ Dashboard} (h : C.Twin C.SameClient a a) :
    C.Twin C.SameResult (Step.connected a) (Step.connected a) := by
  refine bind h fun d d' same => ?_
  refine bind (Q := C.SameResult) (keep same) fun _ _ _ => pure ?_
  cases same with
  | same d => exact .same _
  | own address => exact .client address

/-- By induction on the bound, and for each step by what it does. -/
theorem exec (fair : C.IsFair) (bound : Nat) : C.KeepsStill (Step.exec (σ := σ) bound) := by
  induction bound with
  | zero => exact fun step _ => pure (.same .null)
  | succ bound ih =>
    have done : ∀ {a : Act τ σ Unit}, C.Blind a → C.Twin C.SameResult (Step.noResult a)
      (Step.noResult a) := fun h => result (Blind.bind h fun _ => Blind.pure _)
    intro step discreet
    cases step with
    | mark v => exact done (Blind.record _)
    | raise f => exact fail f
    | advance span => exact done (Blind.spend span)
    | setFailed failed => exact done (Blind.setFailed failed)
    | setName name => exact done (Blind.note (fun _ _ => rfl) fun _ => id)
    | setPollingInterval interval => exact done (Blind.note (fun _ _ => rfl) fun _ => id)
    | outputDirectory => exact result (Blind.bind Blind.outputPath fun _ => Blind.pure _)
    | bearerToken => exact discreet.elim
    | cluster op => exact result (Blind.operation op)
    | connect address token verified => exact connected (pure (.same _))
    | connectAsTrial url => exact connected (connect fair url)
    | query q =>
      refine bind trial fun t t' alike => mono (query fair alike.dashboard q) ?_
      rintro v _ rfl
      exact .same v
    | wait w => exact result (Blind.waiting w)
    | newTestNamespace name =>
      exact result (Blind.bind (Blind.newTestNamespace name) fun _ => Blind.pure _)
    | deleteTestNamespace name => exact done (Blind.deleteTestNamespace name)
    | createResourceFlavor spec => exact result (Blind.createResourceFlavor spec)
    | createClusterQueue spec => exact result (Blind.createClusterQueue spec)
    | createQuotaQueue flavor accelerator => exact result (Blind.createQuotaQueue _ _)
    | createLocalQueue ns clusterQueue asDefault => exact result (Blind.createLocalQueue _ _ _)
    | dashboardUrl ns rayCluster =>
      exact result (Blind.bind (Blind.dashboardUrl ns rayCluster) fun _ => Blind.pure _)
    | writeJobLogs job =>
      refine bind trial fun t t' alike => bind (writeJobLogs fair alike.dashboard job) ?_
      rintro p _ rfl
      exact pure (.same _)
    | writeOutput fileName contents =>
      exact result (Blind.bind (Blind.writeNamed fileName contents) fun _ => Blind.pure _)
    | troubleshootJob job => exact done (Blind.troubleshootJob job)
    | troubleshootRayCluster ns name => exact done (Blind.troubleshootRayCluster ns name)
    | storeDiagnostics ns => exact done (Blind.storeDiagnostics ns)
    | defer step => exact done (Blind.defer discreet)
    | cleanup => exact done (Blind.drain ih bound)
    | onFailure body diagnostics =>
      refine bind (onFailure ?_ (sequence ih discreet.1)) fun vs vs' same => pure (.list same)
      intro d listed
      obtain ⟨step, among, rfl⟩ := List.mem_map.mp listed
      exact forget (ih step (Step.allDiscreet_iff.mp discreet.2 step among))

/-- The bound that a step runs with is the same in both runs. -/
theorem step (fair : C.IsFair) {step : Step τ} (discreet : step.IsDiscreet) :
    C.Twin C.SameResult (step.run : Act τ σ Json) step.run := by
  refine bind trial fun t t' alike => ?_
  rw [alike.same]
  exact exec fair _ step discreet

end Twin

variable [Timescale τ]

namespace Blind

/-- Cleaning up has no result to be compared. -/
theorem cleanup (fair : C.IsFair) : C.Blind (Trial.cleanup : Act τ σ Unit) :=
  Twin.forget (Twin.step fair (trivial : Step.IsDiscreet .cleanup))

/-- The end of a trial logs its name, notes its failure and cleans up, all of it blind. -/
theorem conclude (fair : C.IsFair) (report : Option Report) :
    C.Blind (Trial.conclude report : Act τ σ Unit) := by
  refine ite ?_ (cleanup fair)
  refine bind (setFailed true) fun _ => bind outputPath fun directory => ?_
  exact trial_bind (fun t => bind (log _ _) fun _ => cleanup fair) fun _ _ => rfl

end Blind

/-- The steps of a session are answered alike one by one, whether they fail or not. -/
theorem Twin.answers (fair : C.IsFair) {steps : List (Step τ)} (discreet : Step.AllDiscreet steps) :
    C.Twin (List.Forall₂ (SameEnd C.SameResult)) (Trial.answers steps : Act τ σ _)
      (Trial.answers steps) := by
  induction steps with
  | nil => exact pure .nil
  | cons step rest ih =>
    refine bind (attempt (Twin.step fair discreet.1)) fun r r' ended => ?_
    exact bind (ih discreet.2) fun rs rs' others => pure (.cons ended others)

end Comparison

end TrialRun
