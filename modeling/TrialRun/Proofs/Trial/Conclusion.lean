import TrialRun.Proofs.Trial.Deferral
import TrialRun.Proofs.Trial.Output

/-!
# How a trial is concluded

A trial that has failed says where its output is before it is cleaned up, and makes the directory
for it if none was noted yet.  Making a directory can fail, and nothing stands between that fault
and the end of the trial.

So what was put off is done unless two things come together: the trial has failed without ever
having noted its directory, and now there is none to be had.  Then the fault of the directory is the
end of the trial, and all that was put off stays so (`Trial.conclude_cleansUp`).
-/

set_option autoImplicit false

namespace TrialRun.Trial

variable {τ σ : Type}

/-! ## Saying where the output is -/

/-- What a trial says before it is cleaned up: a failed one says where its output is. -/
def announce (report : Option Report) : Act τ σ Unit := do
  if report = some .failed then
    setFailed true
    let directory ← outputPath
    Act.log .info s!"Test {(← Act.trial).name} failed, diagnostics are in {directory.text}"

/-- The end of a trial is what it says, and then cleaning up. -/
theorem conclude_eq [Timescale τ] (report : Option Report) :
    (conclude report : Act τ σ Unit) = (announce report >>= fun _ => cleanup) := by
  funext site w
  show (conclude report).run site w = (announce report >>= fun _ => cleanup).run site w
  unfold conclude announce
  by_cases failed : report = some .failed
  · simp only [if_pos failed, Act.run_bind]
    rcases (setFailed true : Act τ σ Unit).run site w with ⟨_ | _, w₁⟩
    · rfl
    · dsimp only
      rcases (outputPath : Act τ σ Path).run site w₁ with ⟨_ | directory, w₂⟩ <;> rfl
  · simp only [if_neg failed]
    rfl

theorem announce_moves {R : World τ σ → World τ σ → Prop} (h : Everyday R)
    (failed : ∀ w, R w (w.noted fun own => { own with failed := true }))
    (report : Option Report) : (announce report).Moves R := by
  refine Calm.ite (h.bind (fun _ w => failed w) fun _ => ?_) (h.pure ())
  exact h.bind h.outputPath fun _ => h.bind h.trial fun _ => h.log _ _

/-- Only a failed trial that has not noted its directory can fail to say where its output is. -/
theorem unnoted_of_announce {site : Site τ σ} {w : World τ σ} {report : Option Report} {f : Fault}
    (failed : ((announce report).run site w).1 = .error f) :
    report = some .failed ∧ w.trial.outputDirectory = none := by
  unfold announce at failed
  by_cases reported : report = some .failed
  · refine ⟨reported, ?_⟩
    rw [if_pos reported] at failed
    cases noted : w.trial.outputDirectory with
    | none => rfl
    | some directory =>
      have known : (w.noted fun own => { own with failed := true }).trial.outputDirectory =
        some directory := noted
      rw [setFailed, Act.run_bind_of_ok _ (Act.run_note site w _),
        Act.run_bind_of_ok _ (run_outputPath_of_noted known)] at failed
      cases failed
  · rw [if_neg reported] at failed
    cases failed

/-! ## Cleaning up behind it -/

variable [Timescale τ]

/-- **A trial is cleaned up unless it has failed and there is no place for its output.**  What it
says before puts nothing off, begins nothing and makes no call.  If it can be said, the rest is
cleaning up: everything that was put off is begun, and only a fault that nothing may deal with ends
it before.  If it cannot be said, the trial has failed and had no directory noted; then its fault
ends the trial, and all that was put off stays so. -/
theorem conclude_cleansUp (site : Site τ σ) (w : World τ σ) (report : Option Report) :
    let announced := (announce report).run site w
    let concluded := (conclude report).run site w
    (announced.2.trial.pending = w.trial.pending ∧ w.Grows Event.IsEveryday announced.2) ∧
    (announced.1 = .ok () ∧
        (∃ t, Does site (.step .cleanup) (Account.start announced.2) concluded.1 t ∧
          t.world = concluded.2 ∧
          (concluded.1 = .ok () →
            ∀ p ∈ (Account.start announced.2).pending, p.1 ∈ Deferral.started t.story)) ∧
        (∀ f, concluded.1 = .error f → f.isOrdinary = false) ∨
      (report = some .failed ∧ w.trial.outputDirectory = none) ∧
        ∃ f, announced.1 = .error f ∧ concluded = (.error f, announced.2)) := by
  have kept := announce_moves tolerant_keepsPending.toEveryday tolerant_keepsPending.failed
    report site w
  have everyday := everyday_grows (σ := σ) fun (e : Event τ) => id
  have quiet := announce_moves everyday (fun w => everyday.refl w) report site w
  have parts : (conclude report).run site w = (announce report >>= fun _ => cleanup).run site w :=
    congrArg (Act.run · site w) (conclude_eq report)
  rw [Act.run_bind] at parts
  dsimp only
  rw [parts]
  refine ⟨⟨kept, quiet⟩, ?_⟩
  -- a report that fails is the end, before anything that was put off is begun
  rcases said : (announce report).run site w with ⟨f | _, u⟩
  · exact .inr ⟨unnoted_of_announce (congrArg Prod.fst said), f, rfl, rfl⟩
  · refine .inl ⟨rfl, cleanup_begins site u, fun f ended => ?_⟩
    rcases cleanup_ends site u with ⟨well, -⟩ | ⟨g, stopped, strange⟩
    · exact absurd (well.symm.trans ended) nofun
    · obtain rfl : g = f := Except.error.inj (stopped.symm.trans ended)
      exact strange

/-- A site whose disk is full. -/
def fullSite : Site Number Unit :=
  { Cluster.silentSite with
    obstacle _ s := (some (.plain (.system none) "[Errno 28] No space left on device"), s) }

/-- A trial in which the deletion of a namespace is put off. -/
def indebtedWorld : World Number Unit :=
  Cluster.silentWorld.noted fun own => { own with pending := [.deleteTestNamespace "test-ns-1"] }

/-- A failed trial on a full disk leaves its namespace behind, and never asks to delete it. -/
theorem conclude_leavesNamespace :
    let concluded := (conclude (some .failed)).run fullSite indebtedWorld
    concluded.1 = .error (.plain (.system none) "[Errno 28] No space left on device") ∧
      concluded.2.trial.pending = [.deleteTestNamespace "test-ns-1"] ∧
      concluded.2.record = [] := by
  refine ⟨?_, ?_, ?_⟩ <;> rfl

end TrialRun.Trial
