import TrialRun.Proofs.Trial.Steps

/-!
# The rules of steps

Steps lead to other steps: to those in them, and to those that were put off.  How deep they lead is
bounded when they are run; here the same is told by rules and without any bound, as a relation
between a task, what there is before and behind it, and how it ends (`Does`).

The rules keep an account of what is put off (`Account`): each time a step is put off it gets a
number of its own, and there is a story of what was put off, of what was begun, and of how cleaning
up has ended.  The account tells nothing to the trial; it goes along with the world.

Whatever is run is done by the rules (`Step.does_run`, `Trial.does_session`).  What carries this is
the size of all that is put off: each step that is done leaves less of it than there was together
with the step, so that the bound is never met.
-/

set_option autoImplicit false

namespace TrialRun

variable {τ σ α : Type}

/-! ## Faults that are logged -/

/-- Whether what has ended so does not keep from going on. -/
def tolerable : Except Fault Unit → Bool
  | .ok () => true
  | .error f => f.isOrdinary

/-- The world in which the fault of something is logged, if it has ended with one. -/
def World.warned (w : World τ σ) (beginning : String) : Except Fault Unit → World τ σ
  | .ok () => w
  | .error f => w.recorded (.log .warning s!"{beginning}{w.trial.name} failed: {f.text}")

@[simp] theorem World.warned_trial (w : World τ σ) (beginning : String)
    (ended : Except Fault Unit) : (w.warned beginning ended).trial = w.trial := by
  cases ended <;> rfl

/-- An act whose ordinary faults are logged, and no more. -/
theorem Act.run_rescue_warning (beginning : String) (a : Act τ σ Unit) (site : Site τ σ)
    (w : World τ σ) :
    (a.rescue fun f => do
      Act.log .warning s!"{beginning}{(← Act.trial).name} failed: {f.text}").run site w =
      if tolerable (a.run site w).1 then
        (.ok (), (a.run site w).2.warned beginning (a.run site w).1)
      else a.run site w := by
  rw [run_rescue]
  rcases a.run site w with ⟨f | v, w'⟩
  · cases ordinary : f.isOrdinary <;> simp only [tolerable, ordinary] <;> rfl
  · rfl

/-- What keeps from going on is a fault that nothing may deal with. -/
theorem eq_error_of_not_tolerable {ended : Except Fault Unit} (stops : ¬tolerable ended = true) :
    ∃ f, ended = .error f ∧ f.isOrdinary = false := by
  cases ended with
  | ok _ => exact absurd rfl stops
  | error f => exact ⟨f, rfl, Bool.eq_false_iff.mpr stops⟩

/-! ## Cleaning up and guards -/

/-- An act whose value is of no use. -/
theorem Act.run_discard (a : Act τ σ α) (site : Site τ σ) (w : World τ σ) :
    (do let _ ← a : Act τ σ Unit).run site w =
      ((a.run site w).1.map fun _ => (), (a.run site w).2) := by
  rw [run_bind]
  rcases a.run site w with ⟨_ | _, w'⟩ <;> rfl

namespace Trial

variable {site : Site τ σ} {w : World τ σ} {exec : Step τ → Act τ σ Json} {bound : Nat}

/-- If nothing was put off, cleaning up is at its end, whatever its bound is. -/
theorem run_drain_nil (nothing : w.trial.pending = []) :
    (drain exec bound).run site w = (.ok (), w) := by
  cases bound with
  | zero => rfl
  | succ bound =>
    rw [drain, Act.run_bind_of_ok _ (run_takeLast_nil nothing)]
    rfl

/-- The last step that was put off is done first.  Cleaning up goes on behind it, unless it has
ended with a fault that nothing may deal with. -/
theorem run_drain_cons {step : Step τ} {rest : List (Step τ)}
    (last : w.trial.pending = step :: rest) :
    let done := (do let _ ← exec step : Act τ σ Unit).run site
      (w.noted fun own => { own with pending := rest })
    (drain exec (bound + 1)).run site w =
      if tolerable done.1 then
        (drain exec bound).run site (done.2.warned "Cleanup of test " done.1)
      else done := by
  intro done
  have tried : ((do let _ ← exec step : Act τ σ Unit).rescue fun f => do
      Act.log .warning s!"Cleanup of test {(← Act.trial).name} failed: {f.text}").run site
        (w.noted fun own => { own with pending := rest }) =
      if tolerable done.1 then (.ok (), done.2.warned "Cleanup of test " done.1) else done :=
    Act.run_rescue_warning "Cleanup of test " _ site _
  rw [drain, Act.run_bind_of_ok _ (run_takeLast_cons last)]
  dsimp only
  rw [Act.run_bind, tried]
  by_cases goesOn : tolerable done.1 = true
  · rw [if_pos goesOn, if_pos goesOn]
  · rw [if_neg goesOn, if_neg goesOn]
    rcases done with ⟨f | _, w'⟩
    · rfl
    · exact absurd rfl goesOn

/-- An ordinary fault of a diagnostic is logged. -/
theorem run_diagnose (a : Act τ σ Unit) :
    (diagnose a).run site w =
      if tolerable (a.run site w).1 then
        (.ok (), (a.run site w).2.warned "Troubleshooting of test " (a.run site w).1)
      else a.run site w :=
  Act.run_rescue_warning "Troubleshooting of test " a site w

variable {diagnostics : List (Act τ σ Unit)} {body : Act τ σ α} {w' : World τ σ}

/-- A body that ends with a value is not looked at. -/
theorem run_onFailure_of_ok {v : α} (done : body.run site w = (.ok v, w')) :
    (onFailure diagnostics body).run site w = (.ok v, w') := by
  rw [onFailure, Act.run_bind, Act.run_attempt, done]
  rfl

/-- A body that fails is noted, then its diagnostics are done, and its fault remains unless one of
them is broken off. -/
theorem run_onFailure_of_error {f : Fault} {r : Except Fault Unit} {w'' : World τ σ}
    (failed : body.run site w = (.error f, w'))
    (told : (Act.forEach diagnose diagnostics).run site
      (w'.noted fun own => { own with failed := true }) = (r, w'')) :
    (onFailure diagnostics body).run site w = (r >>= fun _ => .error f, w'') := by
  have noted : (setFailed true : Act τ σ Unit).run site w' =
    (.ok (), w'.noted fun own => { own with failed := true }) := rfl
  have same : (onFailure diagnostics body).run site w =
      (do
        setFailed true
        Act.forEach diagnose diagnostics
        Act.fail f : Act τ σ α).run site w' := by
    rw [onFailure, Act.run_bind, Act.run_attempt, failed]
  rw [same, Act.run_bind_of_ok _ noted, Act.run_bind, told]
  cases r <;> rfl

end Trial

/-- No step is of no size, so that each one that is done leaves less. -/
theorem Step.size_pos (step : Step τ) : 0 < step.size := by
  cases step <;> simp [size]

/-! ## Tasks and accounts -/

/-- What a trial can be doing. -/
inductive Task (τ : Type) where
  | step (step : Step τ)
  /-- Does what was put off, the last first, until nothing is left. -/
  | drain
  /-- Does steps one after the other, until one fails. -/
  | sequence (steps : List (Step τ))
  /-- Does diagnostics one after the other; an ordinary fault of one is logged. -/
  | diagnose (diagnostics : List (Step τ))
  /-- Does steps one after the other, whether they fail or not. -/
  | session (steps : List (Step τ))

/-- What there is to tell of putting off. -/
inductive Deferral (τ : Type) where
  | putOff (step : Step τ)
  /-- A step that was put off is begun in cleaning up; the number tells which one it is. -/
  | begun (number : Nat) (step : Step τ)
  /-- Cleaning up has come to its end, and this is still put off. -/
  | cleaned (left : List (Step τ))
  /-- A fault has ended cleaning up, and this is still put off. -/
  | brokenOff (fault : Fault) (left : List (Step τ))

/-- All that was put off according to a story, numbered from the first one on; the last first. -/
def Deferral.numbered : List (Deferral τ) → List (Nat × Step τ)
  | [] => []
  | .putOff step :: earlier => ((numbered earlier).length, step) :: numbered earlier
  | _ :: earlier => numbered earlier

/-- What was put off is numbered in its order. -/
theorem Deferral.steps_numbered_putOff (steps : List (Step τ)) :
    (numbered (steps.map putOff)).map Prod.snd = steps := by
  induction steps with
  | nil => rfl
  | cons step rest ih => exact congrArg (step :: ·) ih

/-- A world with an account of what is put off in it. -/
structure Account (τ σ : Type) where
  world : World τ σ
  /-- What is put off, with the numbers that it got; the last first. -/
  pending : List (Nat × Step τ)
  /-- What happened so far to what was put off, the last first. -/
  story : List (Deferral τ)
  pending_eq : world.trial.pending = pending.map Prod.snd

namespace Account

/-- The account of a world in which all that is put off was put off just now. -/
def start (w : World τ σ) : Account τ σ where
  world := w
  pending := Deferral.numbered (w.trial.pending.map .putOff)
  story := w.trial.pending.map .putOff
  pending_eq := (Deferral.steps_numbered_putOff _).symm

variable (t : Account τ σ)

/-- The account of another world in which the same is put off. -/
def moved (w : World τ σ) (kept : w.trial.pending = t.world.trial.pending) : Account τ σ :=
  { t with world := w, pending_eq := kept.trans t.pending_eq }

def recorded (e : Event τ) : Account τ σ := t.moved (t.world.recorded e) rfl

/-- The account once the trial says that it has failed. -/
def failing : Account τ σ := t.moved (t.world.noted fun own => { own with failed := true }) rfl

/-- The account once the fault of something is logged, if it has ended with one. -/
def warned (beginning : String) (ended : Except Fault Unit) : Account τ σ :=
  t.moved (t.world.warned beginning ended) (congrArg Trial.pending (t.world.warned_trial _ _))

/-- The account with one more thing to tell. -/
def told (d : Deferral τ) : Account τ σ := { t with story := d :: t.story }

/-- The account once a step is put off. -/
def putOff (step : Step τ) : Account τ σ where
  world := t.world.noted fun own => { own with pending := step :: own.pending }
  pending := ((Deferral.numbered t.story).length, step) :: t.pending
  story := .putOff step :: t.story
  pending_eq := congrArg (step :: ·) t.pending_eq

/-- The account once a step is begun and the rest stays put off. -/
def begun (number : Nat) (step : Step τ) (rest : List (Nat × Step τ)) : Account τ σ where
  world := t.world.noted fun own => { own with pending := rest.map Prod.snd }
  pending := rest
  story := .begun number step :: t.story
  pending_eq := rfl

/-! ### The size of what is put off -/

/-- The size of all that is put off. -/
def load (t : Account τ σ) : Nat := Step.sizes t.world.trial.pending

variable {t : Account τ σ}

/-- What happens otherwise leaves the load as it is. -/
theorem load_moved {w : World τ σ} (kept : w.trial.pending = t.world.trial.pending) :
    (t.moved w kept).load = t.load :=
  congrArg Step.sizes kept

theorem load_recorded (e : Event τ) : (t.recorded e).load = t.load := rfl

/-- A step that is put off adds its size. -/
theorem load_putOff (step : Step τ) : (t.putOff step).load = step.size + t.load := rfl

/-- A step that is begun takes its size away. -/
theorem load_begun {number : Nat} {step : Step τ} {rest : List (Nat × Step τ)}
    (last : t.pending = (number, step) :: rest) :
    step.size + (t.begun number step rest).load = t.load := by
  rw [load, load, t.pending_eq, last]
  rfl

/-- What is put off in the world is what the account tells. -/
theorem pending_of_cons {number : Nat} {step : Step τ} {rest : List (Nat × Step τ)}
    (last : t.pending = (number, step) :: rest) :
    t.world.trial.pending = step :: rest.map Prod.snd := by
  rw [t.pending_eq, last]
  rfl

end Account

/-! ## The rules -/

variable [Timescale τ]

/-- What a trial does at a site: a task leads from one account to another, and ends well or with a
fault. -/
inductive Does (site : Site τ σ) :
    Task τ → Account τ σ → Except Fault Unit → Account τ σ → Prop where
  | alone {step : Step τ} {t : Account τ σ} {r : Except Fault Json} {w : World τ σ}
      (alone : step.IsAlone) (ran : (step.exec 1).run site t.world = (r, w))
      (kept : w.trial.pending = t.world.trial.pending) :
      Does site (.step step) t (r.map fun _ => ()) (t.moved w kept)
  | defer (step : Step τ) (t : Account τ σ) :
      Does site (.step (.defer step)) t (.ok ()) (t.putOff step)
  /-- The deletion of a test namespace is put off once there is one. -/
  | newTestNamespace {name : Json} {t : Account τ σ} {made : Cluster.Namespace} {w : World τ σ}
      (created : (Cluster.createNamespace name).run site t.world = (.ok made, w))
      (kept : w.trial.pending = t.world.trial.pending) :
      Does site (.step (.newTestNamespace name)) t (.ok ())
        (((t.moved w kept).recorded
          (.log .info s!"Created test Namespace {made.metadata.name.display}")).putOff
            (.deleteTestNamespace made.metadata.name))
  | noTestNamespace {name : Json} {t : Account τ σ} {f : Fault} {w : World τ σ}
      (failed : (Cluster.createNamespace name).run site t.world = (.error f, w))
      (kept : w.trial.pending = t.world.trial.pending) :
      Does site (.step (.newTestNamespace name)) t (.error f) (t.moved w kept)
  | cleaned {t t' : Account τ σ} (drained : Does site .drain t (.ok ()) t') :
      Does site (.step .cleanup) t (.ok ()) (t'.told (.cleaned t'.world.trial.pending))
  | brokenOff {t t' : Account τ σ} {f : Fault} (stopped : Does site .drain t (.error f) t') :
      Does site (.step .cleanup) t (.error f) (t'.told (.brokenOff f t'.world.trial.pending))
  | passed {body diagnostics : List (Step τ)} {t t' : Account τ σ}
      (done : Does site (.sequence body) t (.ok ()) t') :
      Does site (.step (.onFailure body diagnostics)) t (.ok ()) t'
  | diagnosed {body diagnostics : List (Step τ)} {t t₁ t' : Account τ σ} {f : Fault}
      (failed : Does site (.sequence body) t (.error f) t₁)
      (told : Does site (.diagnose diagnostics) t₁.failing (.ok ()) t') :
      Does site (.step (.onFailure body diagnostics)) t (.error f) t'
  /-- A fault of a diagnostic that nothing may deal with takes the place of that of the body. -/
  | undiagnosed {body diagnostics : List (Step τ)} {t t₁ t' : Account τ σ} {f g : Fault}
      (failed : Does site (.sequence body) t (.error f) t₁)
      (stopped : Does site (.diagnose diagnostics) t₁.failing (.error g) t') :
      Does site (.step (.onFailure body diagnostics)) t (.error g) t'
  | nothingLeft {t : Account τ σ} (nothing : t.pending = []) : Does site .drain t (.ok ()) t
  | next {t t₁ t' : Account τ σ} {number : Nat} {step : Step τ} {rest : List (Nat × Step τ)}
      {r₁ r : Except Fault Unit} (last : t.pending = (number, step) :: rest)
      (done : Does site (.step step) (t.begun number step rest) r₁ t₁)
      (goesOn : tolerable r₁ = true)
      (others : Does site .drain (t₁.warned "Cleanup of test " r₁) r t') : Does site .drain t r t'
  | stopped {t t' : Account τ σ} {number : Nat} {step : Step τ} {rest : List (Nat × Step τ)}
      {f : Fault} (last : t.pending = (number, step) :: rest)
      (failed : Does site (.step step) (t.begun number step rest) (.error f) t')
      (strange : f.isOrdinary = false) : Does site .drain t (.error f) t'
  | sequenceEnd (t : Account τ σ) : Does site (.sequence []) t (.ok ()) t
  | sequenceNext {step : Step τ} {rest : List (Step τ)} {t t₁ t' : Account τ σ}
      {r : Except Fault Unit} (done : Does site (.step step) t (.ok ()) t₁)
      (others : Does site (.sequence rest) t₁ r t') : Does site (.sequence (step :: rest)) t r t'
  | sequenceStop {step : Step τ} {rest : List (Step τ)} {t t' : Account τ σ} {f : Fault}
      (failed : Does site (.step step) t (.error f) t') :
      Does site (.sequence (step :: rest)) t (.error f) t'
  | diagnoseEnd (t : Account τ σ) : Does site (.diagnose []) t (.ok ()) t
  | diagnoseNext {step : Step τ} {rest : List (Step τ)} {t t₁ t' : Account τ σ}
      {r₁ r : Except Fault Unit} (done : Does site (.step step) t r₁ t₁)
      (goesOn : tolerable r₁ = true)
      (others : Does site (.diagnose rest) (t₁.warned "Troubleshooting of test " r₁) r t') :
      Does site (.diagnose (step :: rest)) t r t'
  | diagnoseStop {step : Step τ} {rest : List (Step τ)} {t t' : Account τ σ} {f : Fault}
      (failed : Does site (.step step) t (.error f) t') (strange : f.isOrdinary = false) :
      Does site (.diagnose (step :: rest)) t (.error f) t'
  | sessionEnd (t : Account τ σ) : Does site (.session []) t (.ok ()) t
  | sessionNext {step : Step τ} {rest : List (Step τ)} {t t₁ t' : Account τ σ}
      {r : Except Fault Unit} (done : Does site (.step step) t r t₁)
      (others : Does site (.session rest) t₁ (.ok ()) t') :
      Does site (.session (step :: rest)) t (.ok ()) t'

/-! ## What is run is done by the rules -/

/-- Does the steps of a session.  Each is answered by its result or its fault, and the next one
follows either way. -/
def Trial.answers : List (Step τ) → Act τ σ (List (Except Fault Json))
  | [] => pure []
  | step :: rest => do
    let answer ← step.run.attempt
    pure (answer :: (← answers rest))

/-- Does steps one after the other, whether they fail or not. -/
def Trial.session (steps : List (Step τ)) : Act τ σ Unit := do
  let _ ← answers steps

/-- A step on its own leaves what is put off as it is. -/
theorem Step.pending_of_isAlone {step : Step τ} (alone : step.IsAlone) (site : Site τ σ)
    (w : World τ σ) : ((step.exec 1).run site w).2.trial.pending = w.trial.pending :=
  tolerant_keepsPending.exec_alone alone (fun _ _ _ => rfl) 0 site w

/-- The bound plays no part for a step on its own. -/
theorem Step.exec_of_isAlone {step : Step τ} (alone : step.IsAlone) (bound : Nat) :
    (step.exec (bound + 1) : Act τ σ Json) = step.exec 1 := by
  cases step with
  | newTestNamespace name => exact alone.elim
  | defer step => exact alone.elim
  | cleanup => exact alone.elim
  | onFailure body diagnostics => exact alone.elim
  | _ => rfl

/-- What was run in the world of an account is what the rules say of a task, and less than so much
is put off behind it. -/
def Account.Matches (t : Account τ σ) (site : Site τ σ) (task : Task τ) (size : Nat)
    (ran : Except Fault α × World τ σ) : Prop :=
  ∃ t', Does site task t (ran.1.map fun _ => ()) t' ∧ t'.world = ran.2 ∧ t'.load < size

section Matches

-- What steps do is supposed here of any way to do them, as long as there is room for what they lead
-- to; `Step.matches_exec` then goes by the bound.
variable {site : Site τ σ} {exec : Step τ → Act τ σ Json} {room : Nat}
  (steps : ∀ (step : Step τ) (t : Account τ σ), step.size + t.load ≤ room →
    t.Matches site (.step step) (step.size + t.load) ((exec step).run site t.world))

/-- Cleaning up when nothing is put off is done by its rule. -/
theorem matches_drain_nil {t : Account τ σ} (nothing : t.pending = []) (bound : Nat) :
    t.Matches site .drain (t.load + 1) ((Trial.drain exec bound).run site t.world) := by
  have left : t.world.trial.pending = [] := by
    rw [t.pending_eq, nothing]
    rfl
  rw [Trial.run_drain_nil left]
  exact ⟨t, .nothingLeft nothing, rfl, Nat.lt_succ_self _⟩

include steps

/-- Cleaning up is done by its rules, by induction on the bound that it is run with. -/
theorem matches_drain (bound : Nat) (t : Account τ σ) (enough : t.load ≤ bound)
    (within : t.load ≤ room) :
    t.Matches site .drain (t.load + 1) ((Trial.drain exec bound).run site t.world) := by
  -- on the bound: what is put off may change with each step, but gets smaller
  induction bound generalizing t with
  | zero =>
    rcases last : t.pending with _ | ⟨⟨number, step⟩, rest⟩
    · exact matches_drain_nil last 0
    · have size := Account.load_begun last
      have positive := step.size_pos
      omega
  | succ bound ih =>
    rcases last : t.pending with _ | ⟨⟨number, step⟩, rest⟩
    · exact matches_drain_nil last _
    · have size := Account.load_begun last
      have positive := step.size_pos
      obtain ⟨t₁, done, world, less⟩ := steps step (t.begun number step rest) (by omega)
      rcases ended : (exec step).run site (t.begun number step rest).world with ⟨r, w⟩
      rw [ended] at done world
      have ran : (do let _ ← exec step : Act τ σ Unit).run site
          (t.world.noted fun own => { own with pending := rest.map Prod.snd }) =
          (r.map fun _ => (), w) := by
        rw [Act.run_discard]
        exact congrArg (fun ran => (ran.1.map fun _ => (), ran.2)) ended
      rw [Trial.run_drain_cons (Account.pending_of_cons last), ran]
      obtain rfl : t₁.world = w := world
      by_cases goesOn : tolerable (r.map fun _ => ()) = true
      · rw [if_pos goesOn]
        let t₂ := t₁.warned "Cleanup of test " (r.map fun _ => ())
        have lighter : t₂.load = t₁.load := Account.load_moved _
        obtain ⟨t₃, others, world, fits⟩ := ih t₂ (by omega) (by omega)
        exact ⟨t₃, .next last done goesOn others, world, by omega⟩
      · rw [if_neg goesOn]
        obtain ⟨f, failed, strange⟩ := eq_error_of_not_tolerable goesOn
        rw [failed] at done ⊢
        exact ⟨t₁, .stopped last done strange, rfl, by omega⟩

/-- Steps in a row are done by their rules, by induction on their list. -/
theorem matches_sequence (list : List (Step τ)) (t : Account τ σ)
    (within : Step.sizes list + t.load ≤ room) :
    t.Matches site (.sequence list) (Step.sizes list + t.load + 1)
      ((Trial.sequence exec list).run site t.world) := by
  induction list generalizing t with
  | nil => exact ⟨t, .sequenceEnd t, rfl, by omega⟩
  | cons step rest ih =>
    rw [Step.sizes] at within ⊢
    obtain ⟨t₁, done, world, less⟩ := steps step t (by omega)
    rw [Trial.sequence, Act.run_bind]
    rcases ran : (exec step).run site t.world with ⟨f | v, w⟩
    · rw [ran] at done world
      exact ⟨t₁, .sequenceStop done, world, by omega⟩
    · rw [ran] at done world
      obtain rfl : t₁.world = w := world
      obtain ⟨t₂, others, world₂, less₂⟩ := ih t₁ (by omega)
      dsimp only
      rw [Act.run_bind]
      rcases further : (Trial.sequence exec rest).run site t₁.world with ⟨_ | vs, w₂⟩
      all_goals
        rw [further] at others world₂
        exact ⟨t₂, .sequenceNext done others, world₂, by omega⟩

/-- So are diagnostics. -/
theorem matches_diagnose (list : List (Step τ)) (t : Account τ σ)
    (within : Step.sizes list + t.load ≤ room) :
    t.Matches site (.diagnose list) (Step.sizes list + t.load + 1)
      ((Act.forEach Trial.diagnose (list.map fun step => do let _ ← exec step)).run site
        t.world) := by
  induction list generalizing t with
  | nil => exact ⟨t, .diagnoseEnd t, rfl, by omega⟩
  | cons step rest ih =>
    rw [Step.sizes] at within ⊢
    obtain ⟨t₁, done, world, less⟩ := steps step t (by omega)
    rw [List.map_cons, Act.forEach, Act.run_bind, Trial.run_diagnose, Act.run_discard]
    rcases ended : (exec step).run site t.world with ⟨r, w⟩
    rw [ended] at done world
    obtain rfl : t₁.world = w := world
    by_cases goesOn : tolerable (r.map fun _ => ()) = true
    · rw [if_pos goesOn]
      let t₂ := t₁.warned "Troubleshooting of test " (r.map fun _ => ())
      have lighter : t₂.load = t₁.load := Account.load_moved _
      obtain ⟨t₃, others, world, fits⟩ := ih t₂ (by omega)
      exact ⟨t₃, .diagnoseNext done goesOn others, world, by omega⟩
    · rw [if_neg goesOn]
      obtain ⟨f, failed, strange⟩ := eq_error_of_not_tolerable goesOn
      dsimp only
      rw [failed] at done ⊢
      exact ⟨t₁, .diagnoseStop done strange, rfl, by omega⟩

/-- A step that cleans up tells at its end what is still put off. -/
theorem matches_cleanup (bound : Nat) (t : Account τ σ) (enough : t.load ≤ bound)
    (within : t.load ≤ room) :
    t.Matches site (.step .cleanup) (t.load + 1)
      ((Step.noResult (Trial.drain exec bound)).run site t.world) := by
  obtain ⟨t₁, drained, world, less⟩ := matches_drain steps bound t enough within
  rw [Step.noResult, Act.run_bind]
  rcases ended : (Trial.drain exec bound).run site t.world with ⟨f | _, w⟩
  · rw [ended] at drained world
    exact ⟨_, .brokenOff drained, world, less⟩
  · rw [ended] at drained world
    exact ⟨_, .cleaned drained, world, less⟩

/-- A guarded body is done in a row, and its diagnostics behind it if it fails. -/
theorem matches_onFailure (body diagnostics : List (Step τ)) (t : Account τ σ)
    (within : Step.sizes body + Step.sizes diagnostics + t.load ≤ room) :
    t.Matches site (.step (.onFailure body diagnostics))
      (Step.sizes body + Step.sizes diagnostics + t.load + 1)
      ((do
        let results ← Trial.onFailure (diagnostics.map fun step => do let _ ← exec step)
          (Trial.sequence exec body)
        pure (.list results) : Act τ σ Json).run site t.world) := by
  obtain ⟨t₁, done, world, less⟩ := matches_sequence steps body t (by omega)
  rw [Act.run_bind]
  rcases ended : (Trial.sequence exec body).run site t.world with ⟨f | vs, w⟩
  · rw [ended] at done world
    obtain rfl : t₁.world = w := world
    have lighter : t₁.failing.load = t₁.load := rfl
    obtain ⟨t₂, told, world, fits⟩ := matches_diagnose steps diagnostics t₁.failing (by omega)
    rcases diagnosed : (Act.forEach Trial.diagnose
      (diagnostics.map fun step => do let _ ← exec step)).run site t₁.failing.world with ⟨g | _, w⟩
    · rw [diagnosed] at told world
      rw [Trial.run_onFailure_of_error ended diagnosed]
      exact ⟨t₂, .undiagnosed done told, world, by omega⟩
    · rw [diagnosed] at told world
      rw [Trial.run_onFailure_of_error ended diagnosed]
      exact ⟨t₂, .diagnosed done told, world, by omega⟩
  · rw [ended] at done world
    rw [Trial.run_onFailure_of_ok ended]
    exact ⟨t₁, .passed done, world, by omega⟩

end Matches

section Runs

variable (site : Site τ σ) (t : Account τ σ)

/-- The deletion of a namespace is put off if the namespace was created. -/
theorem matches_newTestNamespace (name : Json) :
    t.Matches site (.step (.newTestNamespace name)) (t.load + 2)
      ((do return (← Trial.newTestNamespace name).toJson : Act τ σ Json).run site t.world) := by
  have kept : ((Cluster.createNamespace name).run site t.world).2.trial.pending =
      t.world.trial.pending :=
    tolerant_keepsPending.createNamespace name site t.world
  rw [Act.run_bind, Trial.newTestNamespace, Act.run_bind]
  rcases created : (Cluster.createNamespace name).run site t.world with ⟨f | made, w⟩
  · rw [created] at kept
    refine ⟨t.moved w kept, .noTestNamespace created kept, rfl, ?_⟩
    rw [Account.load_moved]
    omega
  · rw [created] at kept
    refine ⟨_, .newTestNamespace created kept, rfl, ?_⟩
    have deletion : (Step.deleteTestNamespace made.metadata.name : Step τ).size = 1 := rfl
    rw [Account.load_putOff, Account.load_recorded, Account.load_moved, deletion]
    omega

/-- A step is done by the rules, if the bound leaves room for it and for all that is put off. -/
theorem Step.matches_exec (bound : Nat) (step : Step τ) (within : step.size + t.load ≤ bound) :
    t.Matches site (.step step) (step.size + t.load) ((step.exec bound).run site t.world) := by
  induction bound generalizing step t with
  | zero =>
    have positive := step.size_pos
    omega
  | succ bound ih =>
    -- a step on its own is done alike under every bound above zero
    have alone : step.IsAlone → t.Matches site (.step step) (step.size + t.load)
        ((step.exec (bound + 1)).run site t.world) := by
      intro alone
      have kept := step.pending_of_isAlone alone site t.world
      have positive := step.size_pos
      rw [Step.exec_of_isAlone alone]
      refine ⟨t.moved _ kept, .alone alone rfl kept, rfl, ?_⟩
      rw [Account.load_moved]
      omega
    cases step with
    | newTestNamespace name =>
      have size : (newTestNamespace name : Step τ).size = 2 := rfl
      rw [size, Nat.add_comm]
      exact matches_newTestNamespace site t name
    | defer step =>
      have size : (defer step).size = step.size + 1 := rfl
      refine ⟨t.putOff step, .defer step t, rfl, ?_⟩
      rw [Account.load_putOff]
      omega
    | cleanup =>
      have size : (cleanup : Step τ).size = 1 := rfl
      rw [size, Nat.add_comm]
      exact matches_cleanup (fun step t => ih t step) bound t (by omega) (by omega)
    | onFailure body diagnostics =>
      have size : (onFailure body diagnostics).size = sizes body + sizes diagnostics + 1 := rfl
      rw [size, Nat.add_right_comm]
      exact matches_onFailure (fun step t => ih t step) body diagnostics t (by omega)
    | _ => exact alone trivial

/-- **Every step is done by the rules.**  The bound that it is run with is never met. -/
theorem Step.does_run (step : Step τ) :
    ∃ t', Does site (.step step) t ((step.run.run site t.world).1.map fun _ => ()) t' ∧
      t'.world = (step.run.run site t.world).2 := by
  obtain ⟨t', does, world, -⟩ := Step.matches_exec site t _ step (Nat.le_refl _)
  exact ⟨t', does, world⟩

/-- The steps of a session are answered by the rules, whatever their faults are. -/
theorem Trial.does_answers (steps : List (Step τ)) :
    ∃ t' answered, Does site (.session steps) t (.ok ()) t' ∧
      (Trial.answers steps).run site t.world = (.ok answered, t'.world) := by
  induction steps generalizing t with
  | nil => exact ⟨t, [], .sessionEnd t, rfl⟩
  | cons step rest ih =>
    obtain ⟨t₁, done, world⟩ := Step.does_run site t step
    obtain ⟨t₂, answered, others, ran⟩ := ih t₁
    rw [world] at ran
    refine ⟨t₂, (step.run.run site t.world).1 :: answered, .sessionNext done others, ?_⟩
    rw [answers, Act.run_bind_of_ok _ (Act.run_attempt site t.world step.run),
      Act.run_bind_of_ok _ ran]
    rfl

/-- A session is done by the rules, and comes to its end. -/
theorem Trial.does_session (steps : List (Step τ)) :
    ∃ t', Does site (.session steps) t (.ok ()) t' ∧
      (Trial.session steps).run site t.world = (.ok (), t'.world) := by
  obtain ⟨t', answered, does, ran⟩ := Trial.does_answers site t steps
  exact ⟨t', does, Act.run_bind_of_ok _ ran⟩

end Runs

end TrialRun
