import Mathlib.Data.List.Forall2
import TrialRun.Dashboard.Request
import TrialRun.Proofs.Act.Run

/-!
# Two runs side by side

Two trials are run side by side.  They are alike but for the keys that the cluster is accessed with,
so that the clients that they make of dashboards may carry different tokens, and nothing else may
differ between them (`Comparison.Alike`).

Two acts are twins (`Comparison.Twin`) if, begun in worlds that are alike, they end with the same
fault or with related values, and leave worlds behind that are alike again.  There is one rule for
each way of putting acts together.  Most acts are twins of themselves, with equal values
(`Comparison.Blind`); of what they read, nothing must depend on the keys or on the clients.
-/

set_option autoImplicit false

namespace TrialRun

variable {τ σ α β γ δ : Type}

mutual

/-- The step does not ask for the token that the cluster is accessed with, nor does any step in
it. -/
def Step.IsDiscreet : Step τ → Prop
  | .bearerToken => False
  | .defer step => step.IsDiscreet
  | .onFailure body diagnostics => Step.AllDiscreet body ∧ Step.AllDiscreet diagnostics
  | _ => True

def Step.AllDiscreet : List (Step τ) → Prop
  | [] => True
  | step :: rest => step.IsDiscreet ∧ Step.AllDiscreet rest

end

/-- Two runs of trials that are compared. -/
structure Comparison (τ σ : Type) where
  /-- The site of both, but for the keys. -/
  site : Site τ σ
  keys : Json
  keys' : Json
  /-- The tokens that their own clients of dashboards carry. -/
  token : Option String
  token' : Option String
  /-- What may be recorded in the one run and in the other in its place. -/
  Matches : Event τ → Event τ → Prop
  refl : ∀ e, Matches e e
  /-- What was recorded before. -/
  before : List (Event τ)
  before' : List (Event τ)

/-- How two acts end: with the same fault, or with related values. -/
inductive SameEnd (R : α → β → Prop) : Except Fault α → Except Fault β → Prop where
  | value {v : α} {v' : β} : R v v' → SameEnd R (.ok v) (.ok v')
  | fault (f : Fault) : SameEnd R (.error f) (.error f)

/-- Ends that are the same by one relation of values are so by a weaker one. -/
theorem SameEnd.mono {R Q : α → β → Prop} {r : Except Fault α} {r' : Except Fault β}
    (h : SameEnd R r r') (weaker : ∀ v v', R v v' → Q v v') : SameEnd Q r r' := by
  cases h with
  | value related => exact .value (weaker _ _ related)
  | fault f => exact .fault f

/-- An end is the same as itself. -/
theorem SameEnd.refl (r : Except Fault α) : SameEnd Eq r r := by
  cases r with
  | ok v => exact .value rfl
  | error f => exact .fault f

namespace Comparison

variable (C : Comparison τ σ)

/-- The site of the one run. -/
def one : Site τ σ := { C.site with apiKeys := C.keys }

/-- The site of the other run. -/
def other : Site τ σ := { C.site with apiKeys := C.keys' }

/-- Clients that are the same, or that the trials made themselves for one address. -/
inductive SameClient : Dashboard → Dashboard → Prop where
  | same (d : Dashboard) : SameClient d d
  | own (address : String) :
    SameClient (.connect address C.token false) (.connect address C.token' false)

/-- What trials keep in mind is alike if only their own clients differ.  What they have put off does
not ask for the token. -/
structure SameTrial (t t' : Trial τ) : Prop where
  same : t' = { t with dashboard := t'.dashboard }
  dashboard : Option.Rel C.SameClient t.dashboard t'.dashboard
  discreet : Step.AllDiscreet t.pending

/-- Worlds are alike if only the own clients of the trials differ, and what has happened since is
recorded in the one world as in the other. -/
structure Alike (w w' : World τ σ) : Prop where
  clock : w'.clock = w.clock
  outside : w'.outside = w.outside
  volume : w'.volume = w.volume
  trial : C.SameTrial w.trial w'.trial
  record : ∃ es es', List.Forall₂ C.Matches es es' ∧ w.record = es ++ C.before ∧
    w'.record = es' ++ C.before'

/-- Begun in worlds that are alike, the acts end alike and leave such worlds behind. -/
def Twin (R : α → β → Prop) (a : Act τ σ α) (b : Act τ σ β) : Prop :=
  ∀ w w', C.Alike w w' → SameEnd R (a.run C.one w).1 (b.run C.other w').1 ∧
    C.Alike (a.run C.one w).2 (b.run C.other w').2

/-- The act ends with the same value or the same fault in worlds that are alike. -/
def Blind (a : Act τ σ α) : Prop := C.Twin Eq a a

variable {C}

/-- Worlds stay alike when they record events that match. -/
theorem Alike.recorded {w w' : World τ σ} {e e' : Event τ} (h : C.Alike w w')
    (same : C.Matches e e') : C.Alike (w.recorded e) (w'.recorded e') where
  clock := h.clock
  outside := h.outside
  volume := h.volume
  trial := h.trial
  record := by
    obtain ⟨es, es', alike, record, record'⟩ := h.record
    exact ⟨e :: es, e' :: es', .cons same alike, congrArg (e :: ·) record,
      congrArg (e' :: ·) record'⟩

/-! ## Combinations -/

namespace Twin

variable {R : α → β → Prop} {Q : γ → δ → Prop} {a : Act τ σ α} {b : Act τ σ β}

/-- Related values make twins. -/
theorem pure {v : α} {v' : β} (h : R v v') : C.Twin R (Pure.pure v) (Pure.pure v') :=
  fun _ _ alike => ⟨.value h, alike⟩

/-- One fault makes twins, whatever the values would be. -/
theorem fail (f : Fault) : C.Twin R (Act.fail f) (Act.fail f) :=
  fun _ _ alike => ⟨.fault f, alike⟩

/-- Values may be related more weakly. -/
theorem mono {R' : α → β → Prop} (h : C.Twin R a b) (weaker : ∀ v v', R v v' → R' v v') :
    C.Twin R' a b :=
  fun w w' alike => (h w w' alike).imp_left fun ended => ended.mono weaker

/-- What follows begins in worlds that are alike, with related values; or a fault ends both runs. -/
theorem bind {next : α → Act τ σ γ} {next' : β → Act τ σ δ} (first : C.Twin R a b)
    (second : ∀ v v', R v v' → C.Twin Q (next v) (next' v')) :
    C.Twin Q (a >>= next) (b >>= next') := by
  intro w w' alike
  have both := first w w' alike
  rw [Act.run_bind, Act.run_bind]
  revert both
  rcases a.run C.one w with ⟨r, w₁⟩
  rcases b.run C.other w' with ⟨r', w₁'⟩
  rintro ⟨ended, left⟩
  cases ended with
  | value related => exact second _ _ related w₁ w₁' left
  | fault f => exact ⟨.fault f, left⟩

/-- The ends of two twins are related as values. -/
theorem attempt (h : C.Twin R a b) : C.Twin (SameEnd R) a.attempt b.attempt :=
  fun w w' alike => ⟨.value (h w w' alike).1, (h w w' alike).2⟩

/-- A fault that is dealt with in the one run is dealt with in the other, as they have the same. -/
theorem rescue {handle : Fault → Act τ σ α} {handle' : Fault → Act τ σ β} (tried : C.Twin R a b)
    (handled : ∀ f, C.Twin R (handle f) (handle' f)) :
    C.Twin R (a.rescue handle) (b.rescue handle') := by
  refine bind (attempt tried) fun r r' ended => ?_
  cases ended with
  | value related => exact pure related
  | fault f =>
    dsimp only
    split
    · exact handled f
    · exact fail f

/-- Changes that keep worlds alike. -/
theorem change {f g : World τ σ → World τ σ} (kept : ∀ w w', C.Alike w w' → C.Alike (f w) (g w')) :
    C.Twin Eq (Act.change f) (Act.change g) :=
  fun w w' alike => ⟨.value rfl, kept w w' alike⟩

/-- Each run may record its own event, if the two match. -/
theorem record {e e' : Event τ} (same : C.Matches e e') :
    C.Twin Eq (Act.record e) (Act.record e') :=
  change fun _ _ alike => alike.recorded same

/-- What the trials keep in mind may differ in their clients. -/
theorem trial : C.Twin C.SameTrial Act.trial Act.trial :=
  fun _ _ alike => ⟨.value alike.trial, alike⟩

end Twin

namespace Blind

variable {a : Act τ σ α} {next : α → Act τ σ β}

theorem pure (v : α) : C.Blind (Pure.pure v) := Twin.pure rfl

theorem fail (f : Fault) : C.Blind (Act.fail f : Act τ σ α) := Twin.fail f

/-- The value that an act goes on with is the same in both runs. -/
theorem bind (first : C.Blind a) (second : ∀ v, C.Blind (next v)) : C.Blind (a >>= next) := by
  refine Twin.bind first ?_
  rintro v _ rfl
  exact second v

/-- An act that goes on in one way with a value and in another one with a fault. -/
theorem attempt_bind {next : Except Fault α → Act τ σ β} (tried : C.Blind a)
    (second : ∀ r, C.Blind (next r)) : C.Blind (a.attempt >>= next) := by
  refine Twin.bind (Twin.attempt tried) fun r r' ended => ?_
  cases ended with
  | value same =>
    cases same
    exact second _
  | fault f => exact second _

theorem rescue {handle : Fault → Act τ σ α} (tried : C.Blind a)
    (handled : ∀ f, C.Blind (handle f)) : C.Blind (a.rescue handle) := Twin.rescue tried handled

/-- A computation does not look at the world. -/
theorem lift (r : Except Fault α) : C.Blind (liftM r : Act τ σ α) := by
  cases r with
  | ok v => exact pure v
  | error f => exact fail f

/-- A choice between two acts is made alike, as it is made beforehand. -/
theorem ite {c : Prop} [Decidable c] {b : Act τ σ α} (yes : C.Blind a) (no : C.Blind b) :
    C.Blind (if c then a else b) := by
  split
  · exact yes
  · exact no

/-- Items are dealt with one after the other, by induction on their list. -/
theorem forEach {act : β → Act τ σ Unit} {items : List β}
    (each : ∀ item ∈ items, C.Blind (act item)) : C.Blind (Act.forEach act items) := by
  induction items with
  | nil => exact pure ()
  | cons item rest ih =>
    obtain ⟨first, others⟩ := List.forall_mem_cons.mp each
    exact bind first fun _ => ih others

/-- What is known of the site may be used, but for the keys. -/
theorem site_bind {next : Site τ σ → Act τ σ α} (second : ∀ s, C.Blind (next s))
    (same : ∀ s keys, next { s with apiKeys := keys } = next s) :
    C.Blind (Act.site >>= next) := by
  intro w w' alike
  have left : next C.one = next C.site := same C.site C.keys
  have right : next C.other = next C.site := same C.site C.keys'
  rw [Act.run_bind_of_ok _ (Act.run_site C.one w), Act.run_bind_of_ok _ (Act.run_site C.other w'),
    left, right]
  exact second C.site w w' alike

/-- The world may be looked at, but for what the trial keeps in mind and for the record. -/
theorem world_bind {next : World τ σ → Act τ σ α} (second : ∀ w, C.Blind (next w))
    (same : ∀ w trial record, next { w with trial := trial, record := record } = next w) :
    C.Blind (Act.world >>= next) := by
  intro w w' alike
  have right : next w' = next w := by
    obtain ⟨clock, outside, volume, trial, record⟩ := w'
    obtain ⟨rfl, rfl, rfl, -, -⟩ := alike
    exact same w trial record
  rw [Act.run_bind_of_ok _ (Act.run_world C.one w), Act.run_bind_of_ok _ (Act.run_world C.other w'),
    right]
  exact second w w w' alike

/-- What the trial keeps in mind may be used, but for its client. -/
theorem trial_bind {next : Trial τ → Act τ σ α} (second : ∀ t, C.Blind (next t))
    (same : ∀ t dashboard, next { t with dashboard := dashboard } = next t) :
    C.Blind (Act.trial >>= next) := by
  refine Twin.bind Twin.trial fun t t' alike => ?_
  have right : next t' = next t := by
    rw [alike.same]
    exact same t _
  rw [right]
  exact second t

/-- What is noted must not depend on the client of the trial, nor change it. -/
theorem note {f : Trial τ → Trial τ}
    (same : ∀ t d, f { t with dashboard := d } = { f t with dashboard := d })
    (discreet : ∀ t, Step.AllDiscreet t.pending → Step.AllDiscreet (f t).pending) :
    C.Blind (Act.note f : Act τ σ Unit) := by
  refine Twin.change fun w w' alike => ?_
  have unchanged : f w.trial = { f w.trial with dashboard := w.trial.dashboard } :=
    same w.trial w.trial.dashboard
  have kept : (f w.trial).dashboard = w.trial.dashboard := by rw [unchanged]
  have noted : f w'.trial = { f w.trial with dashboard := w'.trial.dashboard } := by
    rw [alike.trial.same]
    exact same w.trial _
  refine ⟨alike.clock, alike.outside, alike.volume, ⟨?_, ?_, ?_⟩, alike.record⟩
  · rw [noted]
  · rw [noted, kept]
    exact alike.trial.dashboard
  · exact discreet _ alike.trial.discreet

theorem record (e : Event τ) : C.Blind (Act.record e : Act τ σ Unit) := Twin.record (C.refl e)

/-- A text is logged that is the same in both runs. -/
theorem log (level : Level) (text : String) : C.Blind (Act.log level text : Act τ σ Unit) :=
  record _

/-- The outside may change. -/
theorem outside (s : σ) :
    C.Blind (Act.change fun w => { w with outside := s } : Act τ σ Unit) :=
  Twin.change fun _ _ alike => ⟨alike.clock, rfl, alike.volume, alike.trial, alike.record⟩

/-- The files may change, as they are told to. -/
theorem volume (f : Volume → Volume) :
    C.Blind (Act.change fun w => { w with volume := f w.volume } : Act τ σ Unit) :=
  Twin.change fun _ _ alike =>
    ⟨alike.clock, alike.outside, congrArg f alike.volume, alike.trial, alike.record⟩

/-! ## Time, calls and requests -/

section Outside

variable [Timescale τ] {f : Cluster.Form}

theorem pass (span : τ) : C.Blind (Act.pass span : Act τ σ Unit) :=
  Twin.change fun _ _ alike => ⟨congrArg (Timescale.add · span) alike.clock, alike.outside,
    alike.volume, alike.trial, alike.record⟩

/-- Time that can be told passes alike, and other time is a fault to both. -/
theorem spend (span : τ) : C.Blind (Act.spend span : Act τ σ Unit) := ite (pass span) (fail _)

/-- A sleep is recorded, and is refused in both runs or in neither. -/
theorem sleep (span : τ) : C.Blind (Act.sleep span : Act τ σ Unit) :=
  bind (record _) fun _ => ite (fail _) (spend span)

/-- The outside of both worlds is the same, and so is its answer to a call that is the same. -/
theorem call (c : Cluster.Call f) : C.Blind (Act.call c : Act τ σ f.Carrier) := by
  refine site_bind (fun known => world_bind (fun w => ?_) fun _ _ _ => rfl) fun _ _ => rfl
  refine bind (outside _) fun _ => bind (record _) fun _ => bind (pass _) fun _ => ?_
  split
  · exact fail _
  · exact bind (record _) fun _ => fail _
  · exact bind (record _) fun _ => pure _

/-- A request that is the same in both runs meets the same exchange. -/
theorem request (r : Dashboard.Request) : C.Blind (Act.request r : Act τ σ Exchange) := by
  refine site_bind (fun known => world_bind (fun w => ?_) fun _ _ _ => rfl) fun _ _ => rfl
  exact bind (outside _) fun _ => bind (record _) fun _ => bind (pass _) fun _ => pure _

end Outside

/-! ## Files -/

/-- What the site objects to an action on the disk is the same. -/
theorem disk (action : DiskAction) (h : C.Blind a) : C.Blind (Act.disk action a) := by
  refine site_bind (fun known => world_bind (fun w => ?_) fun _ _ _ => rfl) fun _ _ => rfl
  apply bind (outside _)
  intro _
  split
  · exact fail _
  · exact h

/-- The same change is made to volumes that are the same. -/
theorem settle (p : Path) (change? : Volume → Except DiskError Volume) :
    C.Blind (Act.settle p change? : Act τ σ Unit) := by
  refine ite (fail _) (world_bind (fun w => ?_) fun _ _ _ => rfl)
  split
  · exact volume fun _ => _
  · exact fail _

theorem makeOneDirectory (p : Path) : C.Blind (Act.makeOneDirectory p : Act τ σ Unit) :=
  disk _ (settle p _)

/-- Whether a directory is there already is the same. -/
theorem unlessDirectory (p : Path) (f : Fault) :
    C.Blind (Act.unlessDirectory p f : Act τ σ Unit) :=
  world_bind (fun _ => ite (pure ()) (fail f)) fun _ _ _ => rfl

/-- By induction on the levels that are left. -/
theorem makeDirectories (rooted : Bool) (levels : Nat) (names : List String) :
    C.Blind (Act.makeDirectories rooted levels names : Act τ σ Unit) := by
  induction names generalizing levels with
  | nil => cases levels <;> exact pure ()
  | cons name above ih =>
    cases levels with
    | zero => exact fail _
    | succ levels =>
      apply attempt_bind (makeOneDirectory _)
      intro r
      cases r with
      | ok _ => exact pure ()
      | error f =>
        refine ite (bind (ih levels) fun _ => ?_) (unlessDirectory _ f)
        apply attempt_bind (makeOneDirectory _)
        intro r
        cases r with
        | ok _ => exact pure ()
        | error f => exact ite (fail f) (unlessDirectory _ f)

theorem makeDirectory (p : Path) : C.Blind (Act.makeDirectory p : Act τ σ Unit) :=
  makeDirectories _ _ _

/-- A text is written, and what was written is recorded. -/
theorem writeFile (p : Path) (contents : String) :
    C.Blind (Act.writeFile p contents : Act τ σ Unit) :=
  bind (disk _ (settle p _)) fun _ => record _

/-- The site tells where a temporary directory is made. -/
theorem makeTemporary (beginning : String) :
    C.Blind (Act.makeTemporary beginning : Act τ σ Path) :=
  site_bind (fun known => bind (disk _ (volume fun v =>
    (v.makeDirectory (known.temporary beginning)).toOption.getD v)) fun _ => pure _)
    fun _ _ => rfl

end Blind

end Comparison

end TrialRun
