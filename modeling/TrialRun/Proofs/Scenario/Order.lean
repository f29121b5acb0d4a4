import TrialRun.Proofs.Scenario.Steps

/-!
# The order of a scenario

Whatever the outside answers, each run of a scenario keeps the rule (`Scenario.Rule`), however it
ends; and one that ends without a fault has passed all milestones.  Each step is carried out behind
the milestones before it, and what the rule asks for is among these: so it is enough to go through
the steps once and to add to the milestones what each one has seen.
-/

set_option autoImplicit false

namespace TrialRun

variable {τ σ α β : Type}

namespace Act.Ensures

variable {site : Site τ σ} {E : Fault → World τ σ → Prop}

/-- What a world has in some way may be taken to be had in a known way. -/
theorem exists_before {ι : Type} {P : ι → World τ σ → Prop} {a : Act τ σ α}
    {Q : α → World τ σ → Prop} (h : ∀ i, Ensures site (P i) a Q E) :
    Ensures site (fun w => ∃ i, P i w) a Q E := by
  refine ⟨fun w before => ?_⟩
  obtain ⟨i, hw⟩ := before
  exact (h i).ends w hw

end Act.Ensures

namespace Scenario

/-- Begun behind some milestones, the act keeps the rule however it ends, and ends as told if it
ends with a value. -/
def Advances (s : Scenario) (site : Site τ σ) (ms : List (Event τ → Prop)) (a : Act τ σ α)
    (Q : α → World τ σ → Prop) : Prop :=
  a.Ensures site (Kept s.Rule ms) Q fun _ w => Lawful s.Rule w.record

namespace Advances

variable {s : Scenario} {site : Site τ σ} {ms : List (Event τ → Prop)} {m : Event τ → Prop}
  {a : Act τ σ α} {Q : α → World τ σ → Prop}

/-- The last milestone may be told less of. -/
theorem of_head (n : Event τ → Prop) (h : s.Advances site (n :: ms) a Q) (weaker : ∀ e, m e → n e) :
    s.Advances site (m :: ms) a Q :=
  h.mono (fun _ kept => ⟨kept.1, kept.2.mono_head weaker⟩) (fun _ _ => id) fun _ _ => id

theorem lift_bind {r : Except Fault α} {next : α → Act τ σ β} {Q : β → World τ σ → Prop}
    (second : ∀ v, r = .ok v → s.Advances site ms (next v) Q) :
    s.Advances site ms ((liftM r : Act τ σ α) >>= next) Q :=
  Act.Ensures.lift_bind (fun _ _ _ => And.left) second

theorem of_pure {v : α} (h : ∀ w, Kept s.Rule ms w → Q v w) :
    s.Advances site ms (Pure.pure v) Q := .pure h

/-- What only looks is permitted behind any milestones. -/
theorem look {next : α → Act τ σ β} {Q : β → World τ σ → Prop}
    (looks : Observant (World.Grows (σ := σ) (Permitted s.Rule ms)) →
      a.Moves (World.Grows (Permitted s.Rule ms)))
    (second : ∀ v, s.Advances site ms (next v) Q) : s.Advances site ms (a >>= next) Q :=
  (looks (observant_permitted s ms)).kept.bind second

/-- What has marked a milestone is followed by what is done behind it. -/
theorem mark {next : α → Act τ σ β} {m : α → Event τ → Prop} {Q : β → World τ σ → Prop}
    (marks : a.Marks m) (moves : Observant (World.Grows (σ := σ) (Permitted s.Rule ms)) →
      a.Moves (World.Grows (Permitted s.Rule ms)))
    (second : ∀ v, s.Advances site (m v :: ms) (next v) Q) : s.Advances site ms (a >>= next) Q :=
  (marks.kept (moves (observant_permitted s ms))).bind second

/-- The diagnostics that follow a fault keep the rule. -/
theorem watching [Timescale τ] {ns rayCluster : Json} (h : s.Advances site ms a Q) :
    s.Advances site ms (Trial.watching Trial.troubleshootRayCluster ns rayCluster a) Q := by
  refine (observant_permitted s []).ensures_watching (fun w w' lawful grown => ?_) h
  exact (Kept.grows ⟨lawful, .start _⟩ grown).1

end Advances

variable [Timescale τ] {s : Scenario} {site : Site τ σ}

/-! ## Bringing up -/

theorem prepare_moves (s : Scenario) (ms : List (Event τ → Prop)) (name : Json) (a : Accelerator)
    (script : List UInt8) : (Trial.prepare name a script : Act τ σ Trial.Grounds).Moves
      (World.Grows (Permitted s.Rule ms)) := by
  have h := observant_permitted (τ := τ) (σ := σ) s ms
  have defer : ∀ step : Step τ, (Trial.defer step : Act τ σ Unit).Moves
      (World.Grows (Permitted s.Rule ms)) :=
    fun step _ w => ⟨[], rfl, fun _ member => absurd member List.not_mem_nil⟩
  have object : ∀ {type : ResourceType} {ns body : Json} (o : Outcome Json), type ≠ .rayJob →
      Allows (World.Grows (σ := σ) (Permitted s.Rule ms))
        (.called (.createObject type ns body) o) := by
    intro type ns body o noJob
    have other : Kind.object type ≠ .object .rayJob := fun same => noJob (Kind.object.inj same)
    exact allows_creation (c := .createObject type ns body) rfl other o
  refine h.bind ?_ fun created => h.bind ?_ fun queue => h.bind ?_ fun configMap => ?_
  · apply h.bind (h.createNamespace _ fun o => allows_creation rfl (by decide) o)
    intro _
    exact h.bind (h.log _ _) fun _ => h.bind (defer _) fun _ => h.pure _
  · apply h.bind (h.createResourceFlavor _ fun _ o => object o (by decide))
    intro flavor
    refine h.bind (h.lift _) fun _ => h.bind (defer _) fun _ => ?_
    apply h.bind (h.createQuotaQueue _ _ fun _ o => object o (by decide))
    intro queue
    refine h.bind (h.lift _) fun _ => h.bind (defer _) fun _ => ?_
    exact h.createLocalQueue _ _ _ fun _ o => object o (by decide)
  · exact h.createScript _ _ fun _ o => allows_creation rfl (by decide) o
  · exact h.bind (h.lift _) fun _ => h.pure _

/-! ## Training -/

open Advances (look mark)

/-- The log of a job that has succeeded may be asked for. -/
theorem writeJobLogs_advances (trains : s.Trains) (ns name rayJob job : Json) (d : Dashboard) :
    s.Advances site (Training.succeeded ⟨rayJob, job, ""⟩ ns ++ s.broughtUp ns name)
      (Trial.writeJobLogs (some d) job : Act τ σ Path) fun _ w =>
        ∃ t : Training, Kept s.Rule (t.written ++ t.succeeded ns ++ s.broughtUp ns name) w := by
  have asked : ∀ e : Event τ, e.AsksForLogs job → Allows (World.Grows (σ := σ) (Permitted s.Rule
      (Training.succeeded ⟨rayJob, job, ""⟩ ns ++ s.broughtUp ns name))) e := by
    intro e asks
    apply World.Grows.of_recorded
    intro earlier passed
    cases e with
    | requested r x =>
      exact {
        submission := fun _ submits => by cases submits
        logs := fun _ _ => ⟨trains, ns, name, ⟨rayJob, job, ""⟩, asks, passed⟩
        deletion := fun _ deletes => by cases deletes }
    | _ => exact asks.elim
  apply look (fun h => h.log _ _)
  intro _
  apply mark (Act.Marks.jobLogs d job) (fun h => h.jobLogs d job asked)
  intro logs
  refine ((Act.Marks.writeOutput _ logs).kept ((observant_permitted s _).writeOutput _ _)).mono
    (fun _ => id) ?_ fun _ _ => id
  intro p w kept
  obtain ⟨e, -, text, directory, rfl, -⟩ := kept.2.exists_mem List.mem_cons_self
  refine ⟨⟨rayJob, job, text⟩, kept.1, kept.2.mono_head ?_⟩
  rintro e ⟨s, directory, same, wrote⟩
  cases same
  exact ⟨directory, wrote⟩

/-- The status of a job in which it has succeeded. -/
theorem succeeded_of_requireSuccess {ns name rayJob : Json}
    (h : Trial.requireSuccess ns name rayJob = .ok ()) :
    Workload.rayJobStatus rayJob = .ok (.text Workload.jobSucceeded) := by
  obtain ⟨status, asked, h⟩ := ok_of_bind h
  cases agrees : status.agrees (.text Workload.jobSucceeded) with
  | true => rw [asked, Json.eq_text_of_agrees agrees]
  | false =>
    rw [agrees, if_neg Bool.false_ne_true] at h
    obtain ⟨shown, -, h⟩ := ok_of_bind h
    cases h

/-- A job is read once more when it has ended, and must have succeeded then.  This is seen under
every law that permits looking. -/
theorem requireSuccess_keptSince (ns rayJob : Json) {base : List (Event τ)}
    {rule : Event τ → List (Event τ) → Prop} {ms : List (Event τ → Prop)}
    (looks : ∀ ms, Looking (World.Grows (σ := σ) (Permitted rule ms))) :
    Act.Ensures site (KeptSince base rule ms)
      (do
        let _ ← Trial.waitForRayJobTerminal ns rayJob (Timescale.seconds Trial.longTimeout)
        let reply ← Cluster.getObject .rayJob ns rayJob
        liftM (Trial.requireSuccess ns rayJob reply)
        pure reply : Act τ σ Json)
      (fun reply => KeptSince base rule
        ((fun e => e = .called (.getObject .rayJob ns rayJob) (.served reply) ∧
          Workload.rayJobStatus reply = .ok (.text Workload.jobSucceeded)) ::
        Event.ShowsTerminal ns rayJob :: ms))
      fun _ => KeptSince base rule [] := by
  refine ((Act.Marks.waitForRayJobTerminal _ _ _).keptSince
    ((looks _).waitForRayJobTerminal _ _ _)).bind fun _ => ?_
  refine ((Act.Marks.getObject _ _ _).keptSince ((looks _).getObject _ _ _)).bind fun reply => ?_
  refine .lift_bind (fun _ _ _ => KeptSince.lawful) fun _ required => .pure fun _ kept => ?_
  exact kept.mono_head fun e served => ⟨served, succeeded_of_requireSuccess required⟩

theorem requireSuccess_advances (ns rayJob : Json) {ms : List (Event τ → Prop)} :
    s.Advances site ms
      (do
        let _ ← Trial.waitForRayJobTerminal ns rayJob (Timescale.seconds Trial.longTimeout)
        let reply ← Cluster.getObject .rayJob ns rayJob
        liftM (Trial.requireSuccess ns rayJob reply)
        pure reply : Act τ σ Json)
      fun reply => Kept s.Rule
        ((fun e => e = .called (.getObject .rayJob ns rayJob) (.served reply) ∧
          Workload.rayJobStatus reply = .ok (.text Workload.jobSucceeded)) ::
        Event.ShowsTerminal ns rayJob :: ms) :=
  (requireSuccess_keptSince ns rayJob fun ms => (observant_permitted s ms).toLooking).mono
    (fun _ => keptSince_nil_iff.mpr) (fun _ _ => keptSince_nil_iff.mp)
    fun _ _ kept => (keptSince_nil_iff.mp kept).1

/-- The training may be submitted once the Ray cluster was brought up. -/
theorem train_advances (trains : s.Trains) (ns name : Json) (a : Accelerator) :
    s.Advances site (s.broughtUp ns name) (Trial.train ns a : Act τ σ Unit) fun _ w =>
      ∃ t : Training, Kept s.Rule (t.written ++ t.succeeded ns ++ s.broughtUp ns name) w := by
  have submitted : ∀ body o, Allows (World.Grows (σ := σ) (Permitted s.Rule (s.broughtUp ns name)))
      (.called (.createObject .rayJob ns body) o : Event τ) := by
    intro body o
    apply World.Grows.of_recorded
    intro earlier passed
    exact {
      submission := fun _ submits => by
        cases submits
        exact ⟨trains, name, passed⟩
      logs := fun _ asks => asks.elim
      deletion := fun _ deletes => by cases deletes }
  apply look (fun h => h.site)
  intro known
  refine mark (Act.Marks.createObject .rayJob ns _)
    (fun h => h.createObject _ _ _ (submitted _)) fun made => ?_
  apply Advances.lift_bind
  intro rayJob named
  -- from here on the reply matters only as the creation of the job
  refine Advances.of_head (Event.Creates ⟨.object .rayJob, ns, rayJob⟩) ?_ ?_
  · refine look (fun h => h.log _ _) fun _ => look (fun h => h.dashboardUrl _ _) fun url => ?_
    refine look (fun h => h.log _ _) fun _ => look (fun h => h.connect _) fun dashboard => ?_
    apply Act.Ensures.bind (Advances.watching (requireSuccess_advances ns rayJob))
    intro reply
    apply Advances.lift_bind
    intro job identified
    -- and the last reading of the job only as that of its success
    refine Advances.of_head (Event.ShowsSucceeded ns rayJob job) ?_ ?_
    · exact (writeJobLogs_advances trains ns name rayJob job dashboard).bind fun _ =>
        Act.Ensures.pure fun _ => id
    · rintro e ⟨served, status⟩
      exact ⟨reply, served, status, identified⟩
  · rintro e rfl
    exact Event.creates_of_named named

/-! ## Whole scenarios -/

/-- What was brought up may be deleted once it was used. -/
theorem deleteObject_advances (s : Scenario) (ns name : Json) (t : Training) :
    s.Advances site (s.used ns name t) (Cluster.deleteObject s.resource ns name : Act τ σ Unit)
      fun _ => Kept s.Rule (Event.Deletes s.resource ns name :: s.used ns name t) := by
  have allowed : ∀ o, Allows (World.Grows (σ := σ) (Permitted s.Rule (s.used ns name t)))
      (.called (.deleteObject s.resource ns name) o : Event τ) := by
    intro o
    apply World.Grows.of_recorded
    intro earlier passed
    exact {
      submission := fun _ submits => by cases submits
      logs := fun _ asks => asks.elim
      deletion := fun _ deletes => by
        cases deletes
        exact ⟨rfl, t, passed⟩ }
  have marks : (Cluster.deleteObject s.resource ns name : Act τ σ Unit).Marks
      fun _ e => e.Deletes s.resource ns name :=
    (Act.Marks.deleteObject s.resource ns name).mono fun _ _ ⟨v, served⟩ => ⟨v, served, trivial⟩
  exact marks.kept ((observant_permitted s _).deleteObject _ _ _ allowed)

/-- What a scenario that ends without a fault has passed. -/
def Accomplished (s : Scenario) (w : World τ σ) : Prop :=
  ∃ ns name t, Kept s.Rule (s.takenDown ns name ++ s.used ns name t) w

theorem runQueued_advances (a : Accelerator) (script : List UInt8) :
    (queuedCluster a).Advances site []
      (runQueued Trial.troubleshootRayCluster a script : Act τ σ Unit)
      fun _ => (queuedCluster a).Accomplished := by
  apply look (fun _ => prepare_moves _ _ _ _ _)
  intro grounds
  apply look (fun h => h.site)
  intro known
  refine mark (Act.Marks.createRayCluster _ _)
    (fun h => h.createRayCluster _ _ fun o => allows_creation rfl (by decide) o) fun name => ?_
  refine Act.Ensures.bind (Advances.watching ((Act.Marks.waitUntilReady_shows grounds.ns name).kept
    ((observant_permitted _ _).waitUntilReady _ _))) fun _ => ?_
  refine Act.Ensures.bind (train_advances (s := queuedCluster a) trivial grounds.ns name a)
    fun _ => Act.Ensures.exists_before fun t => ?_
  apply look (fun h => h.log _ _)
  intro _
  apply Act.Ensures.bind (deleteObject_advances (queuedCluster a) grounds.ns name t)
  intro _
  refine ((Act.Marks.waitForRayClustersDeleted _ _).kept
    ((observant_permitted _ _).waitForRayClustersDeleted _ _)).mono (fun _ => id) ?_ fun _ _ => id
  exact fun _ w kept => ⟨grounds.ns, name, t, kept⟩

/-- The wrapper runs before the Ray cluster in it is waited for. -/
theorem waitUntilRunning_advances (ns : Json) (text : String) {ms : List (Event τ → Prop)} :
    s.Advances site ms
      (do
        Act.log .info text
        let _ ← Trial.waitForAppWrapperPhase ns Workload.appWrapperRunning
          (Timescale.seconds Trial.mediumTimeout)
        let _ ← Trial.waitUntilReady ns (.text Workload.rayClusterName) : Act τ σ Unit)
      fun _ => Kept s.Rule
        (Event.ShowsReady ns (.text Workload.rayClusterName) :: Event.ShowsRunning ns :: ms) := by
  apply look (fun h => h.log _ _)
  intro _
  refine mark (Act.Marks.waitForAppWrapperRunning _ _)
    (fun h => h.waitForAppWrapperPhase _ _ _) fun _ => ?_
  apply mark (Act.Marks.waitUntilReady_shows _ _) (fun h => h.waitUntilReady _ _)
  intro v
  exact Advances.of_pure fun _ => id

theorem runWrapped_advances (a : Accelerator) (script : List UInt8) :
    (wrappedCluster a).Advances site []
      (runWrapped Trial.troubleshootRayCluster a script : Act τ σ Unit)
      fun _ => (wrappedCluster a).Accomplished := by
  apply look (fun _ => prepare_moves _ _ _ _ _)
  intro grounds
  apply look (fun h => h.site)
  intro known
  apply Advances.lift_bind
  intro body wrapped
  refine mark (Act.Marks.createObject _ _ _)
    (fun h => h.createObject _ _ _ fun o => allows_creation rfl (by decide) o) fun made => ?_
  apply Advances.lift_bind
  intro name named
  refine Advances.of_head (Event.CreatesWrapper grounds.ns name) ?_ ?_
  · refine look (fun h => h.log _ _) fun _ => Advances.lift_bind fun rayCluster known => ?_
    rw [Workload.RayCluster.name_toJson] at known
    cases known
    apply Act.Ensures.bind (Advances.watching (waitUntilRunning_advances grounds.ns _))
    intro _
    refine Act.Ensures.bind (train_advances (s := wrappedCluster a) trivial grounds.ns name a)
      fun _ => Act.Ensures.exists_before fun t => ?_
    apply look (fun h => h.log _ _)
    intro _
    apply Act.Ensures.bind (deleteObject_advances (wrappedCluster a) grounds.ns name t)
    intro _
    refine ((Act.Marks.waitForAppWrappersDeleted _ _).kept
      ((observant_permitted _ _).waitForAppWrappersDeleted _ _)).mono (fun _ => id) ?_ fun _ _ => id
    exact fun _ w kept => ⟨grounds.ns, name, t, kept⟩
  · rintro e rfl
    exact ⟨Event.creates_of_named named, _, _, _, _, wrapped, rfl⟩

/-- The secrets of a head that are as required. -/
theorem headPullSecrets_of_requirePullSecret {rayCluster : Json}
    (h : Trial.requirePullSecret rayCluster = .ok ()) :
    Trial.headPullSecrets rayCluster =
      .ok (.list [.object [("name", .text Trial.pullSecretName)]]) := by
  obtain ⟨secrets, asked, h⟩ := ok_of_bind h
  rw [asked]
  split at h
  next agrees =>
    obtain ⟨secret, rfl, one⟩ := Json.eq_singleton_of_agrees rfl agrees
    obtain ⟨name, rfl, same⟩ := Json.eq_field_of_agrees (v := secret) rfl one
    rw [Json.eq_text_of_agrees same]
  next => cases h

theorem runPullSecret_advances (script : List UInt8) :
    pullSecret.Advances site [] (runPullSecret Trial.troubleshootRayCluster script : Act τ σ Unit)
      fun _ => pullSecret.Accomplished := by
  apply look (fun _ => prepare_moves _ _ _ _ _)
  intro grounds
  apply look (fun h => h.site)
  intro known
  refine mark (Act.Marks.createRayCluster _ _)
    (fun h => h.createRayCluster _ _ fun o => allows_creation rfl (by decide) o) fun name => ?_
  apply Act.Ensures.bind (Advances.watching
    ((Act.Marks.waitUntilReady _ _).kept ((observant_permitted _ _).waitUntilReady _ _)))
  intro v
  apply Advances.lift_bind
  intro _ required
  refine Advances.of_head (Event.ShowsReadyWithSecret grounds.ns name) ?_ ?_
  · refine Act.Ensures.bind (deleteObject_advances pullSecret grounds.ns name ⟨.null, .null, ""⟩)
      fun _ => ?_
    refine ((Act.Marks.waitForRayClusterGone _ _ _).kept
      ((observant_permitted _ _).waitForRayClusterGone _ _ _)).mono (fun _ => id) ?_ fun _ _ => id
    exact fun _ w kept => ⟨grounds.ns, name, ⟨.null, .null, ""⟩, kept⟩
  · rintro e ⟨served, state⟩
    exact ⟨v, served, state, headPullSecrets_of_requirePullSecret required⟩

theorem run_advances (s : Scenario) (script : List UInt8) :
    s.Advances site [] (s.run script : Act τ σ Unit) fun _ => s.Accomplished := by
  cases s with
  | queuedCluster a => exact runQueued_advances a script
  | wrappedCluster a => exact runWrapped_advances a script
  | pullSecret => exact runPullSecret_advances script

/-- No reading of a job has shown that it has succeeded. -/
def NeverSucceeded (record : List (Event τ)) : Prop :=
  ∀ ns name v, .called (.getObject .rayJob ns name) (.served v) ∈ record →
    Workload.rayJobStatus v ≠ .ok (.text Workload.jobSucceeded)

/-- What is always true of the end of a scenario. -/
structure Sound (s : Scenario) (ended : Except Fault Unit × World τ σ) : Prop where
  /-- Whatever was submitted, asked for or deleted had its reasons. -/
  lawful : Lawful s.Rule ended.2.record
  /-- A scenario that passes has done all that it is about, in its order. -/
  verdict : ended.1 = .ok () →
    ∃ ns name t, Passed (s.takenDown ns name ++ s.used ns name t) ended.2.record
  /-- A training that was never seen to succeed does not pass. -/
  honest : s.Trains → NeverSucceeded ended.2.record → ended.1 ≠ .ok ()

/-- **The order and the verdict of a scenario.**  At every site and from every world without a
record, a scenario keeps its order however it ends, and passes only for its reasons. -/
theorem run_sound (s : Scenario) (script : List UInt8) (site : Site τ σ) (start : World τ σ) :
    s.Sound ((s.run script).run site { start with record := [] }) := by
  have advances : s.Advances site [] (s.run script : Act τ σ Unit) fun _ => s.Accomplished :=
    run_advances s script
  have ended := advances.ends { start with record := [] } ⟨trivial, .start []⟩
  revert ended
  rcases (s.run script).run site { start with record := [] } with ⟨f | v, w⟩ <;> intro ended
  · exact {
      lawful := ended
      verdict := fun passed => by cases passed
      honest := fun _ _ passed => by cases passed }
  · obtain ⟨ns, name, t, lawful, passed⟩ := ended
    refine ⟨lawful, fun _ => ⟨ns, name, t, passed⟩, fun trains never _ => ?_⟩
    have succeeded : (Event.ShowsSucceeded ns t.rayJob t.job : Event τ → Prop) ∈
        s.takenDown ns name ++ s.used ns name t := by
      refine List.mem_append_right _ ?_
      cases s with
      | pullSecret => exact trains.elim
      | _ => exact List.mem_append_left _ (List.mem_append_right _ List.mem_cons_self)
    obtain ⟨e, member, reply, rfl, status, -⟩ := passed.exists_mem succeeded
    exact never ns t.rayJob reply member status

end Scenario

end TrialRun
