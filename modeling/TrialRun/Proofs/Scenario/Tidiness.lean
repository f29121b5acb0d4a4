import TrialRun.Proofs.Scenario.Endings
import TrialRun.Proofs.Scenario.Release

/-!
# Before anything has failed

As long as nothing has failed, a scenario looks at nothing inside of its namespace.  What it puts
off is to undo what it has created; and if the server says that a namespace was created, its
deletion is put off before there can be a fault (`Tidy`).

All parts of a scenario keep this up to the ending of its body (`Scenario.runWith_ends`).  Most of
them stay outside altogether: they neither look inside, nor create or delete a namespace, nor put
anything off (`World.StaysOut`).
-/

set_option autoImplicit false

namespace TrialRun

variable {τ σ α β : Type}

/-! ## Staying outside -/

/-- The event looks inside: at pods, at their logs, or at what happened to them. -/
def Event.looksInside : Event τ → Bool
  | .called c _ => c.looksInside
  | _ => false

/-- The event neither looks inside nor creates or deletes a namespace. -/
structure Event.StaysOut (e : Event τ) : Prop where
  unseen : e.looksInside = false
  creates : ∀ name, e.created? ≠ some (.ofNamespace name)
  deletes : ∀ name, e.deletes? ≠ some (.ofNamespace name)

/-- Everyday business stays outside. -/
theorem Event.IsEveryday.staysOut {e : Event τ} (h : e.IsEveryday) : e.StaysOut where
  unseen := by
    cases e with
    | called c o => exact h.elim
    | _ => rfl
  creates _ created := nomatch (created?_eq_none h.creates?).symm.trans created
  deletes _ deletes := nomatch h.deletes?.symm.trans deletes

/-- Nothing fails and nothing is put off, and all that happens stays outside. -/
structure World.StaysOut (w w' : World τ σ) : Prop where
  failed : w'.trial.failed = w.trial.failed
  pending : w'.trial.pending = w.trial.pending
  grown : w.Grows Event.StaysOut w'

/-- What stays outside may be recorded. -/
theorem Event.StaysOut.allows {e : Event τ} (h : e.StaysOut) :
    Allows (World.StaysOut (σ := σ)) e := fun w => ⟨rfl, rfl, World.Grows.of_recorded h w⟩

/-- Looking at the cluster and at dashboards stays outside, as long as it does not look at pods. -/
theorem glancing_staysOut : Glancing (World.StaysOut (τ := τ) (σ := σ)) := by
  have grows : Everyday (World.Grows (τ := τ) (σ := σ) Event.StaysOut) :=
    everyday_grows fun _ => Event.IsEveryday.staysOut
  exact {
    refl := fun w => ⟨rfl, rfl, grows.refl w⟩
    trans := fun first second => ⟨second.failed.trans first.failed,
      second.pending.trans first.pending, grows.trans first.grown second.grown⟩
    clock := fun w t => ⟨rfl, rfl, grows.clock w t⟩
    outside := fun w s => ⟨rfl, rfl, grows.outside w s⟩
    passing := fun _ _ passing => passing.isEveryday.staysOut.allows _
    volume := fun w v changed => ⟨rfl, rfl, grows.volume w v changed⟩
    directory := fun w p unnoted => ⟨rfl, rfl, grows.directory w p unnoted⟩
    wrote := fun w p contents => ⟨rfl, rfl, grows.wrote w p contents⟩
    glances := fun c o nothing kept unseen => Event.StaysOut.allows
      { unseen := unseen
        creates := fun _ created =>
          nomatch (created?_eq_none (e := .called c o) nothing).symm.trans created
        deletes := fun _ deletes => nomatch kept.symm.trans deletes }
    probes := fun _ _ _ _ => Event.StaysOut.allows ⟨rfl, fun _ => nofun, fun _ => nofun⟩ }

/-- What creates something in a namespace stays outside. -/
theorem staysOut_of_creates {f : Cluster.Form} {c : Cluster.Call f} {kind : Kind} {ns : Json}
    (creates : c.creates? = some (kind, ns)) (other : kind ≠ .namespace) (o : Outcome f.Carrier) :
    (Event.called c o : Event τ).StaysOut where
  unseen := by
    cases c with
    | listPods _ _ | readPodLog _ _ _ | listOccurrences _ => cases creates
    | _ => rfl
  creates name created := by
    have same := (Event.creates?_of_created? created).symm.trans creates
    exact other (Prod.mk.inj (Option.some.inj same)).1.symm
  deletes name deletes := nomatch (Cluster.Call.deletes?_of_creates? creates).symm.trans deletes

/-- Objects are created in a namespace, and none of them is one. -/
theorem allows_createObject (type : ResourceType) (ns body : Json)
    (o : Outcome Cluster.Form.value.Carrier) :
    Allows (World.StaysOut (τ := τ) (σ := σ)) (.called (.createObject type ns body) o) := by
  have creates : (Cluster.Call.createObject type ns body).creates? = some (.object type, ns) := rfl
  exact (staysOut_of_creates creates nofun o).allows

/-- The same for the config map of the script. -/
theorem allows_createConfigMap (ns : Json) (configMap : Cluster.ConfigMap)
    (o : Outcome Cluster.Form.configMap.Carrier) :
    Allows (World.StaysOut (τ := τ) (σ := σ)) (.called (.createConfigMap ns configMap) o) := by
  have creates : (Cluster.Call.createConfigMap ns configMap).creates? = some (.configMap, ns) := rfl
  exact (staysOut_of_creates creates nofun o).allows

/-- What deletes an object deletes no namespace. -/
theorem allows_deleteObject (type : ResourceType) (ns name : Json)
    (o : Outcome Cluster.Form.value.Carrier) :
    Allows (World.StaysOut (τ := τ) (σ := σ)) (.called (.deleteObject type ns name) o) := by
  refine Event.StaysOut.allows ⟨rfl, fun _ created => ?_, fun _ => nofun⟩
  cases Event.creates?_of_created? created

/-! ## What is owed -/

/-- What was put off is to undo something.  A namespace is to be deleted if it was created, and only
then; none was deleted yet. -/
structure Owed (w : World τ σ) : Prop where
  undoing : ∃ ts : List Target, w.trial.pending = ts.map Target.undo
  namespaces : ∀ name, .deleteTestNamespace name ∈ w.trial.pending ↔
    ∃ e ∈ w.record, e.created? = some (.ofNamespace name)
  undeleted : ∀ e ∈ w.record, ∀ name, e.deletes? ≠ some (.ofNamespace name)

namespace Owed

variable {w w' : World τ σ}

/-- Nothing more is owed if no namespace is created or deleted. -/
theorem grown {P : Event τ → Prop} (h : Owed w) (same : w'.trial.pending = w.trial.pending)
    (grown : w.Grows P w') (creates : ∀ e, P e → ∀ name, e.created? ≠ some (.ofNamespace name))
    (deletes : ∀ e, P e → ∀ name, e.deletes? ≠ some (.ofNamespace name)) : Owed w' := by
  obtain ⟨es, record, new⟩ := grown
  refine ⟨same ▸ h.undoing, fun name => ?_, ?_⟩
  · rw [same, h.namespaces name, record]
    constructor
    · rintro ⟨e, member, created⟩
      exact ⟨e, List.mem_append_right es member, created⟩
    · rintro ⟨e, member, created⟩
      rcases List.mem_append.mp member with late | early
      · exact absurd created (creates e (new e late) name)
      · exact ⟨e, early, created⟩
  · rw [record]
    intro e member
    rcases List.mem_append.mp member with late | early
    · exact deletes e (new e late)
    · exact h.undeleted e early

/-- What keeps silent leaves what is owed as it is. -/
theorem idles (h : Owed w) (idle : w.Idles Event.IsSilent w') : Owed w' := by
  refine h.grown idle.1 idle.2 (fun e silent name created => ?_) fun e silent name deletes => ?_
  · exact nomatch (created?_eq_none silent.1).symm.trans created
  · exact nomatch silent.2.symm.trans deletes

end Owed

/-! ## Tidy worlds -/

/-- Nothing has failed, nothing was looked at inside, and what is owed was put off. -/
structure Tidy (w : World τ σ) : Prop extends Owed w where
  fine : w.trial.failed = false
  unseen : ∀ e ∈ w.record, e.looksInside = false

namespace Tidy

variable {w w' : World τ σ}

/-- What stays outside leaves a tidy world tidy. -/
theorem staysOut (h : Tidy w) (out : w.StaysOut w') : Tidy w' where
  toOwed := h.toOwed.grown out.pending out.grown (fun _ => Event.StaysOut.creates)
    fun _ => Event.StaysOut.deletes
  fine := out.failed.trans h.fine
  unseen := by
    obtain ⟨es, record, new⟩ := out.grown
    rw [record]
    intro e member
    rcases List.mem_append.mp member with late | early
    · exact (new e late).unseen
    · exact h.unseen e early

/-- The deletion of an object may be put off. -/
theorem putOff (h : Tidy w) (type : ResourceType) (ns name : Json) :
    Tidy (w.noted fun own =>
      { own with pending := .cluster (.delete type ns name) :: own.pending }) where
  undoing := by
    obtain ⟨ts, pending⟩ := h.undoing
    exact ⟨⟨.object type, ns, name⟩ :: ts, congrArg (_ :: ·) pending⟩
  namespaces other := by
    refine Iff.trans ?_ (h.namespaces other)
    exact ⟨fun member => (List.mem_cons.mp member).resolve_left nofun, List.mem_cons_of_mem _⟩
  undeleted := h.undeleted
  fine := h.fine
  unseen := h.unseen

end Tidy

/-- The world would be tidy if the deletion of this namespace were put off too. -/
def TidyWith (name : Json) (w : World τ σ) : Prop :=
  Tidy (w.noted fun own => { own with pending := .deleteTestNamespace name :: own.pending })

namespace TidyWith

variable {name : Json} {w w' : World τ σ}

/-- It also may come between the creation of a namespace and the note that it is to be deleted. -/
theorem staysOut (h : TidyWith name w) (out : w.StaysOut w') : TidyWith name w' :=
  Tidy.staysOut h
    ⟨out.failed, congrArg (Step.deleteTestNamespace name :: ·) out.pending, out.grown⟩

/-- A namespace was created. -/
theorem made (h : Tidy w) (body made : Cluster.Namespace) :
    TidyWith made.metadata.name
      (w.recorded (.called (.createNamespace body) (.served made))) where
  undoing := by
    obtain ⟨ts, pending⟩ := h.undoing
    exact ⟨.ofNamespace made.metadata.name :: ts, congrArg (_ :: ·) pending⟩
  namespaces name := by
    constructor
    · intro member
      rcases List.mem_cons.mp member with same | before
      · obtain rfl := Step.deleteTestNamespace.inj same
        exact ⟨_, List.mem_cons_self, rfl⟩
      · obtain ⟨e, there, created⟩ := (h.namespaces name).mp before
        exact ⟨e, List.mem_cons_of_mem _ there, created⟩
    · rintro ⟨e, member, created⟩
      rcases List.mem_cons.mp member with rfl | before
      · cases created
        exact List.mem_cons_self
      · exact List.mem_cons_of_mem _ ((h.namespaces name).mpr ⟨e, before, created⟩)
  undeleted := List.forall_mem_cons.mpr ⟨fun _ => nofun, h.undeleted⟩
  fine := h.fine
  unseen := List.forall_mem_cons.mpr ⟨rfl, h.unseen⟩

theorem log (level : Level) (text : String) {site : Site τ σ} {E : Fault → World τ σ → Prop} :
    (Act.log level text : Act τ σ Unit).Ensures site (TidyWith name) (fun _ => TidyWith name) E :=
  Act.Ensures.log fun w h => h.staysOut (glancing_staysOut.recorded w _ trivial)

variable [Timescale τ] {site : Site τ σ}

/-- A namespace that was created is to be deleted; one that was not leaves the world tidy. -/
theorem createNamespace (name : Json) :
    (Cluster.createNamespace name : Act τ σ Cluster.Namespace).Ensures site Tidy
      (fun made => TidyWith made.metadata.name) fun _ => Tidy := by
  refine Act.Ensures.bind (Q := fun made => TidyWith made.metadata.name) ⟨fun w tidy => ?_⟩
    fun made => Act.Ensures.bind (log _ _) fun _ => Act.Ensures.pure fun _ => id
  let c : Cluster.Call .namespace := .createNamespace (Cluster.testNamespace name)
  have waits : ∀ o : Outcome Cluster.Namespace, (site.answer c w.outside).1.outcome = o →
      (w.recorded (.called c o)).StaysOut (w.answered site c) := by
    rintro o rfl
    exact ⟨rfl, rfl, _, rfl, fun e member => (Outcome.isEveryday_of_mem_waits member).staysOut⟩
  rw [Cluster.run_ask_eq]
  change Ends _ _ ((site.answer c w.outside).1.outcome.told _, w.answered site c)
  cases answered : (site.answer c w.outside).1.outcome with
  | served made => exact (TidyWith.made tidy _ made).staysOut (waits _ answered)
  | refused cause =>
    have unmade : (Event.called c (.refused cause) : Event τ).StaysOut :=
      ⟨rfl, fun _ => nofun, fun _ => nofun⟩
    exact (tidy.staysOut (unmade.allows w)).staysOut (waits _ answered)
  | late cause =>
    have unmade : (Event.called c (.late cause) : Event τ).StaysOut :=
      ⟨rfl, fun _ => nofun, fun _ => nofun⟩
    exact (tidy.staysOut (unmade.allows w)).staysOut (waits _ answered)

end TidyWith

/-! ## Acts that keep tidy -/

/-- The act leaves a tidy world tidy, however it ends. -/
def Act.KeepsTidy (a : Act τ σ α) : Prop :=
  ∀ site, a.Ensures site Tidy (fun _ => Tidy) fun _ => Tidy

namespace Act.KeepsTidy

variable {a : Act τ σ α} {next : α → Act τ σ β}

/-- An act that stays outside keeps tidy. -/
theorem of_moves (h : a.Moves World.StaysOut) : a.KeepsTidy :=
  fun _ => h.ensures fun _ _ => Tidy.staysOut

/-- Two acts that keep tidy. -/
theorem bind (first : a.KeepsTidy) (second : ∀ v, (next v).KeepsTidy) : (a >>= next).KeepsTidy :=
  fun site => Ensures.bind (first site) fun v => second v site

/-- The deletion of an object may be put off at any time. -/
theorem defer (type : ResourceType) (ns name : Json) :
    (Trial.defer (.cluster (.delete type ns name)) : Act τ σ Unit).KeepsTidy :=
  fun _ => Ensures.note fun _ tidy => tidy.putOff type ns name

variable [Timescale τ]

/-- No fault can come between the reply that a namespace was created and the note that it is to be
deleted. -/
theorem newTestNamespace (name : Json) :
    (Trial.newTestNamespace name : Act τ σ Cluster.Namespace).KeepsTidy := by
  intro site
  refine Ensures.bind (TidyWith.createNamespace name) fun made => ?_
  refine Ensures.bind (TidyWith.log _ _) fun _ => Ensures.bind (Q := fun _ => Tidy) ?_ fun _ => ?_
  · exact Ensures.note fun _ => id
  · exact Ensures.pure fun _ => id

/-- The deletions of the flavor and of the cluster queue are put off, and both are no namespaces. -/
theorem setUpQueues (ns : Json) (a : Accelerator) :
    (Trial.setUpQueues ns a : Act τ σ Json).KeepsTidy := by
  have h := glancing_staysOut (τ := τ) (σ := σ)
  refine bind (of_moves ?_) fun flavor => bind (of_moves (h.lift _)) fun name => ?_
  · exact h.createResourceFlavor _ fun _ => allows_createObject _ _ _
  refine bind (defer _ _ _) fun _ => bind (of_moves ?_) fun queue => ?_
  · exact h.createQuotaQueue _ _ fun _ => allows_createObject _ _ _
  refine bind (of_moves (h.lift _)) fun queueName => bind (defer _ _ _) fun _ => of_moves ?_
  exact h.createLocalQueue _ _ _ fun _ => allows_createObject _ _ _

/-- All preparations keep tidy, the namespace included. -/
theorem prepare (name : Json) (a : Accelerator) (script : List UInt8) :
    (Trial.prepare name a script : Act τ σ Trial.Grounds).KeepsTidy := by
  have h := glancing_staysOut (τ := τ) (σ := σ)
  refine bind (newTestNamespace name) fun made => bind (setUpQueues _ a) fun queue => of_moves ?_
  refine h.bind (h.createScript _ script fun _ => allows_createConfigMap _ _) fun configMap => ?_
  exact h.bind (h.lift _) fun _ => h.pure _

end Act.KeepsTidy

/-! ## The endings of scenarios -/

variable {site : Site τ σ}

namespace Act.EndsFor

variable {a : Act τ σ α} {next : Look τ σ → α → Act τ σ β}

/-- What stays out comes before something with watched parts. -/
theorem stay (h : a.Moves World.StaysOut)
    (second : ∀ v, EndsFor site Tidy fun look => next look v) :
    EndsFor site Tidy fun look => a >>= next look :=
  before (KeepsTidy.of_moves h site) second

/-- What stays out has no watched parts. -/
theorem stays (h : a.Moves World.StaysOut) : EndsFor site Tidy fun _ => a :=
  const (KeepsTidy.of_moves h site)

/-- A watched part stays out by itself. -/
theorem watch (ns name : Json) (h : a.Moves World.StaysOut) :
    EndsFor site Tidy fun look => Trial.watching look ns name a :=
  watching ns name (KeepsTidy.of_moves h site)

variable [Timescale τ]

/-- A training has one watched part; all else in it stays outside. -/
theorem trainWith (ns : Json) (a : Accelerator) :
    EndsFor site Tidy fun look : Look τ σ => Trial.trainWith look ns a := by
  have h := glancing_staysOut (τ := τ) (σ := σ)
  have logs : ∀ (job : Json) (e : Event τ), e.AsksForLogs job →
      Allows (World.StaysOut (σ := σ)) e := by
    intro job e asks
    cases e with
    | requested r x => exact Event.StaysOut.allows ⟨rfl, fun _ => nofun, fun _ => nofun⟩
    | _ => exact asks.elim
  refine stay h.site fun known => stay (h.createObject _ _ _ (allows_createObject _ _ _)) ?_
  refine fun made => stay (h.lift _) fun name => stay (h.log _ _) fun _ => ?_
  refine stay (h.dashboardUrl _ _) fun url => stay (h.log _ _) fun _ => ?_
  refine stay (h.connect _) fun dashboard => bind (watch _ _ ?_) fun rayJob => ?_
  · refine h.bind (h.waitForRayJobTerminal _ _ _) fun _ => h.bind (h.getObject _ _ _) fun _ => ?_
    exact h.bind (h.lift _) fun _ => h.pure _
  · refine stays (h.bind (h.lift _) fun job => ?_)
    exact h.bind (h.writeJobLogs dashboard job (logs job)) fun _ => h.pure _

end Act.EndsFor

namespace Scenario

variable [Timescale τ]

open Act.EndsFor (before bind stay stays trainWith watch)

/-- Two watched parts: until the Ray cluster is ready, and in the training. -/
theorem runQueued_ends (a : Accelerator) (script : List UInt8) :
    Act.EndsFor site Tidy fun look : Look τ σ => runQueued look a script := by
  have h := glancing_staysOut (τ := τ) (σ := σ)
  refine before (Act.KeepsTidy.prepare _ a script site) fun grounds => stay h.site fun known => ?_
  refine stay (h.createRayCluster _ _ (allows_createObject _ _ _)) fun name => ?_
  refine bind (watch _ _ (h.waitUntilReady _ _)) fun _ => bind (trainWith _ a) fun _ => ?_
  refine stays (h.bind (h.log _ _) fun _ => ?_)
  exact h.bind (h.deleteObject _ _ _ (allows_deleteObject _ _ _)) fun _ =>
    h.waitForRayClustersDeleted _ _

/-- The same with a wrapper, whose running is waited for in the first watched part. -/
theorem runWrapped_ends (a : Accelerator) (script : List UInt8) :
    Act.EndsFor site Tidy fun look : Look τ σ => runWrapped look a script := by
  have h := glancing_staysOut (τ := τ) (σ := σ)
  refine before (Act.KeepsTidy.prepare _ a script site) fun grounds => stay h.site fun known => ?_
  refine stay (h.lift _) fun body => stay (h.createObject _ _ _ (allows_createObject _ _ _)) ?_
  refine fun made => stay (h.lift _) fun name => stay (h.log _ _) fun _ => ?_
  refine stay (h.lift _) fun rayCluster => bind (watch _ _ ?_) fun _ => ?_
  · refine h.bind (h.log _ _) fun _ => h.bind (h.waitForAppWrapperPhase _ _ _) fun _ => ?_
    exact h.bind (h.waitUntilReady _ _) fun _ => h.pure _
  · refine bind (trainWith _ a) fun _ => stays (h.bind (h.log _ _) fun _ => ?_)
    exact h.bind (h.deleteObject _ _ _ (allows_deleteObject _ _ _)) fun _ =>
      h.waitForAppWrappersDeleted _ _

/-- One watched part, and the secrets are looked at behind it. -/
theorem runPullSecret_ends (script : List UInt8) :
    Act.EndsFor site Tidy fun look : Look τ σ => runPullSecret look script := by
  have h := glancing_staysOut (τ := τ) (σ := σ)
  refine before (Act.KeepsTidy.prepare _ _ script site) fun grounds => stay h.site fun known => ?_
  refine stay (h.createRayCluster _ _ (allows_createObject _ _ _)) fun name => ?_
  refine bind (watch _ _ (h.waitUntilReady _ _)) fun rayCluster => ?_
  refine stays (h.bind (h.lift _) fun _ => ?_)
  exact h.bind (h.deleteObject _ _ _ (allows_deleteObject _ _ _)) fun _ =>
    h.waitForRayClusterGone _ _ _

/-- **Every scenario comes to one ending, in a tidy world.**  Looking at its Ray cluster changes
nothing before that, whatever the way of looking. -/
theorem runWith_ends (s : Scenario) (script : List UInt8) :
    Act.EndsFor site Tidy fun look : Look τ σ => s.runWith look script := by
  cases s with
  | queuedCluster a => exact runQueued_ends a script
  | wrappedCluster a => exact runWrapped_ends a script
  | pullSecret => exact runPullSecret_ends script

end Scenario

end TrialRun
