import TrialRun.Proofs.Scenario.Ledger

/-!
# Creating and booking

An act that creates by a plan adds to the stage the kinds that it was to create, and keeps the books
in order however it ends (`Act.Asks`).  Plans are put together as acts are; an act that is to create
nothing has an empty one.

What belongs to the whole cluster is created and then booked, by the name in the reply.  An act that
creates it ends before it is booked (`Act.AsksWide`), and whoever does the act books it.
-/

set_option autoImplicit false

namespace TrialRun

variable {τ σ α β : Type}

/-! ## Calls that create -/

section Calls

variable {f : Cluster.Form} {c : Cluster.Call f} {kind : Kind} {ns : Json}

/-- The books behind a call that is to create something. -/
theorem books_of_creation (h : c.creates? = some (kind, ns)) {o : Outcome f.Carrier}
    {later : List (Event τ)} (everyday : ∀ e ∈ later, Event.IsEveryday e) {w w' : World τ σ}
    (record : w'.record = later ++ .called c o :: w.record) :
    kindsAsked w'.record = kind :: kindsAsked w.record ∧
      wideCreated w'.record = wideCreated [(.called c o : Event τ)] ++ wideCreated w.record ∧
      wideDeleted w'.record = wideDeleted w.record ∧
      (Spoiled w.record → Spoiled w'.record) := by
  have narrow : ∀ e ∈ later, e.IsNarrow := fun e member => (everyday e member).isSilent.isNarrow
  have asked : kindsAsked [(.called c o : Event τ)] = [kind] := by
    simp [kindsAsked, Event.creates?, h]
  have deleted : wideDeleted [(.called c o : Event τ)] = [] := by
    simp [wideDeleted, Event.deletes?, Cluster.Call.deletes?_of_creates? h]
  rw [← List.singleton_append, ← List.append_assoc] at record
  refine ⟨?_, ?_, ?_, fun spoiled => record ▸ spoiled.append _⟩
  · rw [record, kindsAsked_append, kindsAsked_append, kindsAsked_eq_nil narrow, asked]
    rfl
  · rw [record, wideCreated_append, wideCreated_append, wideCreated_eq_nil narrow]
    rfl
  · rw [record, wideDeleted_append, wideDeleted_append, wideDeleted_eq_nil narrow, deleted]
    rfl

/-- What a call has created is of the kind that it was to create. -/
theorem wideCreated_eq_nil_of_narrow (h : c.creates? = some (kind, ns))
    (narrow : kind.isWide = false) (o : Outcome f.Carrier) :
    wideCreated [(.called c o : Event τ)] = [] := by
  apply List.filter_eq_nil_iff.mpr
  intro t member
  obtain ⟨e, there, created⟩ := List.mem_filterMap.mp member
  obtain rfl := List.mem_singleton.mp there
  have same := (Event.creates?_of_created? created).symm.trans h
  rw [(Prod.mk.inj (Option.some.inj same)).1, narrow]
  exact Bool.false_ne_true

end Calls

/-! ## Acts that create by a plan -/

/-- A part of the plan was carried out; the last kind of a plan stands first. -/
def Partly (plan kinds : List Kind) (w : World τ σ) : Prop :=
  ∃ part, part <:+ plan ∧ Stage (part ++ kinds) w

namespace Partly

variable {plan kinds : List Kind} {w : World τ σ}

/-- Nothing was carried out yet. -/
theorem none (stage : Stage kinds w) : Partly plan kinds w := ⟨[], List.nil_suffix, stage⟩

/-- All was carried out. -/
theorem all (stage : Stage (plan ++ kinds) w) : Partly plan kinds w :=
  ⟨plan, List.suffix_refl plan, stage⟩

/-- A plan may go on. -/
theorem earlier {after : List Kind} (h : Partly plan kinds w) : Partly (after ++ plan) kinds w := by
  obtain ⟨part, suffix, stage⟩ := h
  exact ⟨part, suffix.trans (List.suffix_append after plan), stage⟩

/-- A part of what follows is a part of the whole plan, behind all that came before. -/
theorem later {after : List Kind} (h : Partly after (plan ++ kinds) w) :
    Partly (after ++ plan) kinds w := by
  obtain ⟨part, ⟨rest, rfl⟩, stage⟩ := h
  refine ⟨part ++ plan, ⟨rest, (List.append_assoc ..).symm⟩, ?_⟩
  rw [List.append_assoc]
  exact stage

end Partly

namespace Act

/-- The act is to create things by a plan, and leaves the books in order however it ends. -/
def Asks (plan : List Kind) (a : Act τ σ α) : Prop :=
  ∀ site kinds, a.Ensures site (Stage kinds) (fun _ => Stage (plan ++ kinds))
    fun _ => Partly plan kinds

namespace Asks

variable {plan after : List Kind} {kind : Kind} {a : Act τ σ α} {next : α → Act τ σ β}

/-- What creates nothing has an empty plan. -/
theorem of_idle (idle : a.Moves (World.Idles Event.IsNarrow)) : a.Asks [] := by
  intro site kinds
  refine (idle.ensures fun w w' stage moved => ?_).mono (fun _ => id) (fun _ _ => id)
    fun _ _ => Partly.none
  exact Stage.idles moved stage

/-- Plans are put together as acts are. -/
theorem bind (first : a.Asks plan) (second : ∀ v, (next v).Asks after) :
    (a >>= next).Asks (after ++ plan) := by
  intro site kinds
  refine Ensures.bind ((first site kinds).mono (fun _ => id) (fun _ _ => id)
    fun _ _ => Partly.earlier) fun v => ?_
  refine (second v site (plan ++ kinds)).mono (fun _ => id) (fun u w stage => ?_)
    fun _ _ => Partly.later
  rw [List.append_assoc]
  exact stage

/-- What creates nothing may follow. -/
theorem idle_after (h : a.Asks plan) (idle : ∀ v, (next v).Moves (World.Idles Event.IsNarrow)) :
    (a >>= next).Asks plan :=
  h.bind fun v => of_idle (idle v)

/-- What creates nothing may come before. -/
theorem idle_before (idle : a.Moves (World.Idles Event.IsNarrow)) (h : ∀ v, (next v).Asks plan) :
    (a >>= next).Asks plan := by
  have both := (of_idle idle).bind h
  rw [List.append_nil] at both
  exact both

variable [Timescale τ]

/-- A call that creates something in a namespace is the whole plan of its operation. -/
theorem ask {f : Cluster.Form} {c : Cluster.Call f} {ns : Json} (task : String)
    (creates : c.creates? = some (kind, ns)) (narrow : kind.isWide = false) :
    (Cluster.ask task c : Act τ σ f.Carrier).Asks [kind] := by
  intro site kinds
  refine ⟨fun w stage => ?_⟩
  obtain ⟨later, w', trial, everyday, record, ended⟩ := Cluster.run_ask task c site w
  obtain ⟨asked, created, deleted, spoiled⟩ := books_of_creation creates everyday record
  rw [wideCreated_eq_nil_of_narrow creates narrow, List.nil_append] at created
  have after : Stage ([kind] ++ kinds) w' := by
    refine ⟨by rw [asked, stage.asked]; rfl, stage.booked.imp (fun booked => ?_) spoiled⟩
    exact ⟨by rw [trial, created, booked.pending], deleted.trans booked.nothing⟩
  rw [ended]
  cases (site.answer c w.outside).1.outcome with
  | served v => exact after
  | refused cause => exact .all after
  | late cause => exact .all after

/-- An object of a namespace is created by its type. -/
theorem createObject {type : ResourceType} (narrow : (Kind.object type).isWide = false)
    (ns body : Json) :
    (Cluster.createObject type ns body : Act τ σ Json).Asks [.object type] := by
  have h := observant_idles (τ := τ) (σ := σ)
  refine idle_before (h.lift _) fun _ => idle_after (ask _ rfl narrow) fun _ => ?_
  exact h.bind (h.lift _) fun _ => h.bind (h.lift _) fun _ => h.bind (h.log _ _) fun _ => h.pure _

/-- A local queue is the whole plan of creating it. -/
theorem createLocalQueue (ns clusterQueue : Json) (asDefault : Bool) :
    (Trial.createLocalQueue ns clusterQueue asDefault : Act τ σ Json).Asks
      [.object .localQueue] := by
  have h := observant_idles (τ := τ) (σ := σ)
  apply idle_after (createObject rfl _ _)
  intro _
  exact h.bind (h.lift _) fun _ => h.bind (h.log _ _) fun _ => h.pure _

/-- So is the config map of a script, which may not be sent if there is no script. -/
theorem createScript (ns : Json) (script : List UInt8) :
    (Trial.createScript ns script : Act τ σ Json).Asks [.configMap] := by
  have h := observant_idles (τ := τ) (σ := σ)
  refine idle_before (h.lift _) fun body => idle_after (idle_after (ask _ rfl rfl) ?_) ?_
  · exact fun _ => h.bind (h.log _ _) fun _ => h.pure _
  · exact fun _ => h.bind (h.log _ _) fun _ => h.pure _

/-- So is a Ray cluster. -/
theorem createRayCluster (ns body : Json) :
    (Trial.createRayCluster ns body : Act τ σ Json).Asks [.object .rayCluster] := by
  have h := observant_idles (τ := τ) (σ := σ)
  apply idle_after (createObject rfl _ _)
  intro _
  exact h.bind (h.lift _) fun _ => h.bind (h.log _ _) fun _ => h.pure _

end Asks

/-! ## Acts that create one thing of the whole cluster -/

/-- The act is to create one thing of a kind of the whole cluster.  If it ends with a value, then
what was created is named by it and is not booked yet. -/
def AsksWide (kind : Kind) (named : α → Except Fault Target) (a : Act τ σ α) : Prop :=
  ∀ site kinds, a.Ensures site (Stage kinds) (fun v => Unbooked ([kind] ++ kinds) (named v))
    fun _ => Partly [kind] kinds

end Act

/-- What is created without a name spoils the record. -/
theorem Unbooked.of_error {kinds : List Kind} {f : Fault} {w : World τ σ}
    (h : Unbooked kinds (.error f) w) : Stage kinds w := by
  refine ⟨h.asked, .inr ?_⟩
  rcases h.pending with ⟨t, known, -⟩ | spoiled
  · cases known
  · exact spoiled

section Unbooked

variable {site : Site τ σ} {kinds : List Kind} {named : Except Fault Target}
  {Q : β → World τ σ → Prop} {E : Fault → World τ σ → Prop}

/-- A part of the name is there if the name is known. -/
theorem Unbooked.lift_bind {r : Except Fault α} {next : α → Act τ σ β}
    (unnamed : ∀ f, r = .error f → ∃ g, named = .error g)
    (failed : ∀ f w, Stage kinds w → E f w)
    (second : ∀ v, r = .ok v → (next v).Ensures site (Unbooked kinds named) Q E) :
    ((liftM r : Act τ σ α) >>= next).Ensures site (Unbooked kinds named) Q E := by
  refine Act.Ensures.lift_bind (fun f fault w unbooked => ?_) second
  obtain ⟨g, rfl⟩ := unnamed f fault
  exact failed f w unbooked.of_error

/-- What was created may be logged before it is booked. -/
theorem Unbooked.log_bind {level : Level} {text : String} {next : Unit → Act τ σ β}
    (second : (next ()).Ensures site (Unbooked kinds named) Q E) :
    (Act.log level text >>= next).Ensures site (Unbooked kinds named) Q E := by
  have logged : (Act.log level text : Act τ σ Unit).Ensures site (Unbooked kinds named)
      (fun _ => Unbooked kinds named) E :=
    Act.Ensures.log fun w unbooked =>
      unbooked.idles (observant_idles.recorded w (.log level text) trivial)
  exact logged.bind fun _ => second

/-- What is put off in time is booked. -/
theorem Unbooked.defer {t : Target} :
    (Trial.defer t.undo : Act τ σ Unit).Ensures site (Unbooked kinds (.ok t))
      (fun _ => Stage kinds) E := by
  refine Act.Ensures.note fun w unbooked => ⟨unbooked.asked, unbooked.pending.imp_left ?_⟩
  rintro ⟨u, known, ⟨others, created, pending⟩, nothing⟩
  cases known
  refine ⟨?_, nothing⟩
  rw [World.noted_record, created, World.noted_trial, pending]
  rfl

end Unbooked

/-- What a reply names, as an object of the whole cluster. -/
def wideObject (type : ResourceType) (made : Json) : Except Fault Target :=
  (Workload.name made).map fun name => ⟨.object type, .null, name⟩

namespace Act.AsksWide

variable {kind : Kind} {named : α → Except Fault Target} {a : Act τ σ α} [Timescale τ]

/-- What was created for the whole cluster is not booked yet when its operation ends. -/
theorem ask {f : Cluster.Form} {c : Cluster.Call f} {ns : Json}
    {named : f.Carrier → Except Fault Target} (task : String)
    (creates : c.creates? = some (kind, ns)) (wide : kind.isWide = true)
    (name : ∀ v t, c.created? v = some t → named v = .ok t) :
    (Cluster.ask task c : Act τ σ f.Carrier).AsksWide kind named := by
  intro site kinds
  refine ⟨fun w stage => ?_⟩
  obtain ⟨later, w', trial, everyday, record, ended⟩ := Cluster.run_ask task c site w
  obtain ⟨asked, created, deleted, spoiled⟩ := books_of_creation creates everyday record
  rw [stage.asked] at asked
  rw [ended]
  cases outcome : (site.answer c w.outside).1.outcome with
  | served v =>
    rw [outcome] at record created
    refine ⟨asked, ?_⟩
    -- without a name the reply spoils the record; with one it is the head of the books
    cases reply : c.created? v with
    | none =>
      refine .inr ⟨.called c (.served v), ?_, .inr ⟨by rw [creates]; rfl, reply⟩⟩
      rw [record]
      exact List.mem_append_right _ List.mem_cons_self
    | some t =>
      have same : t.kind = kind := by
        have both := (Cluster.Call.creates?_of_created? reply).symm.trans creates
        exact (Prod.mk.inj (Option.some.inj both)).1
      have head : wideCreated [(.called c (.served v) : Event τ)] = [t] := by
        simp [wideCreated, Event.created?, reply, same, wide]
      rw [head, List.singleton_append] at created
      refine stage.booked.imp (fun booked => ⟨t, name v t reply, ?_⟩) spoiled
      exact ⟨⟨_, created, by rw [trial, booked.pending]⟩, deleted.trans booked.nothing⟩
  | _ =>
    rw [outcome] at created
    refine .all ⟨asked, stage.booked.imp (fun booked => ?_) spoiled⟩
    exact ⟨by rw [trial, booked.pending, created]; rfl, deleted.trans booked.nothing⟩

/-- An object of the whole cluster is to be booked by its type and by the name in the reply. -/
theorem createObject {type : ResourceType} (wide : (Kind.object type).isWide = true) (body : Json) :
    (Cluster.createObject type .null body : Act τ σ Json).AsksWide (.object type)
      (wideObject type) := by
  intro site kinds
  have named : ∀ v t, (Cluster.Call.createObject type .null body).created? v = some t →
      wideObject type v = .ok t := by
    intro v t created
    obtain ⟨name, known, rfl⟩ := Option.map_eq_some_iff.mp created
    rw [wideObject]
    cases reply : Workload.name v with
    | error f =>
      rw [reply] at known
      cases known
    | ok own =>
      rw [reply] at known
      cases known
      rfl
  apply Ensures.lift_bind (fun _ _ _ => .none)
  intro name _
  apply Ensures.bind (ask _ rfl wide named site kinds)
  intro made
  refine Unbooked.lift_bind (fun f fault => ⟨f, ?_⟩) (fun _ _ => .all) fun metadata found => ?_
  · rw [wideObject, Workload.name, fault]
    rfl
  · refine Unbooked.lift_bind (fun f fault => ⟨f, ?_⟩) (fun _ _ => .all) fun name _ => ?_
    · rw [wideObject, Workload.name, found]
      exact congrArg (Except.map _) fault
    · exact Unbooked.log_bind (Ensures.pure fun _ => id)

/-- An object of the whole cluster is created with a log record of its name. -/
theorem createNamed {type : ResourceType} (wide : (Kind.object type).isWide = true) (body : Json)
    (text : Json → String) :
    (do
      let made ← Cluster.createObject type .null body
      let name ← liftM (Workload.name made)
      Act.log .info (text name)
      Pure.pure made : Act τ σ Json).AsksWide (.object type) (wideObject type) := by
  intro site kinds
  apply Ensures.bind (createObject wide body site kinds)
  intro made
  refine Unbooked.lift_bind (fun f fault => ⟨f, ?_⟩) (fun _ _ => .all) fun name _ => ?_
  · rw [wideObject, fault]
    rfl
  · exact Unbooked.log_bind (Ensures.pure fun _ => id)

/-- A flavor is to be booked by its name. -/
theorem createResourceFlavor (spec : Json) :
    (Trial.createResourceFlavor spec : Act τ σ Json).AsksWide (.object .resourceFlavor)
      (wideObject .resourceFlavor) := createNamed rfl _ _

/-- A cluster queue is to be booked by its name. -/
theorem createQuotaQueue (flavor : Json) (a : Accelerator) :
    (Trial.createQuotaQueue flavor a : Act τ σ Json).AsksWide (.object .clusterQueue)
      (wideObject .clusterQueue) := by
  intro site kinds
  exact Ensures.lift_bind (fun _ _ _ => .none) fun name _ => createNamed rfl _ _ site kinds

end Act.AsksWide

/-- What was created under a name is booked by its name. -/
theorem Act.Asks.book {type : ResourceType} {a : Act τ σ Json} {next : Json → Json → Act τ σ β}
    {after : List Kind} (h : a.AsksWide (.object type) (wideObject type))
    (second : ∀ made name, (next made name).Asks after) :
    (do
      let made ← a
      let name ← liftM (Workload.name made)
      Trial.defer (.cluster (.delete type .null name))
      next made name).Asks (after ++ [Kind.object type]) := by
  intro site kinds
  -- a fault between the reply and the booking is one of the name, and then nothing is claimed
  have part : ∀ (_ : Fault) (w : World τ σ), Stage ([Kind.object type] ++ kinds) w →
      Partly (after ++ [Kind.object type]) kinds w := fun _ _ stage => (Partly.all stage).earlier
  refine Ensures.bind ((h site kinds).mono (fun _ => id) (fun _ _ => id)
    fun _ _ => Partly.earlier) fun made => ?_
  refine Unbooked.lift_bind (fun f fault => ⟨f, ?_⟩) part fun name known => ?_
  · rw [wideObject, fault]
    rfl
  · have named : wideObject type made = .ok ⟨.object type, .null, name⟩ := by
      rw [wideObject, known]
      rfl
    rw [named]
    apply Ensures.bind Unbooked.defer
    intro _
    refine (second made name site ([Kind.object type] ++ kinds)).mono (fun _ => id)
      (fun u w stage => ?_) fun _ _ => Partly.later
    rw [List.append_assoc]
    exact stage

/-- A test namespace is booked before it is given back. -/
theorem Act.Asks.newTestNamespace [Timescale τ] (name : Json) :
    (Trial.newTestNamespace name : Act τ σ Cluster.Namespace).Asks [.namespace] := by
  intro site kinds
  have asked : (Cluster.createNamespace name : Act τ σ Cluster.Namespace).AsksWide .namespace
      fun made => .ok ⟨.namespace, .null, made.metadata.name⟩ := by
    intro site kinds
    have called : ∀ task, (Cluster.ask task (.createNamespace (Cluster.testNamespace name)) :
        Act τ σ Cluster.Namespace).AsksWide .namespace
          fun made => .ok ⟨.namespace, .null, made.metadata.name⟩ := fun task =>
      AsksWide.ask task rfl rfl fun v t created => congrArg Except.ok (Option.some.inj created)
    apply Ensures.bind (called _ site kinds)
    intro made
    exact Unbooked.log_bind (Ensures.pure fun _ => id)
  refine Ensures.bind (asked site kinds) fun made => Unbooked.log_bind ?_
  exact Ensures.bind Unbooked.defer fun _ => Ensures.pure fun _ => id

end TrialRun
