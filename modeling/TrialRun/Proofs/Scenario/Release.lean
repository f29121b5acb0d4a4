import TrialRun.Proofs.Scenario.Ledger
import TrialRun.Proofs.Trial.Steps

/-!
# Cleaning up what was booked

Cleaning up does what was put off, the last first.  If that is to undo what was created for the
whole cluster, then each of its steps makes one deletion, of what was created last among what is
still left, and nothing else that matters to the books (`Releasing`).  A fault of a step does not
change this: the deletion was asked for before it, and cleaning up goes on.
-/

set_option autoImplicit false

namespace TrialRun

variable {τ σ : Type}

/-! ## The books while it is cleaned up -/

/-- The event deletes only what was created before. -/
def DeletesCreated (e : Event τ) (earlier : List (Event τ)) : Prop :=
  ∀ t, e.deletes? = some t → ∃ e' ∈ earlier, e'.created? = some t

/-- What the books are while it is cleaned up: something was deleted, the last first, and the rest
is still put off. -/
structure Releasing (kinds : List Kind) (made done left : List Target) (w : World τ σ) : Prop where
  asked : kindsAsked w.record = kinds
  created : wideCreated w.record = made
  deleted : wideDeleted w.record = done
  pending : w.trial.pending = left.map Target.undo
  lawful : Lawful DeletesCreated w.record

namespace Releasing

variable {kinds : List Kind} {made done left : List Target} {w w' : World τ σ} {t : Target}

/-- Silence leaves the books as they are. -/
theorem idles (h : Releasing kinds made done left w) (idle : w.Idles Event.IsSilent w') :
    Releasing kinds made done left w' := by
  obtain ⟨pending, es, record, silent⟩ := idle
  have narrow : ∀ e ∈ es, e.IsNarrow := fun e member => (silent e member).isNarrow
  refine ⟨?_, ?_, ?_, pending.trans h.pending, ?_⟩
  · rw [record, kindsAsked_append, kindsAsked_eq_nil narrow, List.nil_append, h.asked]
  · rw [record, wideCreated_append, wideCreated_eq_nil narrow, List.nil_append, h.created]
  · rw [record, wideDeleted_append, wideDeleted_eq_nil narrow, List.nil_append, h.deleted]
  · rw [record]
    apply h.lawful.append es
    intro e member since t deletes
    rw [(silent e member).2] at deletes
    cases deletes

theorem isWide (h : Releasing kinds made done left w) (member : t ∈ made) :
    t.kind.isWide = true := by
  rw [← h.created] at member
  exact (List.mem_filter.mp member).2

/-- A deletion of what was created is entered. -/
theorem deletes {e : Event τ} (h : Releasing kinds made done left w)
    (deletes : e.deletes? = some t) (member : t ∈ made) :
    Releasing kinds made (t :: done) left (w.recorded e) := by
  have nothing : e.creates? = none := Event.creates?_of_deletes? deletes
  have wide : t.kind.isWide = true := h.isWide member
  refine ⟨?_, ?_, ?_, h.pending, ?_, h.lawful⟩
  · simp only [World.recorded_record, kindsAsked, List.filterMap_cons, nothing, Option.map_none]
    exact h.asked
  · simp only [World.recorded_record, wideCreated, List.filterMap_cons, created?_eq_none nothing]
    exact h.created
  · simp only [World.recorded_record, wideDeleted, List.filterMap_cons, deletes, List.filter_cons,
      wide, if_true]
    exact congrArg (t :: ·) h.deleted
  · intro t' deletes'
    obtain rfl : t = t' := Option.some.inj (deletes.symm.trans deletes')
    rw [← h.created] at member
    exact List.mem_filterMap.mp (List.mem_filter.mp member).1

/-- A namespace belongs to no namespace. -/
theorem ns_eq_null (h : Releasing kinds made done left w) (member : t ∈ made)
    (kind : t.kind = .namespace) : t.ns = .null := by
  rw [← h.created] at member
  obtain ⟨e, -, created⟩ := List.mem_filterMap.mp (List.mem_filter.mp member).1
  have asked := Event.creates?_of_created? created
  cases e with
  | called c o =>
    cases c with
    | createNamespace body => exact (Prod.mk.inj (Option.some.inj asked)).2.symm
    | createConfigMap ns body =>
      rw [kind] at asked
      cases asked
    | createObject type ns body =>
      rw [kind] at asked
      cases asked
    | _ => cases asked
  | _ => cases asked

end Releasing

/-! ## One step -/

namespace Act

variable {α β : Type} {a : Act τ σ α} {next : α → Act τ σ β} {t : Target}

/-- What keeps silent may be done at any time. -/
theorem Moves.releasing (h : a.Moves (World.Idles Event.IsSilent)) {site : Site τ σ}
    {kinds : List Kind} {made done left : List Target} :
    a.Ensures site (Releasing kinds made done left) (fun _ => Releasing kinds made done left)
      fun _ => Releasing kinds made done left :=
  h.ensures fun _ _ releasing => releasing.idles

/-- The act asks for the deletion of something that was created, and for no other one, unless it is
interrupted. -/
def Releases (t : Target) (a : Act τ σ α) : Prop :=
  ∀ site kinds made done left, t ∈ made → a.Ensures site (Releasing kinds made done left)
    (fun _ => Releasing kinds made (t :: done) left)
    fun f w => f.isOrdinary = false ∨ Releasing kinds made (t :: done) left w

namespace Releases

theorem idle_after (h : a.Releases t) (idle : ∀ v, (next v).Moves (World.Idles Event.IsSilent)) :
    (a >>= next).Releases t := by
  intro site kinds made done left member
  apply Ensures.bind (h site kinds made done left member)
  intro v
  exact (idle v).releasing.mono (fun _ => id) (fun _ _ => id) fun _ _ => .inr

variable [Timescale τ]

/-- Asking for a deletion enters it, whatever the answer is. -/
theorem ask {f : Cluster.Form} {c : Cluster.Call f} (task : String)
    (deletes : c.deletes? = some t) : (Cluster.ask task c : Act τ σ f.Carrier).Releases t := by
  intro site kinds made done left member
  refine ⟨fun w releasing => ?_⟩
  obtain ⟨later, w', trial, everyday, record, ended⟩ := Cluster.run_ask task c site w
  let e : Event τ := .called c (site.answer c w.outside).1.outcome
  have entered : Releasing kinds made (t :: done) left (w.recorded e) :=
    releasing.deletes deletes member
  have idle : (w.recorded e).Idles Event.IsSilent w' :=
    ⟨congrArg Trial.pending trial, later, record, fun e member => (everyday e member).isSilent⟩
  have after : Releasing kinds made (t :: done) left w' := entered.idles idle
  rw [ended]
  cases (site.answer c w.outside).1.outcome with
  | served v => exact after
  | refused cause => exact .inr after
  | late cause => exact .inr after

theorem deleteNamespace (name : Json) : (Cluster.deleteNamespace name : Act τ σ Unit).Releases
    ⟨.namespace, .null, name⟩ :=
  (ask _ rfl).idle_after fun _ => observant_silent.log _ _

theorem deleteObject (type : ResourceType) (ns name : Json) :
    (Cluster.deleteObject type ns name : Act τ σ Unit).Releases ⟨.object type, ns, name⟩ :=
  (ask _ rfl).idle_after fun _ => observant_silent.log _ _

/-- What goes wrong with the diagnostics of a namespace does not keep it from being deleted. -/
theorem deleteTestNamespace (name : Json) : (Trial.deleteTestNamespace name : Act τ σ Unit).Releases
    ⟨.namespace, .null, name⟩ := by
  intro site kinds made done left member
  have h := observant_silent (τ := τ) (σ := σ)
  have deleted := deleteNamespace (τ := τ) (σ := σ) name site kinds made done left member
  have stored : (Trial.storeDiagnostics name : Act τ σ Unit).Ensures site
      (Releasing kinds made done left) (fun _ => Releasing kinds made done left)
      fun _ => Releasing kinds made done left := (h.storeDiagnostics name).releasing
  refine Ensures.bind (Ensures.trial (Q := fun _ => Releasing kinds made done left) fun _ => id)
    fun t => Ensures.ite (fun _ => Ensures.bind (Q := fun _ => Releasing kinds made done left) ?_
      fun _ => deleted) fun _ => deleted
  refine Ensures.rescue stored (fun f _ => Ensures.log fun w releasing => ?_)
    fun f w strange _ => .inl strange
  exact releasing.idles (h.recorded w (.log _ _) trivial)

/-- Undoing something asks for its deletion. -/
theorem undo (bound : Nat) (t : Target) :
    ((t.undo : Step τ).exec (bound + 1) : Act τ σ Json).Releases t := by
  intro site kinds made done left member
  refine ⟨fun w releasing => ?_⟩
  have h := observant_silent (τ := τ) (σ := σ)
  -- what the target can be is known from the books: it was created, and for the whole cluster
  have wide : t.kind.isWide = true := releasing.isWide member
  have ns : t.kind = .namespace → t.ns = .null := releasing.ns_eq_null member
  obtain ⟨kind, own, name⟩ := t
  cases kind with
  | «namespace» =>
    obtain rfl : own = .null := ns rfl
    have released : (Step.noResult (Trial.deleteTestNamespace name) : Act τ σ Json).Releases
        ⟨.namespace, .null, name⟩ := (deleteTestNamespace name).idle_after fun _ => h.pure _
    exact (released site kinds made done left member).ends w releasing
  | configMap => cases wide
  | object type =>
    have released : ((Cluster.Operation.delete type own name).run : Act τ σ Json).Releases
        ⟨.object type, own, name⟩ := (deleteObject type own name).idle_after fun _ => h.pure _
    exact (released site kinds made done left member).ends w releasing

end Releases

/-- Undoing something ends with no other faults than its calls. -/
theorem Candid.undo [Timescale τ] {site : Site τ σ} (disk : site.HasPlainDisk) (bound : Nat)
    (t : Target) : ((t.undo : Step τ).exec (bound + 1) : Act τ σ Json).Candid site := by
  obtain ⟨kind, ns, name⟩ := t
  have namespaces : (Trial.deleteTestNamespace name : Act τ σ Unit).Candid site := by
    refine bind trial fun t => ite (bind ?_ fun _ => deleteNamespace name) (deleteNamespace name)
    refine Ensures.rescue (storeDiagnostics disk name) (fun f _ => anyhow (log _ _)) ?_
    exact fun f w _ told => told
  cases kind with
  | object type => exact bind (deleteObject type ns name) fun _ => pure _
  | _ => exact bind namespaces fun _ => pure _

end Act

/-! ## All steps -/

section All

variable {site : Site τ σ} {kinds : List Kind} {made done left : List Target} {t : Target}

/-- What was put off last is taken. -/
theorem takeLast_releasing {E : Fault → World τ σ → Prop} :
    (Trial.takeLast : Act τ σ (Option (Step τ))).Ensures site
      (Releasing kinds made done (t :: left))
      (fun last w => last = some t.undo ∧ Releasing kinds made done left w) E := by
  refine ⟨fun w releasing => ?_⟩
  rw [Trial.run_takeLast_cons releasing.pending]
  exact ⟨rfl, releasing.asked, releasing.created, releasing.deleted, rfl, releasing.lawful⟩

/-- Cleaning up deletes all that is left, the last first. -/
theorem drain_releases {exec : Step τ → Act τ σ Json}
    (releases : ∀ t ∈ made, (exec t.undo).Releases t)
    (candid : ∀ t ∈ made, (exec t.undo).Candid site)
    (whole : done.reverse ++ left = made) :
    (Trial.drain exec left.length).Ensures site (Releasing kinds made done left)
      (fun _ => Releasing kinds made made.reverse []) fun _ w => Spoiled w.record := by
  induction left generalizing done with
  | nil =>
    obtain rfl : done = made.reverse := by
      rw [← whole, List.append_nil, List.reverse_reverse]
    exact Act.Ensures.pure fun _ => id
  | cons t rest ih =>
    have member : t ∈ made := whole ▸ List.mem_append_right _ List.mem_cons_self
    have further : (t :: done).reverse ++ rest = made := by
      rw [List.reverse_cons, List.append_assoc]
      exact whole
    refine Act.Ensures.bind takeLast_releasing fun last => Act.Ensures.given fun known => ?_
    subst known
    refine Act.Ensures.bind (Q := fun _ => Releasing kinds made (t :: done) rest) ?_ fun _ =>
      ih further
    -- the deletion is entered unless the fault is strange, and the record tells of a strange one
    have both := (releases t member site kinds made done rest member).and (candid t member)
    have tried := Act.Ensures.bind (S := fun (_ : Unit) => Releasing kinds made (t :: done) rest)
      (both.mono (fun w releasing => ⟨releasing, trivial⟩) (fun _ _ => id) fun _ _ => id)
      fun v => Act.Ensures.pure (v := ()) fun w after => after.1
    refine Act.Ensures.rescue tried (fun f ordinary => ?_) fun f w strange told => ?_
    · refine Act.Ensures.bind (Act.Ensures.trial
        (Q := fun _ => Releasing kinds made (t :: done) rest) fun w told => ?_)
        fun own => Act.Ensures.log fun w releasing => ?_
      · exact told.1.resolve_left (by rw [ordinary]; exact Bool.noConfusion)
      · exact releasing.idles (observant_silent.recorded w (.log _ _) trivial)
    · exact (told.2.resolve_left (by rw [strange]; exact Bool.noConfusion)).spoiled

end All

end TrialRun
