import TrialRun.Proofs.Act.Run

/-!
# What acts ensure

`Act.Ensures site P a Q E` says of an act at a site: begun in a world with `P`, it ends with a value
and a world that `Q` holds of, or with a fault and a world that `E` holds of.  There is one rule for
each way of putting acts together, and the rule for `rescue` is the only one in which a fault leads
to a value.
-/

set_option autoImplicit false

namespace TrialRun

variable {τ σ α β : Type}

/-- Whether an end is one of two kinds: a value with its world, or a fault with its world. -/
def Ends (Q : α → World τ σ → Prop) (E : Fault → World τ σ → Prop) :
    Except Fault α × World τ σ → Prop
  | (.ok v, w) => Q v w
  | (.error f, w) => E f w

/-- An end may be told less of. -/
theorem Ends.mono {Q Q' : α → World τ σ → Prop} {E E' : Fault → World τ σ → Prop}
    {ended : Except Fault α × World τ σ} (h : Ends Q E ended)
    (values : ∀ v w, Q v w → Q' v w) (faults : ∀ f w, E f w → E' f w) : Ends Q' E' ended := by
  rcases ended with ⟨_ | v, w⟩
  · exact faults _ w h
  · exact values v w h

namespace Act

/-- Begun in a world with `P`, the act ends as `Q` and `E` tell. -/
structure Ensures (site : Site τ σ) (P : World τ σ → Prop) (a : Act τ σ α)
    (Q : α → World τ σ → Prop) (E : Fault → World τ σ → Prop) : Prop where
  ends : ∀ w, P w → Ends Q E (a.run site w)

/-- What is kept whatever the outside comes to, and however directories are made. -/
structure Sturdy (P : World τ σ → Prop) : Prop where
  outside : ∀ w s, P w → P { w with outside := s }
  made : ∀ w p v, P w → w.volume.makeDirectory p = .ok v → P { w with volume := v }

namespace Ensures

variable {site : Site τ σ} {P P' : World τ σ → Prop} {E E' : Fault → World τ σ → Prop}

/-- What is asked for may be more, and what is promised less. -/
theorem mono {a : Act τ σ α} {Q Q' : α → World τ σ → Prop} (h : Ensures site P a Q E)
    (before : ∀ w, P' w → P w) (values : ∀ v w, Q v w → Q' v w)
    (faults : ∀ f w, E f w → E' f w) : Ensures site P' a Q' E' :=
  ⟨fun w hw => (h.ends w (before w hw)).mono values faults⟩

/-- What is told of the values alone. -/
theorem values {a : Act τ σ α} {Q : α → World τ σ → Prop} (h : Ensures site P a Q E) :
    Ensures site P a Q fun _ _ => True :=
  h.mono (fun _ => id) (fun _ _ => id) fun _ _ _ => trivial

/-- What is told of an act in two ways is true of it in both. -/
theorem and {a : Act τ σ α} {Q Q' : α → World τ σ → Prop} (h : Ensures site P a Q E)
    (h' : Ensures site P' a Q' E') :
    Ensures site (fun w => P w ∧ P' w) a (fun v w => Q v w ∧ Q' v w) fun f w => E f w ∧ E' f w := by
  refine ⟨fun w ⟨hw, hw'⟩ => ?_⟩
  have first := h.ends w hw
  have second := h'.ends w hw'
  revert first second
  rcases a.run site w with ⟨f | v, w'⟩ <;> exact And.intro

/-- What is known beside the world may be used to tell of the act. -/
theorem given {φ : Prop} {a : Act τ σ α} {Q : α → World τ σ → Prop}
    (h : φ → Ensures site P a Q E) : Ensures site (fun w => φ ∧ P w) a Q E :=
  ⟨fun w ⟨known, hw⟩ => (h known).ends w hw⟩

/-- A value is given in the world as it is. -/
theorem pure {Q : α → World τ σ → Prop} {v : α} (h : ∀ w, P w → Q v w) :
    Ensures site P (Pure.pure v) Q E := ⟨h⟩

/-- A fault leaves the world as it is. -/
theorem fail {Q : α → World τ σ → Prop} {f : Fault} (h : ∀ w, P w → E f w) :
    Ensures site P (Act.fail f) Q E := ⟨h⟩

/-- The first act has to promise what the second one asks for. -/
theorem bind {a : Act τ σ α} {next : α → Act τ σ β} {Q : α → World τ σ → Prop}
    {S : β → World τ σ → Prop} (first : Ensures site P a Q E)
    (second : ∀ v, Ensures site (Q v) (next v) S E) : Ensures site P (a >>= next) S E := by
  refine ⟨fun w hw => ?_⟩
  have ended := first.ends w hw
  rw [run_bind]
  revert ended
  rcases a.run site w with ⟨f | v, w'⟩ <;> intro ended
  · exact ended
  · exact (second v).ends w' ended

/-- What an act that may fail ends with is a value of its attempt. -/
theorem attempt {a : Act τ σ α} {Q : α → World τ σ → Prop} (h : Ensures site P a Q E) :
    Ensures site P a.attempt (fun r w => Ends Q E (r, w)) E' := ⟨h.ends⟩

/-- An ordinary fault has to be dealt with; any other passes through. -/
theorem rescue {a : Act τ σ α} {handle : Fault → Act τ σ α} {Q : α → World τ σ → Prop}
    (tried : Ensures site P a Q E')
    (handled : ∀ f, f.isOrdinary = true → Ensures site (E' f) (handle f) Q E)
    (passed : ∀ f w, f.isOrdinary = false → E' f w → E f w) :
    Ensures site P (a.rescue handle) Q E := by
  refine ⟨fun w hw => ?_⟩
  have ended := tried.ends w hw
  rw [run_rescue]
  revert ended
  rcases a.run site w with ⟨f | v, w'⟩ <;> intro ended
  · dsimp only
    cases ordinary : f.isOrdinary with
    | true => exact (handled f ordinary).ends w' ended
    | false => exact passed f w' ordinary ended
  · exact ended

/-- A computation leaves the world as it is. -/
theorem lift (r : Except Fault α) :
    Ensures site P (liftM r : Act τ σ α) (fun v w => P w ∧ r = .ok v)
      (fun f w => P w ∧ r = .error f) := by
  refine ⟨fun w hw => ?_⟩
  rw [run_liftM]
  cases r with
  | ok v => exact ⟨hw, rfl⟩
  | error f => exact ⟨hw, rfl⟩

/-- What follows a computation is done only with its value. -/
theorem lift_bind {r : Except Fault α} {next : α → Act τ σ β} {Q : β → World τ σ → Prop}
    (failed : ∀ f, r = .error f → ∀ w, P w → E f w)
    (second : ∀ v, r = .ok v → Ensures site P (next v) Q E) :
    Ensures site P ((liftM r : Act τ σ α) >>= next) Q E := by
  refine ⟨fun w hw => ?_⟩
  rw [run_bind, run_liftM]
  cases r with
  | ok v => exact (second v rfl).ends w hw
  | error f => exact failed f rfl w hw

/-- A change of the world. -/
theorem change {f : World τ σ → World τ σ} {Q : Unit → World τ σ → Prop}
    (h : ∀ w, P w → Q () (f w)) : Ensures site P (Act.change f) Q E := ⟨h⟩

/-- A change of what the trial keeps in mind. -/
theorem note {f : Trial τ → Trial τ} {Q : Unit → World τ σ → Prop}
    (h : ∀ w, P w → Q () (w.noted f)) : Ensures site P (Act.note f) Q E := ⟨h⟩

/-- An event is added to the record. -/
theorem record {e : Event τ} {Q : Unit → World τ σ → Prop}
    (h : ∀ w, P w → Q () (w.recorded e)) : Ensures site P (Act.record e) Q E := ⟨h⟩

/-- A text is added to the record. -/
theorem log {level : Level} {text : String} {Q : Unit → World τ σ → Prop}
    (h : ∀ w, P w → Q () (w.recorded (.log level text))) :
    Ensures site P (Act.log level text) Q E := ⟨h⟩

/-- What is looked at is given as it is: the site, the world, or what the trial keeps in mind. -/
theorem site' {Q : Site τ σ → World τ σ → Prop} (h : ∀ w, P w → Q site w) :
    Ensures site P Act.site Q E := ⟨h⟩

theorem world {Q : World τ σ → World τ σ → Prop} (h : ∀ w, P w → Q w w) :
    Ensures site P Act.world Q E := ⟨h⟩

theorem trial {Q : Trial τ → World τ σ → Prop} (h : ∀ w, P w → Q w.trial w) :
    Ensures site P Act.trial Q E := ⟨h⟩

/-- Each branch may use that it was chosen. -/
theorem ite {c : Prop} [Decidable c] {a b : Act τ σ α} {Q : α → World τ σ → Prop}
    (yes : c → Ensures site P a Q E) (no : ¬c → Ensures site P b Q E) :
    Ensures site P (if c then a else b) Q E := by
  split
  next h => exact yes h
  next h => exact no h

/-- What every turn keeps, all turns keep. -/
theorem forEach {act : β → Act τ σ Unit} {items : List β}
    (each : ∀ item ∈ items, Ensures site P (act item) (fun _ => P) E) :
    Ensures site P (Act.forEach act items) (fun _ => P) E := by
  induction items with
  | nil => exact pure fun _ hw => hw
  | cons item rest ih =>
    have first := each item List.mem_cons_self
    have others := ih fun other member => each other (List.mem_cons_of_mem _ member)
    exact first.bind fun _ => others

/-! ## Files -/

/-- The disk may object, which changes the outside only. -/
theorem disk {action : DiskAction} {a : Act τ σ α} {Q : α → World τ σ → Prop}
    {E : Fault → World τ σ → Prop} (outside : ∀ w s, P w → P { w with outside := s })
    (refused : ∀ f w, P w → E f w) (h : Ensures site P a Q E) :
    Ensures site P (Act.disk action a) Q E := by
  refine ⟨fun w hw => ?_⟩
  have kept := outside w (site.obstacle action w.outside).2 hw
  rw [run_disk]
  cases (site.obstacle action w.outside).1 with
  | none => exact h.ends _ kept
  | some f => exact refused f _ kept

/-- A change of the volume is made or refused. -/
theorem settle {p : Path} {change? : Volume → Except DiskError Volume}
    {Q : Unit → World τ σ → Prop} {E : Fault → World τ σ → Prop} (refused : ∀ f w, P w → E f w)
    (changed : ∀ w v, P w → change? w.volume = .ok v → Q () { w with volume := v }) :
    Ensures site P (Act.settle p change?) Q E := by
  refine ⟨fun w hw => ?_⟩
  rw [run_settle]
  split
  · exact refused _ w hw
  · split
    next v same => exact changed w v hw same
    · exact refused _ w hw

variable (outside : ∀ w s, P w → P { w with outside := s })

include outside in
/-- One directory is made or refused. -/
theorem makeOneDirectory {p : Path}
    (made : ∀ w v, P w → w.volume.makeDirectory p = .ok v → P { w with volume := v }) :
    Ensures site P (Act.makeOneDirectory p) (fun _ => P) fun _ => P :=
  disk outside (fun _ _ => id) (settle (fun _ _ => id) made)

/-- A fault that is not dealt with is the one that there was. -/
theorem unlessDirectory {F : Fault → Prop} (p : Path) {f : Fault} (known : F f) :
    Ensures site P (Act.unlessDirectory p f) (fun _ => P) fun f w => F f ∧ P w := by
  have looked : Ensures site P Act.world (fun _ => P) fun f w => F f ∧ P w := world fun _ hw => hw
  exact looked.bind fun _ => ite (fun _ => pure fun _ => id) fun _ => fail fun _ hw => ⟨known, hw⟩

/-- What the making of each directory on the way keeps, the making of all of them keeps; and no
other fault comes of it but that there are too many of them. -/
theorem makeDirectories_of_each {F : Fault → Prop} {rooted : Bool} {names : List String}
    (each : ∀ here, here <:+ names → here ≠ [] →
      Ensures site P (Act.makeOneDirectory ⟨rooted, here.reverse⟩) (fun _ => P)
        fun f w => F f ∧ P w)
    (deep : F (.plain .tooDeep "maximum recursion depth exceeded while calling a Python object"))
    (levels : Nat) :
    Ensures site P (Act.makeDirectories rooted levels names) (fun _ => P) fun f w => F f ∧ P w := by
  induction names generalizing levels with
  | nil => cases levels <;> exact pure fun _ => id
  | cons name above ih =>
    cases levels with
    | zero => exact fail fun _ hw => ⟨deep, hw⟩
    | succ levels =>
      have higher := ih fun here among => each here (among.trans (List.suffix_cons name above))
      have tried := each (name :: above) (List.suffix_refl _) (List.cons_ne_nil _ _)
      -- a directory is tried twice: again once those above it are made
      refine tried.attempt.bind fun r => ?_
      cases r with
      | ok _ => exact pure fun _ => id
      | error f =>
        refine given fun known => ?_
        refine ite (fun _ => (higher levels).bind fun _ => ?_) fun _ => unlessDirectory _ known
        refine tried.attempt.bind fun r => ?_
        cases r with
        | ok _ => exact pure fun _ => id
        | error f =>
          refine given fun known => ?_
          exact ite (fun _ => fail fun _ hw => ⟨known, hw⟩) fun _ => unlessDirectory _ known

include outside in
/-- To make a directory is to make those on the way to it, as far as they are missing. -/
theorem makeDirectory_of_prefixes {p : Path}
    (made : ∀ front, front <+: p.names → ∀ w v, P w →
      w.volume.makeDirectory ⟨p.rooted, front⟩ = .ok v → P { w with volume := v }) :
    Ensures site P (Act.makeDirectory p) (fun _ => P) fun _ => P := by
  have each : ∀ here, here <:+ p.names.reverse → here ≠ [] →
      Ensures site P (Act.makeOneDirectory ⟨p.rooted, here.reverse⟩) (fun _ => P)
        fun f w => True ∧ P w := fun here among _ =>
    (makeOneDirectory outside
      (made _ (List.reverse_suffix.mp (by rwa [List.reverse_reverse])))).mono
      (fun _ => id) (fun _ _ => id) fun _ _ hw => ⟨trivial, hw⟩
  exact (makeDirectories_of_each each trivial _).mono (fun _ => id) (fun _ _ => id)
    fun _ _ ⟨_, hw⟩ => hw

/-- A directory is made with those above it, if the property is sturdy. -/
theorem makeDirectory (sturdy : Sturdy P) (p : Path) :
    Ensures site P (Act.makeDirectory p) (fun _ => P) fun _ => P :=
  makeDirectory_of_prefixes sturdy.outside fun _ _ w => sturdy.made w _

include outside in
/-- A temporary directory is made where the site says. -/
theorem makeTemporary {beginning : String}
    (made : ∀ w v, P w → w.volume.makeDirectory (site.temporary beginning) = .ok v →
      P { w with volume := v }) :
    Ensures site P (Act.makeTemporary beginning) (fun p w => p = site.temporary beginning ∧ P w)
      fun _ => P := by
  have known : Ensures site P Act.site (fun s w => s = site ∧ P w) fun _ => P :=
    site' fun w hw => ⟨rfl, hw⟩
  refine known.bind fun s => given ?_
  rintro rfl
  refine (disk outside (fun _ _ => id) (change (Q := fun _ => P) fun w hw => ?_)).bind
    fun _ => pure fun w hw => ⟨rfl, hw⟩
  cases found : w.volume.makeDirectory (s.temporary beginning) with
  | ok v => exact made w v hw found
  | error e => exact hw

end Ensures

end Act

end TrialRun
