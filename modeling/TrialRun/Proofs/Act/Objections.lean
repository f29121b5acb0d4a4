import TrialRun.Proofs.Act.Ensures

/-!
# What files object to

An act that makes directories and writes files ends with no fault but an objection
(`Site.Objects`): one of the disk, one of the volume to a path, one to a path that no file can have,
or one to the making of too many directories at once.  This is told apart from what such an act
keeps, so that the two can be put together (`Act.Ensures.and`).
-/

set_option autoImplicit false

namespace TrialRun

variable {τ σ α : Type}

/-- A fault that doing something to the files of a site may end with. -/
inductive Site.Objects (site : Site τ σ) : Fault → Prop where
  | obstacle {action : DiskAction} {s : σ} {f : Fault} :
      (site.obstacle action s).1 = some f → site.Objects f
  | disk (e : DiskError) (path : String) : site.Objects (.disk e path)
  | nullByte : site.Objects (.plain .badValue "embedded null byte")
  | tooDeep : site.Objects
      (.plain .tooDeep "maximum recursion depth exceeded while calling a Python object")

namespace Act

/-- The act ends with a value or with an objection. -/
def Objects (site : Site τ σ) (a : Act τ σ α) : Prop :=
  a.Ensures site (fun _ => True) (fun _ _ => True) fun f _ => site.Objects f

namespace Objects

variable {site : Site τ σ}

/-- An act on the disk objects as the disk does. -/
theorem onDisk {a : Act τ σ α} (action : DiskAction) (h : a.Objects site) :
    (Act.disk action a).Objects site := by
  refine ⟨fun w _ => ?_⟩
  rw [run_disk]
  cases obstacle : (site.obstacle action w.outside).1 with
  | none => exact h.ends _ trivial
  | some f => exact Site.Objects.obstacle obstacle

/-- A change of the files fails with an error of the disk, or not at all. -/
theorem settle (p : Path) (change? : Volume → Except DiskError Volume) :
    (Act.settle p change? : Act τ σ Unit).Objects site := by
  refine ⟨fun w _ => ?_⟩
  rw [run_settle]
  split
  · exact Site.Objects.nullByte
  · split
    · trivial
    · exact Site.Objects.disk _ _

/-- The directories on the way are made by the same changes, so nothing else can object. -/
theorem makeDirectory (p : Path) : (Act.makeDirectory p : Act τ σ Unit).Objects site := by
  have each (q : Path) : Ensures site (fun _ => True) (Act.makeOneDirectory q : Act τ σ Unit)
      (fun _ _ => True) fun f _ => site.Objects f ∧ True :=
    (onDisk _ (settle q _)).mono (fun _ => id) (fun _ _ => id) fun _ _ objects => ⟨objects, trivial⟩
  exact (Ensures.makeDirectories_of_each (fun _ _ _ => each _) .tooDeep _).mono (fun _ => id)
    (fun _ _ => id) fun _ _ objects => objects.1

theorem writeFile (p : Path) (contents : String) :
    (Act.writeFile p contents : Act τ σ Unit).Objects site :=
  (onDisk _ (settle p _)).bind fun _ => .record fun _ => id

theorem makeTemporary (beginning : String) :
    (Act.makeTemporary beginning : Act τ σ Path).Objects site := by
  have known : (Act.site : Act τ σ (Site τ σ)).Objects site := .site' fun _ => id
  have changed (change : World τ σ → World τ σ) : (Act.change change).Objects site :=
    .change fun _ => id
  exact known.bind fun _ => (onDisk _ (changed _)).bind fun _ => .pure fun _ => id

end Objects

end Act

end TrialRun
