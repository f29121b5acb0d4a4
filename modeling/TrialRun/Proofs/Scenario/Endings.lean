import TrialRun.Proofs.Trial.Rules

/-!
# How the body of a scenario ends

Some parts of a scenario are watched: if one fails, its Ray cluster is looked at.  What a scenario
does apart from that does not depend on how it is looked at: a run of `Scenario.runWith` has an
ending that is the same for all ways of looking (`Ending`, `Act.EndsFor`).  It ends well, or with a
fault outside of the watched parts, and nothing is looked at.  Or it ends with a fault of a watched
part: then the Ray cluster is looked at, once and as the last thing of all, and that fault remains.

An invariant that all parts keep holds of the world in which a run has come to its ending, before
anything is looked at.
-/

set_option autoImplicit false

namespace TrialRun

variable {τ σ α β : Type}

/-! ## Endings -/

/-- How something ends that has watched parts, apart from looking at a Ray cluster. -/
inductive Ending (τ σ α : Type) where
  | fine (v : α) (w : World τ σ)
  /-- A fault outside of the watched parts. -/
  | outside (f : Fault) (w : World τ σ)
  /-- A fault of a part in which this Ray cluster is watched. -/
  | inside (f : Fault) (ns name : Json) (w : World τ σ)

namespace Ending

/-- The value, or the fault of what was done. -/
def result : Ending τ σ α → Except Fault α
  | .fine v _ => .ok v
  | .outside f _ | .inside f _ _ _ => .error f

/-- The world in which the ending has come, before anything is looked at. -/
def world : Ending τ σ α → World τ σ
  | .fine _ w | .outside _ w | .inside _ _ _ w => w

/-- What the ending comes to with a way of looking.  A watched part that fails has failed the trial,
its Ray cluster is looked at, and the fault remains. -/
def followedBy (site : Site τ σ) (look : Look τ σ) : Ending τ σ α → Except Fault α × World τ σ
  | .fine v w => (.ok v, w)
  | .outside f w => (.error f, w)
  | .inside f ns name w =>
    let looked := (Trial.diagnose (look ns name)).run site
      (w.noted fun own => { own with failed := true })
    (looked.1 >>= fun _ => .error f, looked.2)

end Ending

/-! ## Acts with watched parts -/

namespace Act

/-- Whatever the way of looking, the act has one ending; an invariant still holds in it. -/
def EndsFor (site : Site τ σ) (P : World τ σ → Prop) (a : Look τ σ → Act τ σ α) : Prop :=
  ∀ w, P w → ∃ ending : Ending τ σ α, P ending.world ∧
    ∀ look, (a look).run site w = ending.followedBy site look

namespace EndsFor

variable {site : Site τ σ} {P : World τ σ → Prop}

/-- What has no watched parts ends outside of them. -/
theorem const {a : Act τ σ α} (h : a.Ensures site P (fun _ => P) fun _ => P) :
    EndsFor site P fun _ => a := by
  intro w hw
  have kept := h.ends w hw
  rcases ran : a.run site w with ⟨f | v, w'⟩
  · rw [ran] at kept
    exact ⟨.outside f w', kept, fun _ => ran⟩
  · rw [ran] at kept
    exact ⟨.fine v w', kept, fun _ => ran⟩

theorem bind {a : Look τ σ → Act τ σ α} {next : Look τ σ → α → Act τ σ β}
    (first : EndsFor site P a) (second : ∀ v, EndsFor site P fun look => next look v) :
    EndsFor site P fun look => a look >>= next look := by
  intro w hw
  obtain ⟨ending, kept, same⟩ := first w hw
  cases ending with
  | fine v w₁ =>
    obtain ⟨ending, kept, after⟩ := second v w₁ kept
    exact ⟨ending, kept, fun look => (run_bind_of_ok _ (same look)).trans (after look)⟩
  | outside f w₁ =>
    refine ⟨.outside f w₁, kept, fun look => ?_⟩
    rw [run_bind, same look]
    rfl
  | inside f ns name w₁ =>
    refine ⟨.inside f ns name w₁, kept, fun look => ?_⟩
    rw [run_bind, same look]
    simp only [Ending.followedBy]
    rcases (Trial.diagnose (look ns name)).run site
      (w₁.noted fun own => { own with failed := true }) with ⟨_ | _, w₂⟩ <;> rfl

/-- What comes before the watched parts. -/
theorem before {a : Act τ σ α} {next : Look τ σ → α → Act τ σ β}
    (first : a.Ensures site P (fun _ => P) fun _ => P)
    (second : ∀ v, EndsFor site P fun look => next look v) :
    EndsFor site P fun look => a >>= next look :=
  (const first).bind second

/-- If a watched part fails, its Ray cluster is looked at, and its own fault remains. -/
theorem watching {a : Act τ σ α} (ns name : Json)
    (h : a.Ensures site P (fun _ => P) fun _ => P) :
    EndsFor site P fun look => Trial.watching look ns name a := by
  intro w hw
  have kept := h.ends w hw
  rcases ran : a.run site w with ⟨f | v, w'⟩
  · rw [ran] at kept
    refine ⟨.inside f ns name w', kept, fun look => ?_⟩
    have one : (Act.forEach Trial.diagnose [look ns name]).run site
        (w'.noted fun own => { own with failed := true }) =
        (Trial.diagnose (look ns name)).run site
          (w'.noted fun own => { own with failed := true }) := by
      rw [Act.forEach, run_bind]
      rcases (Trial.diagnose (look ns name)).run site
        (w'.noted fun own => { own with failed := true }) with ⟨_ | _, w₂⟩ <;> rfl
    exact Trial.run_onFailure_of_error ran one
  · rw [ran] at kept
    exact ⟨.fine v w', kept, fun _ => Trial.run_onFailure_of_ok ran⟩

end EndsFor

end Act

end TrialRun
