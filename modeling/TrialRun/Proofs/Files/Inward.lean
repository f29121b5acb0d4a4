import Mathlib.Data.List.Infix
import TrialRun.Proofs.Files.Places

/-!
# Paths that stay inside

Double dots take a path one name back, and more of them than other names take it out of the
directory that it is seen from.  A path that never has gone up more often than down stays inside
(`Path.Inward`), at every name on the way; and unless that directory is the root, no other path does
(`Path.inward_iff`).
-/

set_option autoImplicit false

namespace TrialRun.Path

/-- Names that go nowhere above where they begin: up to each of them, no more have gone up than
down. -/
def Inward (names : List String) : Prop :=
  ∀ front, front <+: names → 2 * front.count ".." ≤ front.length

instance (names : List String) : Decidable (Inward names) :=
  decidable_of_iff (∀ front ∈ names.inits, 2 * front.count ".." ≤ front.length)
    (by simp only [List.mem_inits, Inward])

variable {front names more start : List String}

theorem Inward.of_prefix (h : Inward names) (begins : front <+: names) : Inward front :=
  fun _ shorter => h _ (shorter.trans begins)

/-- Names that do not go up may follow. -/
theorem Inward.append (h : Inward names) (down : ∀ name ∈ more, name ≠ "..") :
    Inward (names ++ more) := by
  intro front begins
  rcases List.prefix_or_prefix_of_prefix begins (List.prefix_append names more) with within | past
  · exact h front within
  · obtain ⟨behind, rfl⟩ := past
    have further : behind <+: more := (List.prefix_append_right_inj names).mp begins
    have none : behind.count ".." = 0 :=
      List.count_eq_zero.mpr fun up => down _ (further.subset up) rfl
    have before := h names (List.prefix_refl names)
    rw [List.count_append, none, List.length_append]
    omega

theorem inward_of_ne (down : ∀ name ∈ names, name ≠ "..") : Inward names := by
  have nothing : Inward [] := by decide
  exact nothing.append down

/-- Names that have gone up no more than down lead as far below the start as they have gone down
more than up. -/
theorem Inward.exists_below (h : Inward names) (start : List String) :
    ∃ below, names.foldl enter start = start ++ below ∧
      below.length + 2 * names.count ".." = names.length := by
  -- from the end of the names, since going up takes the last name away
  induction names using List.reverseRecOn with
  | nil => exact ⟨[], by simp⟩
  | append_singleton before name ih =>
    obtain ⟨below, place, depth⟩ := ih (h.of_prefix (List.prefix_append before [name]))
    have last := h _ (List.prefix_refl _)
    rw [List.foldl_append, place]
    by_cases up : name = ".."
    · subst up
      rw [List.count_append, List.length_append] at last ⊢
      simp only [List.count_singleton_self, List.length_singleton] at last ⊢
      -- as many steps up as down would leave nothing to go up from, so some name is below
      have deep : below ≠ [] := by
        rintro rfl
        simp only [List.length_nil] at depth
        omega
      refine ⟨below.dropLast, List.dropLast_append_of_ne_nil deep, ?_⟩
      have shorter := List.length_pos_of_ne_nil deep
      rw [List.length_dropLast]
      omega
    · refine ⟨below ++ [name], ?_, ?_⟩
      · show enter (start ++ below) name = _
        rw [enter, if_neg up, List.append_assoc]
      · have none : [name].count ".." = 0 := List.count_eq_zero.mpr (by simpa using Ne.symm up)
        rw [List.count_append, none]
        simp only [List.length_append, List.length_singleton]
        omega

/-- Every name on the way stays inside, where the path is seen from. -/
theorem Inward.prefix_place (h : Inward names) (start : List String) (begins : front <+: names) :
    start <+: front.foldl enter start := by
  obtain ⟨below, place, -⟩ := (h.of_prefix begins).exists_below start
  exact ⟨below, place.symm⟩

/-- No other names stay inside a directory that is not the root. -/
theorem inward_iff (nonroot : start ≠ []) :
    Inward names ↔ ∀ front, front <+: names → start <+: front.foldl enter start := by
  refine ⟨fun h front begins => h.prefix_place start begins, fun inside => ?_⟩
  -- again from the end: the place behind all names shows that they have not gone up too far
  induction names using List.reverseRecOn with
  | nil => exact inward_of_ne nofun
  | append_singleton before name ih =>
    have earlier := ih fun front begins => inside front (begins.trans (List.prefix_append _ _))
    by_cases up : name = ".."
    · subst up
      intro front begins
      rcases List.prefix_concat_iff.mp begins with rfl | within
      · obtain ⟨below, place, depth⟩ := earlier.exists_below start
        have last := (inside _ (List.prefix_refl _)).length_le
        rw [List.foldl_append, place] at last
        change start.length ≤ (start ++ below).dropLast.length at last
        rw [List.length_dropLast, List.length_append] at last
        have given := List.length_pos_of_ne_nil nonroot
        rw [List.count_append, List.length_append]
        simp only [List.count_singleton_self, List.length_singleton]
        omega
      · exact earlier front within
    · exact earlier.append fun other among => by rwa [List.mem_singleton.mp among]

end TrialRun.Path
