import TrialRun.Proofs.Files.Places

/-!
# Paths that are written down

A slash between two texts ends the names of the first one, and the names of the second one come
behind it (`Path.names_ofText_slash`).  So files of one directory are at one place only if their
names are the same (`Path.exists_place_join`).
-/

set_option autoImplicit false

namespace TrialRun

namespace Path

/-- A text that is the name of a file: nothing that a path takes apart, leaves out or goes up by. -/
structure IsName (s : String) : Prop where
  whole : '/' ∉ s.toList
  something : s ≠ ""
  notHere : s ≠ "."
  notAbove : s ≠ ".."

theorem splitSlashes_ne_nil (cs : List Char) : splitSlashes cs ≠ [] := by
  fun_cases splitSlashes cs <;> simp

/-- A slash splits what is before it from what is behind it. -/
theorem splitSlashes_append (before after : List Char) :
    splitSlashes (before ++ '/' :: after) = splitSlashes before ++ splitSlashes after := by
  induction before with
  | nil => rfl
  | cons c rest ih =>
    rw [List.cons_append, splitSlashes, splitSlashes, ih]
    by_cases slash : c = '/'
    · rw [if_pos slash, if_pos slash, List.cons_append]
    · rw [if_neg slash, if_neg slash]
      cases parts : splitSlashes rest with
      | nil => exact absurd parts (splitSlashes_ne_nil rest)
      | cons first others => rfl

/-- A text without slashes is left whole. -/
theorem splitSlashes_of_not_mem {cs : List Char} (whole : '/' ∉ cs) : splitSlashes cs = [cs] := by
  induction cs with
  | nil => rfl
  | cons c rest ih =>
    rw [List.mem_cons, not_or] at whole
    rw [splitSlashes, if_neg (Ne.symm whole.1), ih whole.2]

/-- The names behind a slash come behind those before it. -/
theorem names_ofText_slash (above below : String) :
    (ofText (above ++ "/" ++ below)).names = (ofText above).names ++ (ofText below).names := by
  have split : (above ++ "/" ++ below).toList = above.toList ++ '/' :: below.toList := by simp
  rw [ofText, split, splitSlashes_append, List.map_append, List.filter_append]
  rfl

/-- A name is a path of its own. -/
theorem IsName.names_ofText {s : String} (h : IsName s) : (ofText s).names = [s] := by
  have kept : s ≠ "" ∧ s ≠ "." := ⟨h.something, h.notHere⟩
  rw [ofText, splitSlashes_of_not_mem h.whole, List.map_singleton, String.ofList_toList]
  exact List.filter_eq_self.mpr (by simpa using kept)

/-- All that is written behind one text and a slash is found from one place on. -/
theorem exists_place_join (p : Path) (above : String) :
    ∃ there, ∀ below,
      (p.join (ofText (above ++ "/" ++ below))).place = (ofText below).names.foldl enter there := by
  refine ⟨(p.join (ofText (above ++ "/"))).place, fun below => ?_⟩
  have rooted : (ofText (above ++ "/" ++ below)).rooted = (ofText (above ++ "/")).rooted := by
    have first : (above ++ "/" ++ below).toList.head? = (above ++ "/").toList.head? := by
      cases same : above.toList <;> simp [same]
    rw [ofText, ofText, first]
  have names : (ofText (above ++ "/")).names = (ofText above).names := by
    have slash := names_ofText_slash above ""
    rw [String.append_empty] at slash
    rw [slash]
    exact List.append_nil _
  rw [join, join, rooted]
  split
  · rw [place, place, names_ofText_slash, List.foldl_append, names]
  · rw [place, place, names_ofText_slash, names, ← List.append_assoc, List.foldl_append]

theorem IsName.foldl_enter {s : String} (h : IsName s) (there : List String) :
    (ofText s).names.foldl enter there = there ++ [s] := by
  rw [h.names_ofText]
  exact if_neg h.notAbove

end Path

end TrialRun
