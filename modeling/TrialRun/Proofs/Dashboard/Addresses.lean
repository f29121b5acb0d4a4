import Mathlib.Data.List.TakeWhile
import TrialRun.Proofs.Record
import TrialRun.Proofs.Text.Blank

/-!
# Addresses of requests

A request is for a text that begins with the address of a client, but not for the text as it is:
blanks and brackets around it are dropped, and a fragment that is empty.  The last character stays
unless it is one of these.  So a probe, whose text ends with a slash, never is a request for what a
job has logged.
-/

set_option autoImplicit false

namespace TrialRun

namespace Dashboard

variable {c : Char}

theorem unwrapped_concat (blank : Text.isBlank c = false) (bracket : c ≠ '>') (colon : c ≠ ':')
    (url : List Char) : ∃ front, unwrapped (url ++ [c]) = front ++ [c] := by
  have plain : ¬((url.dropWhile Text.isBlank ++ [c]).head? = some '<' ∧
      (url.dropWhile Text.isBlank ++ [c]).getLast? = some '>') := by
    rintro ⟨-, last⟩
    rw [List.getLast?_concat] at last
    exact bracket (Option.some.inj last)
  rw [unwrapped, Text.strip_concat blank, if_neg plain]
  generalize url.dropWhile Text.isBlank = front
  by_cases introduced : (front ++ [c]).take 4 = "URL:".toList
  · rw [if_pos introduced]
    have longer : 4 ≤ front.length := by
      apply Nat.le_of_not_lt
      intro short
      have four : (front ++ [c]).take 4 = front ++ [c] :=
        List.take_of_length_le (by rw [List.length_append, List.length_singleton]; omega)
      have last := congrArg List.getLast? (four.symm.trans introduced)
      rw [List.getLast?_concat] at last
      exact colon (Option.some.inj last)
    rw [List.drop_append_of_le_length longer, Text.strip_concat blank]
    exact ⟨_, rfl⟩
  · rw [if_neg introduced]
    exact ⟨front, rfl⟩

/-- A request ends with the last character of its text. -/
theorem url_of_request (blank : Text.isBlank c = false) (bracket : c ≠ '>') (colon : c ≠ ':')
    (hash : c ≠ '#') {d : Dashboard} {text : String} {url : List Char} {r : Request}
    (ends : text.toList = url ++ [c]) (asked : d.request text = .ok r) :
    ∃ front, r.url.toList = front ++ [c] := by
  obtain ⟨front, stripped⟩ := unwrapped_concat blank bracket colon url
  rw [request, ends, stripped] at asked
  split at asked
  · cases asked
    refine ⟨front, ?_⟩
    rw [withoutEmptyFragment, List.getLast?_concat,
      if_neg fun same => hash (Option.some.inj same), String.toList_ofList]
  · cases asked

/-! ## Schemes -/

/-- A fragment is looked for behind a beginning without a number sign. -/
theorem exists_withoutFragment {front : List Char} (plain : '#' ∉ front) (rest : List Char) :
    ∃ behind, withoutFragment (front ++ rest) = front ++ behind := by
  rw [withoutFragment]
  by_cases fragment : '#' ∈ rest
  · rw [if_pos (List.mem_append_right _ fragment), List.reverse_append, List.dropWhile_append]
    cases behind : rest.reverse.dropWhile (· ≠ '#') with
    | nil =>
      have none := List.dropWhile_eq_nil_iff.mp behind '#' (List.mem_reverse.mpr fragment)
      simp at none
    | cons c before => exact ⟨before.reverse, by simp⟩
  · have nowhere : '#' ∉ front ++ rest := by
      rw [List.mem_append, not_or]
      exact ⟨plain, fragment⟩
    rw [if_neg nowhere]
    exact ⟨rest, rfl⟩

/-- What stands before a colon is a scheme, if there is no other separator in it. -/
theorem hasScheme_of_scheme (scheme : List Char) (given : scheme ≠ [])
    (plain : ∀ c ∈ scheme, c ≠ ':' ∧ c ≠ '/' ∧ c ≠ '#') (rest : List Char) :
    hasScheme (scheme ++ ':' :: rest) = true := by
  have noFragment : '#' ∉ scheme ++ [':'] := by
    rw [List.mem_append, not_or]
    exact ⟨fun inside => (plain _ inside).2.2 rfl, by decide⟩
  obtain ⟨behind, before⟩ := exists_withoutFragment noFragment rest
  rw [List.append_assoc, List.singleton_append] at before
  have kept : ∀ c ∈ scheme, (decide (c ≠ ':') && decide (c ≠ '/')) = true := fun c inside => by
    simp [plain c inside]
  have taken : (scheme ++ [':'] ++ behind).takeWhile (fun c => c ≠ ':' && c ≠ '/') = scheme := by
    rw [List.append_assoc, List.singleton_append, List.takeWhile_append_of_pos kept]
    simp
  rw [hasScheme, before, taken]
  simp [given]

/-- Dropping the blanks at the end drops nothing up to a character that is none. -/
theorem dropWhile_blank_append_cons (blank : Text.isBlank c = false) (front rest : List Char) :
    ((front ++ c :: rest).reverse.dropWhile Text.isBlank).reverse =
      front ++ c :: (rest.reverse.dropWhile Text.isBlank).reverse := by
  rw [List.reverse_append, List.reverse_cons, List.append_assoc, List.dropWhile_append]
  cases rest.reverse.dropWhile Text.isBlank with
  | nil => simp [blank]
  | cons d before => simp

/-- A text that begins with a plain character loses only the blanks at its end. -/
theorem unwrapped_cons (blank : Text.isBlank c = false) (bracket : c ≠ '<') (letter : c ≠ 'U')
    (rest : List Char) :
    unwrapped (c :: rest) = c :: (rest.reverse.dropWhile Text.isBlank).reverse := by
  have stripped : Text.strip (c :: rest) = c :: (rest.reverse.dropWhile Text.isBlank).reverse := by
    rw [Text.strip, List.dropWhile_cons_of_neg (by simp [blank])]
    exact dropWhile_blank_append_cons blank [] rest
  have bare : ¬((c :: (rest.reverse.dropWhile Text.isBlank).reverse).head? = some '<' ∧
      (c :: (rest.reverse.dropWhile Text.isBlank).reverse).getLast? = some '>') :=
    fun both => bracket (Option.some.inj both.1)
  have notIntroduced : (c :: (rest.reverse.dropWhile Text.isBlank).reverse).take 4 ≠
      "URL:".toList := fun introduced => letter (List.cons.inj introduced).1
  rw [unwrapped, stripped, if_neg bare, if_neg notIntroduced]

/-- A probe is not a request for what a job has logged. -/
theorem not_asksForLogs_of_probe {τ : Type} {d : Dashboard} {r : Request} {x : Exchange}
    (probe : d.request (d.address ++ "/") = .ok r) (job : Json) :
    ¬(Event.requested r x : Event τ).AsksForLogs job := by
  rintro ⟨d', asked⟩
  have slash : (d.address ++ "/").toList = d.address.toList ++ ['/'] := by
    rw [String.toList_append]
    rfl
  have letter : (d'.address ++ s!"/api/jobs/{job.display}/logs").toList =
      (d'.address ++ s!"/api/jobs/{job.display}/log").toList ++ ['s'] := by
    simp only [String.toList_append, List.append_assoc]
    rfl
  obtain ⟨front, probed⟩ :=
    url_of_request (by decide) (by decide) (by decide) (by decide) slash probe
  obtain ⟨front', logs⟩ :=
    url_of_request (by decide) (by decide) (by decide) (by decide) letter asked
  have last := congrArg List.getLast? (probed.symm.trans logs)
  rw [List.getLast?_concat, List.getLast?_concat] at last
  exact absurd last (by decide)

end Dashboard

end TrialRun
