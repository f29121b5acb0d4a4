import TrialRun.Proofs.Dashboard.Queries
import TrialRun.Proofs.Text.Blank
import TrialRun.Proofs.Trial.Parts

/-!
# What requests are authorized with

The client that a trial makes for itself sends the token of the key that the cluster is accessed
with.  Every request of that client carries the same header, and a key that holds no token leads to
none (`Trial.sends_authorization`).

The word that introduces a token is taken off once, before the blanks are.  So a word that stands
behind blanks, or a second time, stays in the token and is sent twice
(`Trial.sends_introductionTwice`).  All other keys are sent with the word exactly once.
-/

set_option autoImplicit false

namespace TrialRun

variable {τ σ : Type}

/-! ## Keys -/

namespace Cluster

/-- The word that introduces a token, with the blank behind it. -/
def introduction : List Char := "Bearer ".toList

/-- A key without the word that introduces it, if it begins with that. -/
def unintroduced (key : List Char) : List Char :=
  if introduction <+: key then key.drop introduction.length else key

/-- The word stands where it is not taken off: behind blanks, at the beginning of the key or behind
the same word, and with a token behind it. -/
def ConcealsIntroduction (key : List Char) : Prop :=
  ∃ blanks token, unintroduced key = blanks ++ introduction ++ token ∧ Text.IsBlankText blanks ∧
    ¬Text.IsBlankText token

/-- The token in a key; a key that is empty has none. -/
def tokenOf (key : List Char) : Option String :=
  if key = [] then none else some (String.ofList (Text.strip (unintroduced key)))

/-- The header for a key, if there is something to say. -/
def headerOf (key : List Char) : Option String :=
  let token := Text.strip (unintroduced key)
  if token = [] then none else some (String.ofList (introduction ++ token))

variable {key before behind : List Char}

theorem unintroduced_append (rest : List Char) : unintroduced (introduction ++ rest) = rest := by
  rw [unintroduced, if_pos (List.prefix_append _ _), List.drop_left]

theorem unintroduced_of_not_isPrefix (plain : ¬introduction <+: key) : unintroduced key = key :=
  if_neg plain

/-- No text with a blank in front is introduced. -/
theorem eq_nil_of_introduced (blank : Text.IsBlankText before)
    (introduced : introduction <+: before ++ key) : before = [] := by
  cases before with
  | nil => rfl
  | cons c rest =>
    obtain ⟨more, same⟩ := introduced
    have letter := (List.cons.inj same).1
    have first := blank c List.mem_cons_self
    rw [← letter] at first
    cases first

/-! ## Headers -/

/-- A token begins with the word just if the key conceals it. -/
theorem introduction_isPrefix_strip_iff :
    introduction <+: Text.strip (unintroduced key) ↔ ConcealsIntroduction key := by
  constructor
  · rintro ⟨rest, same⟩
    obtain ⟨blanks, ending, whole, blank, blank'⟩ := Text.exists_strip (unintroduced key)
    refine ⟨blanks, rest ++ ending, ?_, blank, fun nothing => ?_⟩
    · rw [whole, ← same, List.append_assoc, List.append_assoc, List.append_assoc]
    · -- Otherwise the stripped text would end with the blank behind the word.
      have trimmed := Text.isTrimmed_strip (unintroduced key)
      rw [← same] at trimmed
      have blanks : Text.IsBlankText (' ' :: rest) := List.forall_mem_cons.mpr
        ⟨rfl, fun c inside => nothing c (List.mem_append_left _ inside)⟩
      exact absurd (Text.eq_nil_of_isTrimmed_append "Bearer".toList blanks trimmed)
        (List.cons_ne_nil _ _)
  · rintro ⟨blanks, token, whole, blank, given⟩
    rw [whole, List.append_assoc, Text.strip_append_left blank]
    obtain ⟨front, ending, parts, blank', blank''⟩ := Text.exists_strip (introduction ++ token)
    have introduced : introduction <+: front ++ (Text.strip (introduction ++ token) ++ ending) := by
      rw [← List.append_assoc, ← parts]
      exact List.prefix_append _ _
    obtain rfl := eq_nil_of_introduced blank' introduced
    rw [List.nil_append] at parts introduced
    refine (List.prefix_or_prefix_of_prefix introduced (List.prefix_append _ _)).resolve_right ?_
    -- Otherwise the token would be stripped away.
    rintro ⟨more, shorter⟩
    have behind : more ++ token = ending := by
      have same := (congrArg (· ++ token) shorter).trans parts
      rw [List.append_assoc] at same
      exact List.append_cancel_left same
    exact given fun c inside => blank'' c (behind ▸ List.mem_append_right _ inside)

/-- Blanks around a key make no difference, as long as they do not keep the word from being taken
off, or make one of the text. -/
theorem headerOf_around (blank : Text.IsBlankText before) (blank' : Text.IsBlankText behind)
    (alike : introduction <+: before ++ key ++ behind ↔ introduction <+: key) :
    headerOf (before ++ key ++ behind) = headerOf key := by
  have stripped : Text.strip (unintroduced (before ++ key ++ behind)) =
      Text.strip (unintroduced key) := by
    by_cases introduced : introduction <+: key
    · have around := alike.mpr introduced
      rw [List.append_assoc] at around
      obtain rfl := eq_nil_of_introduced blank around
      obtain ⟨rest, rfl⟩ := introduced
      rw [List.nil_append, List.append_assoc, unintroduced_append, unintroduced_append,
        Text.strip_append_right blank']
    · rw [unintroduced_of_not_isPrefix introduced,
        unintroduced_of_not_isPrefix (mt alike.mp introduced), Text.strip_append_right blank',
        Text.strip_append_left blank]
  rw [headerOf, headerOf, stripped]

theorem headerOf_introduced (plain : ¬introduction <+: key) :
    headerOf (introduction ++ key) = headerOf key := by
  rw [headerOf, headerOf, unintroduced_of_not_isPrefix plain, unintroduced_append]

/-- The token of a key is what is left of it without the word and the blanks. -/
theorem bearerToken_of_key {keys : Json}
    (stored : keys.field? "authorization" = some (.text (String.ofList key))) :
    bearerToken keys = .ok (tokenOf key) := by
  cases keys with
  | object fields =>
    have given : (Json.object fields).orElse (.object []) = .object fields := by
      cases fields <;> rfl
    rw [bearerToken, given, Json.get]
    rw [Json.field?] at stored
    have prefixed : key.take introduction.length = introduction ↔ introduction <+: key :=
      eq_comm.trans List.prefix_iff_eq_take.symm
    have empty : String.ofList key = "" ↔ key = [] := by simp
    simp only [bind, Except.bind, stored, Option.getD_some, String.toList_ofList, empty,
      tokenOf, unintroduced, ← prefixed]
    split <;> rfl
  | _ => cases stored

end Cluster

/-! ## Requests -/

namespace Dashboard

/-- What the headers say to authorize a request. -/
def authorizations (headers : List (String × String)) : List String :=
  headers.filterMap fun h => if h.1 = "Authorization" then some h.2 else none

/-- The token of a key is said with the word in front, unless it is empty. -/
theorem authorizations_connect (address : String) (key : List Char) (verified : Bool) :
    authorizations (connect address (Cluster.tokenOf key) verified).headers =
      (Cluster.headerOf key).toList := by
  by_cases empty : key = []
  · subst empty
    rfl
  · rw [Cluster.tokenOf, if_neg empty, Cluster.headerOf]
    by_cases blank : Text.strip (Cluster.unintroduced key) = []
    · rw [blank]
      rfl
    · have given : String.ofList (Text.strip (Cluster.unintroduced key)) ≠ "" := by
        simpa using blank
      rw [if_neg blank, connect, authorization, if_pos given, String.ofList_append]
      rfl

end Dashboard

/-- If the event is a request, it says this to be authorized, and nothing else. -/
def Event.Carries {τ : Type} (header : Option String) : Event τ → Prop
  | .requested r _ => Dashboard.authorizations r.headers = header.toList
  | _ => True

namespace Trial

/-- With this key, the client that a trial makes for itself has this header to be authorized, and so
has every request of the client, whatever it is asked for and wherever. -/
def Sends (key : List Char) (header : Option String) : Prop :=
  ∀ {τ σ : Type} [Timescale τ] (site : Site τ σ) (w : World τ σ) (address : String),
    site.apiKeys.field? "authorization" = some (.text (String.ofList key)) →
    ∃ d, (connect (.text address) : Act τ σ Dashboard).run site w = (.ok d, w) ∧
      Dashboard.authorizations d.headers = header.toList ∧
      ∀ q : Query, (q.run (some d) : Act τ σ Json).Moves (World.Grows (Event.Carries header))

/-- What a client is asked for, it says what its own headers say. -/
theorem carries_query [Timescale τ] {d : Dashboard} {header : Option String}
    (said : Dashboard.authorizations d.headers = header.toList) (q : Query) :
    (q.run (some d) : Act τ σ Json).Moves (World.Grows (Event.Carries header)) := by
  have calm : Calm (World.Grows (σ := σ) (Event.Carries (τ := τ) header)) :=
    (everyday_grows fun e usual => by cases e <;> trivial).toCalm
  refine calm.query d (fun text r x asked => World.Grows.of_recorded ?_) q
  rw [Event.Carries, (Dashboard.headers_of_request asked).1, said]

/-- A trial sends the header for its key. -/
theorem sends_headerOf (key : List Char) : Sends key (Cluster.headerOf key) := by
  intro τ σ _ site w address stored
  have said := Dashboard.authorizations_connect address key false
  refine ⟨Dashboard.connect address (Cluster.tokenOf key) false, ?_, said, carries_query said⟩
  rw [connect, Act.run_bind_of_ok _ (Act.run_site ..), Cluster.bearerToken_of_key stored,
    Act.run_bind_of_ok _ (Act.run_liftM ..)]
  rfl

/-- **Whether and how requests are authorized.**  Under any key, all requests of the client that a
trial makes for itself carry one header.  There is none just if nothing but blanks is left of the
key without the word in front.  Otherwise it is the word and a token that is there, has no blanks
around it and does not begin with the word again, unless the key conceals one.  Blanks around the
key change nothing as long as they leave the word where it is, nor does the word itself. -/
theorem sends_authorization (key : List Char) :
    ∃ header, Sends key header ∧
      (header = none ↔ Text.IsBlankText (Cluster.unintroduced key)) ∧
      (∀ h, header = some h → ∃ token, h.toList = Cluster.introduction ++ token ∧ token ≠ [] ∧
        Text.IsTrimmed token ∧
        (Cluster.introduction <+: token ↔ Cluster.ConcealsIntroduction key)) ∧
      (∀ before behind, Text.IsBlankText before → Text.IsBlankText behind →
        (Cluster.introduction <+: before ++ key ++ behind ↔ Cluster.introduction <+: key) →
        Sends (before ++ key ++ behind) header) ∧
      (¬Cluster.introduction <+: key → Sends (Cluster.introduction ++ key) header) := by
  refine ⟨Cluster.headerOf key, sends_headerOf key, ?_, fun h said => ?_,
    fun before behind blank blank' alike => ?_, fun plain => ?_⟩
  · rw [Cluster.headerOf, ← Text.strip_eq_nil_iff]
    split <;> simp [*]
  · rw [Cluster.headerOf] at said
    split at said
    · cases said
    next given =>
      cases said
      exact ⟨_, String.toList_ofList, given, Text.isTrimmed_strip _,
        Cluster.introduction_isPrefix_strip_iff⟩
  · rw [← Cluster.headerOf_around blank blank' alike]
    exact sends_headerOf _
  · rw [← Cluster.headerOf_introduced plain]
    exact sends_headerOf _

/-- Blanks of several kinds around a key, and the word in front of all, make no difference. -/
theorem sends_authorization_blanks :
    let key := "\tsha256~token\n".toList
    ∃ header, header ≠ none ∧ Sends key header ∧
      Sends (" ".toList ++ key ++ "\u00a0".toList) header ∧
      Sends (Cluster.introduction ++ key) header := by
  intro key
  obtain ⟨header, sent, missing, -, around, introduced⟩ := sends_authorization key
  have plain : ¬Cluster.introduction <+: key := by decide
  have given : ¬Text.IsBlankText (Cluster.unintroduced key) := fun blank =>
    absurd (blank 's' (by decide)) (by decide)
  refine ⟨header, mt missing.mp given, sent, around _ _ ?_ ?_ ?_, introduced plain⟩
  · intro c inside
    obtain rfl := List.mem_singleton.mp inside
    rfl
  · intro c inside
    obtain rfl := List.mem_singleton.mp inside
    rfl
  · exact iff_of_false (by decide) plain

/-- A site that is accessed with a key, and whose dashboard does not answer. -/
def keyedSite (key : String) : Site Number Unit :=
  { Cluster.silentSite with apiKeys := .object [("authorization", .text key)] }

/-- A blank in front of the key, or the word given twice, and the word is sent twice, while the same
token is sent with the word once under the usual key.  A key that is the word alone is a token or
none, depending on the blank behind it. -/
theorem sends_introductionTwice :
    Sends " Bearer token".toList (some "Bearer Bearer token") ∧
      Sends "Bearer token".toList (some "Bearer token") ∧
      Sends "Bearer Bearer token".toList (some "Bearer Bearer token") ∧
      Sends "Bearer".toList (some "Bearer Bearer") ∧ Sends "Bearer ".toList none ∧
      ((do Query.listJobs.run (some (← connect "https://ray")) : Act Number Unit Json).run
        (keyedSite " Bearer token") Cluster.silentWorld).2.record =
        [.requested
          ⟨"https://ray/api/jobs/",
            [("Accept", "application/json"), ("Authorization", "Bearer Bearer token")], false⟩
          (.failed Cluster.lateAndMissing)] :=
  ⟨sends_headerOf _, sends_headerOf _, sends_headerOf _, sends_headerOf _, sends_headerOf _, by rfl⟩

end Trial

end TrialRun
