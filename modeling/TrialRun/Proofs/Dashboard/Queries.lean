import TrialRun.Dashboard.Client
import TrialRun.Proofs.Cluster.Failures
import TrialRun.Proofs.Dashboard.Addresses

/-!
# What queries of a dashboard come to

A query makes one request, if the text that it asks for has a scheme, and ends as the exchange tells
(`Query.run_ends`).  Only a probe takes every status for an answer.  The others want the value in
the body, and whatever keeps them from it is the cause of one failure: a fault in opening the
address or in reading the response, an error status, a body that is no text, or a text that is no
JSON (`Exchange.value`).

How many slashes an address ends with makes no difference, since a client drops them
(`Dashboard.connect_slashes`), and all that is asked for begins with exactly one
(`Dashboard.queries_uniform`).
-/

set_option autoImplicit false

namespace TrialRun

variable {τ σ : Type}

/-! ## Exchanges -/

/-- The status of an exchange, which may also be one of an error. -/
def Exchange.status : Exchange → Except Fault Int
  | .response status _ => .ok status
  | .errorStatus code => .ok code
  | .failed f => .error f

/-- The value in the body of a response.  There is none unless the address was opened and answered
without an error, the response was read, its bytes are a text, and the text is JSON. -/
def Exchange.value : Exchange → Except Fault Json
  | .response _ body => Dashboard.bodyValue body
  | .errorStatus code => .error (.plain (.httpStatus code) s!"HTTP Error {code}: ")
  | .failed f => .error f

namespace Query

/-- Where a query is answered, behind the address of the dashboard. -/
def path : Query → String
  | .probe => "/"
  | .listJobs => "/api/jobs/"
  | .jobDetails job => s!"/api/jobs/{job.display}"
  | .jobLogs job => s!"/api/jobs/{job.display}/logs"

/-- How a query ends by what its request was answered with: a probe with the status, and the others
with what is looked for in the value, or with the failure to get it. -/
inductive Ends (url : String) : Query → Exchange → Except Fault Json → Prop where
  | probed {x : Exchange} {status : Int} : x.status = .ok status →
      Ends url .probe x (.ok (.int status))
  /-- A probe adds nothing to a fault. -/
  | unprobed {x : Exchange} {f : Fault} : x.status = .error f → Ends url .probe x (.error f)
  | jobs {x : Exchange} {v : Json} : x.value = .ok v → Ends url .listJobs x (.ok v)
  | details {x : Exchange} {job v : Json} : x.value = .ok v → Ends url (.jobDetails job) x (.ok v)
  /-- The log is a field of an object; without it, the log is empty. -/
  | logs {x : Exchange} {job : Json} {fields : List (String × Json)} :
      x.value = .ok (.object fields) →
      Ends url (.jobLogs job) x (.ok ((Json.lookup "logs" fields).getD (.text "")))
  /-- What is no object cannot be asked for a log, and nobody deals with that. -/
  | noLogs {x : Exchange} {job v : Json} : x.value = .ok v → (∀ fields, v ≠ .object fields) →
      Ends url (.jobLogs job) x (.error (.noAttribute v "get"))
  /-- An ordinary fault is the cause of the failure. -/
  | failed {q : Query} {x : Exchange} {f : Fault} : q ≠ .probe → x.value = .error f →
      f.isOrdinary = true → Ends url q x (.error (f.leadsTo .failure s!"Failed to get {url}"))
  | interrupted {q : Query} {x : Exchange} {f : Fault} : q ≠ .probe → x.value = .error f →
      f.isOrdinary = false → Ends url q x (.error f)

end Query

/-! ## Runs -/

/-- A request carries the headers of its client. -/
theorem Dashboard.headers_of_request {d : Dashboard} {text : String} {r : Dashboard.Request}
    (asked : d.request text = .ok r) : r.headers = d.headers ∧ r.verified = d.verified := by
  rw [request] at asked
  split at asked
  · cases asked
    exact ⟨rfl, rfl⟩
  · cases asked

section Runs

variable [Timescale τ] {d : Dashboard} {r : Dashboard.Request}

theorem Dashboard.run_probe (asked : d.request (d.address ++ "/") = .ok r) (site : Site τ σ)
    (w : World τ σ) :
    d.probe.run site w =
      ((site.react r w.outside).1.exchange.status, w.afterRequest site r) := by
  rw [probe, asked, Act.run_bind_of_ok _ (Act.run_liftM ..),
    Act.run_bind_of_ok _ (Act.run_request ..)]
  cases (site.react r w.outside).1.exchange <;> rfl

variable (site : Site τ σ) (w : World τ σ)

theorem Dashboard.run_get {path : String} (asked : d.request (d.address ++ path) = .ok r) :
    (d.get path).run site w =
      ((site.react r w.outside).1.exchange.value.mapError fun f =>
        if f.isOrdinary then f.leadsTo .failure s!"Failed to get {d.address ++ path}" else f,
      w.afterRequest site r) := by
  have fetched : (fetch r : Act τ σ Json).run site w =
      ((site.react r w.outside).1.exchange.value, w.afterRequest site r) := by
    rw [fetch, Act.run_bind_of_ok _ (Act.run_request ..)]
    cases (site.react r w.outside).1.exchange with
    | response status body => exact Act.run_ofExcept ..
    | errorStatus code => rfl
    | failed f => rfl
  rw [get, asked, Act.run_bind_of_ok _ (Act.run_liftM ..), Act.run_rescue, fetched]
  cases (site.react r w.outside).1.exchange.value with
  | ok v => rfl
  | error f =>
    dsimp only [Except.mapError]
    split <;> rfl

omit [Timescale τ] in
/-- A client that cannot make its request has a bad address. -/
theorem Dashboard.kind_of_unasked {text : String} {f : Fault}
    (unasked : d.request text = .error f) : f.kind = .badValue := by
  rw [request] at unasked
  split at unasked
  · cases unasked
  · cases unasked
    rfl

/-- Where a client cannot make its request, it asks nothing. -/
theorem Dashboard.run_jobLogs_of_unasked {job : Json} {f : Fault}
    (unasked : d.request (d.address ++ (Query.jobLogs job).path) = .error f) :
    (d.jobLogs job).run site w = (.error f, w) := by
  have got : (d.get (Query.jobLogs job).path : Act τ σ Json).run site w = (.error f, w) := by
    rw [get, unasked]
    rfl
  rw [jobLogs, Act.run_bind]
  rw [Query.path] at got
  rw [got]

/-- The log is looked for in the value of the answer. -/
theorem Dashboard.run_jobLogs_of_value {job v : Json}
    (asked : d.request (d.address ++ (Query.jobLogs job).path) = .ok r)
    (told : (site.react r w.outside).1.exchange.value = .ok v) :
    (d.jobLogs job).run site w = (v.get "logs" (.text ""), w.afterRequest site r) := by
  have got := Dashboard.run_get site w asked
  rw [told, Query.path] at got
  rw [jobLogs, Act.run_bind_of_ok _ got, Act.run_liftM]

/-- **One query.**  A query of a client that can make its request makes no other one, and ends as
the exchange tells. -/
theorem Query.run_ends (q : Query) (asked : d.request (d.address ++ q.path) = .ok r) :
    ((q.run (some d)).run site w).2 = w.afterRequest site r ∧
      q.Ends (d.address ++ q.path) (site.react r w.outside).1.exchange
        ((q.run (some d)).run site w).1 := by
  -- the exchange is all that the site gives, so only its value and its status are split on
  generalize told : (site.react r w.outside).1.exchange = x
  have got : ∀ path, d.request (d.address ++ path) = .ok r → (d.get path).run site w =
      (x.value.mapError fun f =>
        if f.isOrdinary then f.leadsTo .failure s!"Failed to get {d.address ++ path}" else f,
      w.afterRequest site r) := fun path asked => told ▸ Dashboard.run_get site w asked
  have missed : ∀ q : Query, q ≠ .probe → ∀ f, x.value = .error f → q.Ends (d.address ++ q.path) x
      (.error (if f.isOrdinary then f.leadsTo .failure s!"Failed to get {d.address ++ q.path}"
        else f)) := by
    intro q asks f fault
    cases ordinary : f.isOrdinary with
    | true => exact .failed asks fault ordinary
    | false => exact .interrupted asks fault ordinary
  cases q with
  | probe =>
    have probed := Dashboard.run_probe asked site w
    rw [told] at probed
    rw [run, Act.run_bind, probed]
    cases seen : x.status with
    | ok status => exact ⟨rfl, .probed seen⟩
    | error f => exact ⟨rfl, .unprobed seen⟩
  | listJobs =>
    have ran : ((listJobs.run (some d)).run site w : Except Fault Json × World τ σ) = _ :=
      got _ asked
    rw [ran]
    cases seen : x.value with
    | ok v => exact ⟨rfl, .jobs seen⟩
    | error f => exact ⟨rfl, missed .listJobs nofun f seen⟩
  | jobDetails job =>
    have ran : (((jobDetails job).run (some d)).run site w : Except Fault Json × World τ σ) = _ :=
      got _ asked
    rw [ran]
    cases seen : x.value with
    | ok v => exact ⟨rfl, .details seen⟩
    | error f => exact ⟨rfl, missed (.jobDetails job) nofun f seen⟩
  | jobLogs job =>
    cases seen : x.value with
    | ok v =>
      rw [run, Dashboard.run_jobLogs_of_value site w asked (told ▸ seen)]
      cases v with
      | object fields => exact ⟨rfl, .logs seen⟩
      | _ => exact ⟨rfl, .noLogs seen fun _ => nofun⟩
    | error f =>
      have logs : (jobLogs job).path = s!"/api/jobs/{job.display}/logs" := rfl
      rw [run, Dashboard.jobLogs, Act.run_bind, ← logs, got _ asked, seen]
      exact ⟨rfl, missed (.jobLogs job) nofun f seen⟩

end Runs

/-! ## Addresses of clients -/

namespace Dashboard

/-- An address with a scheme that dashboards speak, in small or capital letters, and something of a
host behind it. -/
def IsWebAddress (address : String) : Prop :=
  ∃ (scheme : List Char) (c : Char) (rest : List Char),
    address.toList = scheme ++ "://".toList ++ c :: rest ∧
    (scheme.map Char.toLower = "http".toList ∨ scheme.map Char.toLower = "https".toList) ∧
    c ∉ "/?#".toList

/-- A client does not keep the slashes that its address ends with. -/
theorem connect_slashes (address : String) (n : Nat) (token : Option String) (verified : Bool) :
    connect (address ++ String.ofList (List.replicate n '/')) token verified =
      connect address token verified := by
  have dropped : withoutSlashes (address ++ String.ofList (List.replicate n '/')) =
      withoutSlashes address := by
    rw [withoutSlashes, String.toList_append, String.toList_ofList, List.reverse_append,
      List.reverse_replicate, List.dropWhile_append_of_pos fun c among => ?_]
    · rfl
    · rw [List.eq_of_mem_replicate among]
      rfl
  rw [connect, dropped]
  rfl

theorem getLast?_withoutSlashes (s : String) : (withoutSlashes s).toList.getLast? ≠ some '/' := by
  rw [withoutSlashes, String.toList_ofList, List.getLast?_reverse]
  intro slash
  have kept := List.head?_dropWhile_not (· == '/') s.toList.reverse
  rw [slash] at kept
  simp at kept

/-- What stands before the last character that is no slash is kept. -/
theorem exists_withoutSlashes {address : String} {front rest : List Char} {c : Char}
    (chars : address.toList = front ++ c :: rest) (slash : c ≠ '/') :
    ∃ behind, (withoutSlashes address).toList = front ++ c :: behind := by
  rw [withoutSlashes, String.toList_ofList, chars, List.reverse_append, List.reverse_cons,
    List.append_assoc, List.dropWhile_append]
  cases kept : rest.reverse.dropWhile (· == '/') with
  | nil => exact ⟨[], by simp [slash]⟩
  | cons d before => exact ⟨(d :: before).reverse, by simp⟩

/-! ## What is asked for -/

/-- A path as it is asked for: without the blanks at its end, and without an empty fragment. -/
def shownPath (path : List Char) : List Char :=
  withoutEmptyFragment (path.reverse.dropWhile Text.isBlank).reverse

/-- Only blanks and the sign of an empty fragment are not asked for. -/
theorem exists_eq_shownPath_append (path : List Char) :
    ∃ ending, path = shownPath path ++ ending ∧ ∀ c ∈ ending, Text.isBlank c = true ∨ c = '#' := by
  let blanks := (path.reverse.takeWhile Text.isBlank).reverse
  let kept := (path.reverse.dropWhile Text.isBlank).reverse
  have split : path = kept ++ blanks := by
    rw [← List.reverse_append, List.takeWhile_append_dropWhile, List.reverse_reverse]
  have blank : ∀ c ∈ blanks, Text.isBlank c = true ∨ c = '#' := fun c among =>
    .inl (List.mem_takeWhile_imp (List.mem_reverse.mp among))
  have same : shownPath path = withoutEmptyFragment kept := rfl
  rw [same, withoutEmptyFragment]
  split
  next hash =>
    refine ⟨'#' :: blanks, ?_, List.forall_mem_cons.mpr ⟨.inr rfl, blank⟩⟩
    obtain ⟨before, whole⟩ := List.getLast?_eq_some_iff.mp hash
    rw [whole, List.dropLast_concat]
    rw [whole, List.append_assoc] at split
    exact split
  next => exact ⟨blanks, split, blank⟩

theorem withoutEmptyFragment_append_cons {c : Char} (hash : c ≠ '#') (front rest : List Char) :
    withoutEmptyFragment (front ++ c :: rest) = front ++ c :: withoutEmptyFragment rest := by
  cases rest with
  | nil => simp [withoutEmptyFragment, hash]
  | cons d more =>
    have last : (front ++ c :: d :: more).getLast? = (d :: more).getLast? := by
      simp [List.getLast?_append, List.getLast?_cons]
    rw [withoutEmptyFragment, withoutEmptyFragment, last]
    split
    · simp [List.dropLast_append_of_ne_nil]
    · rfl

/-- A character that is always asked for keeps what stands before it. -/
theorem shownPath_append_cons {c : Char} (blank : Text.isBlank c = false) (hash : c ≠ '#')
    (front rest : List Char) :
    shownPath (front ++ c :: rest) = front ++ c :: shownPath rest := by
  rw [shownPath, dropWhile_blank_append_cons blank, withoutEmptyFragment_append_cons hash]
  rfl

/-- A letter of a scheme means nothing else in an address. -/
theorem plain_of_toLower {c : Char} (lower : c.toLower ∈ "https".toList) :
    Text.isBlank c = false ∧ c ∉ "<U:/#".toList := by
  constructor
  · delta Char.toLower at lower
    split at lower
    next capital =>
      obtain ⟨low, high⟩ := capital
      have low : 65 ≤ c.toNat := low
      have high : c.toNat ≤ 90 := high
      simp [Text.isBlank]
      omega
    next =>
      have letters : ∀ d ∈ "https".toList, Text.isBlank d = false := by
        simp [Text.isBlank]
      exact letters c lower
  · intro sign
    have signs : ∀ d ∈ "<U:/#".toList, d.toLower ∉ "https".toList := by simp
    exact signs c sign lower

/-- A client of such an address has the whole of it before what it asks for. -/
theorem request_of_isWebAddress {address : String} (web : IsWebAddress address)
    (token : Option String) (verified : Bool) {path : String} {rest : List Char}
    (slash : path.toList = '/' :: rest) :
    let d := connect address token verified
    d.request (d.address ++ path) =
      .ok ⟨d.address ++ String.ofList (shownPath path.toList), d.headers, verified⟩ := by
  intro d
  obtain ⟨scheme, c, more, chars, http, host⟩ := web
  -- letters of a scheme are no blanks and no signs, so that nothing is cut off in front
  have plain : ∀ s ∈ scheme, Text.isBlank s = false ∧ s ∉ "<U:/#".toList := fun s inside => by
    have lower := List.mem_map_of_mem (f := Char.toLower) inside
    rcases http with same | same <;> rw [same] at lower
    · exact plain_of_toLower ((by decide : "http".toList ⊆ "https".toList) lower)
    · exact plain_of_toLower lower
  have noSlash : c ≠ '/' := fun same => host (by rw [same]; decide)
  obtain ⟨behind, address⟩ := exists_withoutSlashes chars noSlash
  cases scheme with
  | nil => exact absurd http (by simp)
  | cons s letters =>
    let front := letters ++ "://".toList ++ c :: behind
    have text : (d.address ++ path).toList = s :: (front ++ '/' :: rest) := by
      rw [String.toList_append, slash]
      exact congrArg (· ++ '/' :: rest) address
    obtain ⟨blank, signs⟩ := plain s List.mem_cons_self
    have whole : unwrapped (d.address ++ path).toList =
        s :: (front ++ '/' :: (rest.reverse.dropWhile Text.isBlank).reverse) := by
      rw [text, unwrapped_cons blank (fun same => signs (by rw [same]; decide))
        (fun same => signs (by rw [same]; decide)), dropWhile_blank_append_cons (by decide)]
    have shown : withoutEmptyFragment (unwrapped (d.address ++ path).toList) =
        d.address.toList ++ shownPath path.toList := by
      rw [whole, ← List.cons_append, withoutEmptyFragment_append_cons (by decide), slash]
      have root := shownPath_append_cons (c := '/') (by decide) (by decide) [] rest
      rw [List.nil_append, List.nil_append] at root
      rw [root, show d.address.toList = s :: front from address]
      rfl
    have scheme : hasScheme (unwrapped (d.address ++ path).toList) = true := by
      have parts : s :: (front ++ '/' :: (rest.reverse.dropWhile Text.isBlank).reverse) =
          (s :: letters) ++ ':' :: ("//".toList ++ c :: behind ++
            '/' :: (rest.reverse.dropWhile Text.isBlank).reverse) := by
        simp [front]
      rw [whole, parts]
      refine hasScheme_of_scheme (s :: letters) (List.cons_ne_nil s letters) (fun e inside => ?_) _
      have signs := (plain e inside).2
      simp at signs
      exact ⟨signs.2.2.1, signs.2.2.2.1, signs.2.2.2.2⟩
    rw [request, if_pos scheme, shown, String.ofList_append, String.ofList_toList]
    rfl

/-! ## Uniformity -/

/-- What is asked for of a path: all of it but blanks and the sign of an empty fragment at its end,
with one slash in front. -/
def Shows (shown path : String) : Prop :=
  (∃ rest, shown.toList = '/' :: rest ∧ rest.head? ≠ some '/') ∧
  ∃ ending, path.toList = shown.toList ++ ending ∧
    ∀ c ∈ ending, Text.isBlank c = true ∨ c = '#'

theorem shows_shownPath (q : Query) :
    Shows (String.ofList (shownPath q.path.toList)) q.path := by
  obtain ⟨ending, whole, dropped⟩ := exists_eq_shownPath_append q.path.toList
  refine ⟨?_, ending, by rwa [String.toList_ofList], dropped⟩
  rw [String.toList_ofList]
  have api : ∀ rest, q.path.toList = '/' :: 'a' :: rest →
      ∃ rest, shownPath q.path.toList = '/' :: rest ∧ rest.head? ≠ some '/' := fun rest begins =>
    ⟨'a' :: shownPath rest, by
      rw [begins]
      exact shownPath_append_cons (c := 'a') (by decide) (by decide) ['/'] rest, by simp⟩
  cases q with
  | probe => exact ⟨[], by decide, nofun⟩
  | listJobs => exact api _ rfl
  | jobDetails job => exact api _ (by simp [Query.path]; rfl)
  | jobLogs job => exact api _ (by simp [Query.path]; rfl)

variable [Timescale τ]

/-- **Uniform queries.**  How many slashes an address ends with makes no difference to a client.
Each of its queries makes one request, with one slash between the address and the path, and ends as
the exchange tells. -/
theorem queries_uniform {address : String} (web : IsWebAddress address) (token : Option String)
    (verified : Bool) :
    let d := connect address token verified
    (∀ n, connect (address ++ String.ofList (List.replicate n '/')) token verified = d) ∧
    d.address.toList.getLast? ≠ some '/' ∧
    ∀ q : Query, ∃ shown, Shows shown q.path ∧ ∀ (site : Site τ σ) (w : World τ σ),
      let r : Request := ⟨d.address ++ shown, ("Accept", "application/json") :: authorization token,
        verified⟩
      let x := (site.react r w.outside).1.exchange
      ((q.run (some d)).run site w).2 = w.afterRequest site r ∧
      ((q.run (some d)).run site w).2.record = .requested r x :: w.record ∧
      q.Ends (d.address ++ q.path) x ((q.run (some d)).run site w).1 := by
  intro d
  refine ⟨fun n => connect_slashes address n token verified, getLast?_withoutSlashes address, ?_⟩
  intro q
  refine ⟨_, shows_shownPath q, fun site w => ?_⟩
  obtain ⟨rest, slash⟩ : ∃ rest, q.path.toList = '/' :: rest := by
    obtain ⟨⟨rest, begins, -⟩, ending, whole, -⟩ := shows_shownPath q
    rw [begins] at whole
    exact ⟨_, whole⟩
  obtain ⟨after, ends⟩ := q.run_ends site w (request_of_isWebAddress web token verified slash)
  exact ⟨after, by rw [after]; rfl, ends⟩

/-- A site whose dashboard answers everything in one way. -/
def answeringSite (x : Exchange) : Site Number Unit :=
  { Cluster.silentSite with react := fun _ s => (⟨.int 0, x⟩, s) }

theorem queries_uniform_missing : IsWebAddress "http://ray" ∧
    ∃ f : Fault, ((Query.listJobs.run (some (connect "http://ray"))).run
      (answeringSite (.errorStatus 404)) Cluster.silentWorld).1 = .error f ∧
      f.kind = .failure := by
  have web : IsWebAddress "http://ray" :=
    ⟨"http".toList, 'r', "ay".toList, by decide, .inl (by decide), by decide⟩
  obtain ⟨-, -, asked⟩ := queries_uniform (τ := Number) (σ := Unit) web none true
  obtain ⟨shown, -, runs⟩ := asked .listJobs
  obtain ⟨-, -, ends⟩ := runs (answeringSite (.errorStatus 404)) Cluster.silentWorld
  refine ⟨web, ?_⟩
  generalize ((Query.listJobs.run (some (connect "http://ray"))).run
    (answeringSite (.errorStatus 404)) Cluster.silentWorld).1 = result at ends
  cases ends with
  | jobs read => cases read
  | failed _ fault ordinary => exact ⟨_, rfl, rfl⟩
  | interrupted _ fault unusual =>
    cases fault
    cases unusual

end Dashboard

end TrialRun
