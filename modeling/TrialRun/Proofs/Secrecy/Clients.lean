import TrialRun.Proofs.Secrecy.Blind

/-!
# Where the token goes

The token that the cluster is accessed with goes into the header of the requests that a trial's own
clients of dashboards make, and nowhere else.
-/

set_option autoImplicit false

namespace TrialRun

variable {τ σ α β : Type}

/-! ## Requests that differ in the token -/

namespace Dashboard

/-- The request of a client that a trial has made with this token. -/
def ownRequest (token : Option String) (url : String) : Request :=
  ⟨url, ("Accept", "application/json") :: authorization token, false⟩

end Dashboard

/-- What is recorded in one run and in the other is the same, or it is a request of an own client
that carries the token of its run and is answered in the same way. -/
inductive Event.Matches (token token' : Option String) : Event τ → Event τ → Prop where
  | same (e : Event τ) : Matches token token' e e
  | own (url : String) (x : Exchange) :
    Matches token token' (.requested (Dashboard.ownRequest token url) x)
      (.requested (Dashboard.ownRequest token' url) x)

/-- The answers of the dashboard do not depend on the headers of requests. -/
def Site.IgnoresHeaders (site : Site τ σ) : Prop :=
  ∀ (r : Dashboard.Request) headers s, site.react { r with headers := headers } s = site.react r s

namespace Comparison

/-- Two runs with keys that hold these tokens, where the answers do not depend on headers. -/
structure IsFair (C : Comparison τ σ) : Prop where
  held : Cluster.bearerToken C.keys = .ok C.token
  held' : Cluster.bearerToken C.keys' = .ok C.token'
  ignores : C.site.IgnoresHeaders
  requests : ∀ url x, C.Matches (.requested (Dashboard.ownRequest C.token url) x)
    (.requested (Dashboard.ownRequest C.token' url) x)

variable {C : Comparison τ σ}

/-- Requests that are the same, or that own clients make of one address. -/
inductive SameRequest (C : Comparison τ σ) : Dashboard.Request → Dashboard.Request → Prop where
  | same (r : Dashboard.Request) : SameRequest C r r
  | own (url : String) :
    SameRequest C (Dashboard.ownRequest C.token url) (Dashboard.ownRequest C.token' url)

theorem SameClient.address {d d' : Dashboard} (h : C.SameClient d d') : d'.address = d.address := by
  cases h <;> rfl

/-- Clients of one address make the same request, each with its own token, or both fail alike. -/
theorem SameClient.request {d d' : Dashboard} (h : C.SameClient d d') (url : String) :
    SameEnd C.SameRequest (d.request url) (d'.request url) := by
  cases h with
  | same d => exact (SameEnd.refl _).mono fun r _ same => same ▸ .same r
  | own address =>
    simp only [Dashboard.request]
    split
    · exact .value (.own _)
    · exact .fault _

/-! ## Acts of clients -/

namespace Twin

variable {R : α → β → Prop}

/-- Computations that end alike may stand in the two runs. -/
theorem lift {r : Except Fault α} {r' : Except Fault β} (h : SameEnd R r r') :
    C.Twin R (liftM r : Act τ σ α) (liftM r' : Act τ σ β) := by
  cases h with
  | value related => exact pure related
  | fault f => exact fail f

/-- Of the site, each run sees its own keys. -/
theorem site {next : Site τ σ → Act τ σ α} {next' : Site τ σ → Act τ σ β}
    (second : C.Twin R (next C.one) (next' C.other)) :
    C.Twin R (Act.site >>= next) (Act.site >>= next') := second

variable [Timescale τ]

/-- A fair site answers two requests alike that differ in the token alone. -/
theorem request {r r' : Dashboard.Request} (fair : C.IsFair) (same : C.SameRequest r r') :
    C.Twin Eq (Act.request r : Act τ σ Exchange) (Act.request r') := by
  cases same with
  | same r => exact Blind.request r
  | own url =>
    intro w w' alike
    -- The site answers both as it answers the first, since only the headers differ.
    have answered : C.other.react (Dashboard.ownRequest C.token' url) w'.outside =
        C.one.react (Dashboard.ownRequest C.token url) w.outside := by
      rw [alike.outside]
      exact fair.ignores (Dashboard.ownRequest C.token url) _ w.outside
    have recorded := alike.recorded
      (fair.requests url (C.one.react (Dashboard.ownRequest C.token url) w.outside).1.exchange)
    rw [Act.run_request, Act.run_request, World.afterRequest, World.afterRequest, answered]
    refine ⟨.value rfl, ?_, rfl, alike.volume, alike.trial, recorded.record⟩
    exact congrArg (Timescale.add · _) alike.clock

variable {d d' : Dashboard}

/-- A probe sends no token, whatever the client has. -/
theorem probe (fair : C.IsFair) (same : C.SameClient d d') :
    C.Twin Eq (d.probe : Act τ σ Int) d'.probe := by
  unfold Dashboard.probe
  rw [same.address]
  refine bind (lift (same.request _)) fun r r' alike => bind (request fair alike) ?_
  rintro x _ rfl
  cases x with
  | response status body => exact pure rfl
  | errorStatus code => exact pure rfl
  | failed f => exact fail f

/-- Answers are read alike, since the two sites give the same status and the same bytes. -/
theorem fetch {r r' : Dashboard.Request} (fair : C.IsFair) (same : C.SameRequest r r') :
    C.Twin Eq (Dashboard.fetch r : Act τ σ Json) (Dashboard.fetch r') := by
  refine bind (request fair same) ?_
  rintro x _ rfl
  cases x with
  | response status body => exact Blind.lift (Dashboard.bodyValue body)
  | errorStatus code => exact fail _
  | failed f => exact fail f

theorem get (fair : C.IsFair) (same : C.SameClient d d') (path : String) :
    C.Twin Eq (d.get path : Act τ σ Json) (d'.get path) := by
  unfold Dashboard.get
  rw [same.address]
  refine bind (lift (same.request _)) fun r r' alike => ?_
  exact rescue (fetch fair alike) fun _ => fail _

/-- Queries of clients that are alike are answered in the same way, also if there is no client. -/
theorem query {client client' : Option Dashboard} (fair : C.IsFair)
    (same : Option.Rel C.SameClient client client') (q : Query) :
    C.Twin Eq (q.run client : Act τ σ Json) (q.run client') := by
  cases same with
  | none => exact fail _
  | some same =>
    cases q with
    | probe => exact bind (probe fair same) fun _ _ status => pure (congrArg _ status)
    | listJobs => exact get fair same _
    | jobDetails job => exact get fair same _
    | jobLogs job =>
      refine bind (get fair same _) ?_
      rintro answer _ rfl
      exact Blind.lift _

omit [Timescale τ] in
/-- In both runs a trial makes its client of one address, each with its own token. -/
theorem connect (fair : C.IsFair) (url : Json) :
    C.Twin C.SameClient (Trial.connect url : Act τ σ Dashboard) (Trial.connect url) := by
  refine site ?_
  have held : SameEnd (fun t t' => t = C.token ∧ t' = C.token') (Cluster.bearerToken C.keys)
      (Cluster.bearerToken C.keys') := by
    rw [fair.held, fair.held']
    exact .value ⟨rfl, rfl⟩
  refine bind (lift held) ?_
  rintro _ _ ⟨rfl, rfl⟩
  cases url with
  | text address => exact pure (.own address)
  | _ => exact fail _

/-- Job logs are fetched through the client of the trial, which both runs have or both lack. -/
theorem writeJobLogs {client client' : Option Dashboard} (fair : C.IsFair)
    (same : Option.Rel C.SameClient client client') (job : Json) :
    C.Twin Eq (Trial.writeJobLogs client job : Act τ σ Path) (Trial.writeJobLogs client' job) := by
  refine bind (Blind.log _ _) fun _ _ _ => bind (query fair same _) ?_
  rintro logs _ rfl
  exact Blind.writeOutput _ _

end Twin

end Comparison

end TrialRun
