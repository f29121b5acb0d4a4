import TrialRun.Proofs.Scenario.Order
import TrialRun.Proofs.Trial.DashboardAccess

/-!
# What addresses and names of files are made of

The address of a dashboard is made of the host that a route or an ingress was served with, and the
name of the file for a log of the identity that a job was served with.  The way to a dashboard and
training ask no address and write no file that is not made so, of a reply that was seen before
(`Trial.Founded`), in every run and however it ends.

What is taken from a reply goes in as it is displayed.  So a text is used as it is, but null goes
into an address and into the name of a file too, as the word for it (`Trial.addresses_ofNull`).  A
route without the field for its host exposes nothing, and the way to it ends with a fault.
-/

set_option autoImplicit false

namespace TrialRun

variable {τ σ : Type}

/-! ## What waits for an address have seen -/

namespace Act.Marks

variable [Timescale τ]

/-- The route that the wait returns is one that was served. -/
theorem waitForRouteAdmitted (ns name : Json) (timeout : τ) :
    (Trial.waitForRouteAdmitted ns name timeout : Act τ σ Json).Marks
      fun route e => e = .called (.getObject .route ns name) (.served route) := by
  refine after (everyday_grown.log _ _) fun _ => ?_
  exact (waitForJson (observant_grown.getObject _ _ _) (getObject _ _ _)).mono fun _ _ => And.right

/-- The ingress that the wait returns is one that was served. -/
theorem waitForIngressAdmitted (ns name : Json) (timeout : τ) :
    (Trial.waitForIngressAdmitted ns name timeout : Act τ σ (Option Cluster.Ingress)).Marks
      fun answer e => ∃ ingress, answer = some ingress ∧
        e = .called (.readIngress ns name) (.served ingress) := by
  have read : (Cluster.getIngress ns name : Act τ σ Cluster.Ingress).Marks
      fun ingress e => e = .called (.readIngress ns name) (.served ingress) := ask _ _
  refine after (everyday_grown.log _ _) fun _ => ?_
  exact (waitFor (observant_grown.getIngress _ _) read).mono
    fun _ _ ⟨ingress, answer, _, served⟩ => ⟨ingress, answer, served⟩

end Act.Marks

/-! ## Replies and what is made of them -/

/-- The reply to a call exposes a dashboard at an address.  The address is made of the host of a
route or of an ingress as it is displayed. -/
def Event.Exposes (ns rayCluster : Json) (url : String) (e : Event τ) : Prop :=
  ∃ name, Trial.dashboardName rayCluster = .ok name ∧
    ((∃ route host, e = .called (.getObject .route ns name) (.served route) ∧
        Trial.routeHost route = .ok host ∧ url = s!"https://{host.display}") ∨
      ∃ ingress host, e = .called (.readIngress ns name) (.served ingress) ∧
        ingress.firstHost = .ok host ∧ url = s!"http://{host.display}")

namespace Trial

/-- The request asks for nothing but a status at an address. -/
def ProbesAt (url : String) (r : Dashboard.Request) : Prop :=
  let d := Dashboard.connect url none false
  d.request (d.address ++ "/") = .ok r

/-- The request asks for the log of a job at an address. -/
def AsksLogsAt (url : String) (job : Json) (r : Dashboard.Request) : Prop :=
  ∃ token, let d := Dashboard.connect url token false
    d.request (d.address ++ s!"/api/jobs/{job.display}/logs") = .ok r

/-- Requests and files are made of what earlier replies have shown. -/
structure Founded (ns rayCluster : Json) (e : Event τ) (earlier : List (Event τ)) : Prop where
  requested : ∀ r x, e = .requested r x → ∃ url,
    (∃ shown ∈ earlier, shown.Exposes ns rayCluster url) ∧
      (ProbesAt url r ∨ ∃ rayJob job,
        (∃ shown ∈ earlier, shown.ShowsSucceeded ns rayJob job) ∧ AsksLogsAt url job r)
  wrote : ∀ p text, e = .wrote p text → ∃ rayJob job,
    (∃ shown ∈ earlier, shown.ShowsSucceeded ns rayJob job) ∧
      ∃ directory : Path, p = directory.join (Path.ofText (jobLogFile job))

variable {ns rayCluster : Json} {ms : List (Event τ → Prop)} {e : Event τ}
  {earlier base : List (Event τ)}

namespace Founded

/-- What only passes is no request and no file. -/
theorem of_isPassing (h : e.IsPassing) : Founded ns rayCluster e earlier := by
  constructor
  · rintro r x rfl
    exact h.elim
  · rintro p text rfl
    exact h.elim

/-- A call needs no reply before it. -/
theorem of_called {f : Cluster.Form} (c : Cluster.Call f) (o : Outcome f.Carrier) :
    Founded ns rayCluster (.called c o) earlier :=
  ⟨nofun, nofun⟩

end Founded

/-- What is founded includes all that is seen of the cluster. -/
theorem inspecting_founded (ns rayCluster : Json) (ms : List (Event τ → Prop)) :
    Inspecting (World.Grows (σ := σ) (Permitted (Founded ns rayCluster) ms)) :=
  inspecting_grows (fun _ passing _ _ => .of_isPassing passing) fun c o _ _ _ _ => .of_called c o

/-- What is founded includes log records and all else that passes. -/
theorem filing_founded (ns rayCluster : Json) (ms : List (Event τ → Prop)) :
    Filing (World.Grows (σ := σ) (Permitted (Founded ns rayCluster) ms)) :=
  filing_grows fun _ passing _ _ => .of_isPassing passing

/-- An exposed address may be probed. -/
theorem probe_founded [Timescale τ] (url : String) (ms : List (Event τ → Prop)) :
    ((Dashboard.connect url none false).probe : Act τ σ Int).Moves
      (World.Grows (Permitted (Founded ns rayCluster)
        (Event.Exposes ns rayCluster url :: ms))) := by
  refine (filing_founded _ _ _).toCalm.probe _ fun r x asked => ?_
  refine World.Grows.of_recorded fun earlier passed => ⟨?_, nofun⟩
  rintro _ _ ⟨⟩
  exact ⟨url, passed.exists_mem List.mem_cons_self, .inl asked⟩

/-- Begun behind some milestones, the act founds what it asks and writes, and ends as told if it
ends with a value. -/
def Founds {α : Type} (site : Site τ σ) (base : List (Event τ)) (ns rayCluster : Json)
    (ms : List (Event τ → Prop)) (a : Act τ σ α) (Q : α → World τ σ → Prop) : Prop :=
  a.Ensures site (KeptSince base (Founded ns rayCluster) ms) Q
    fun _ => KeptSince base (Founded ns rayCluster) []

/-! ## The way to a dashboard -/

section Ways

variable [Timescale τ] {site : Site τ σ} {name : Json}

/-- On the way by a route its host is exposed first, and only then probed. -/
theorem routeUrl_founds (named : dashboardName rayCluster = .ok name) :
    Founds site base ns rayCluster ms (routeUrl ns name) fun url =>
      KeptSince base (Founded ns rayCluster) (Event.Exposes ns rayCluster url :: ms) := by
  have looks := inspecting_founded (τ := τ) (σ := σ) ns rayCluster
  refine ((Act.Marks.waitForRouteAdmitted _ _ _).keptSince
    ((looks ms).waitForRouteAdmitted _ _ _)).bind fun route => ?_
  refine .lift_bind (fun _ _ _ => KeptSince.lawful) fun ingresses read => ?_
  refine .lift_bind (fun _ _ _ => KeptSince.lawful) fun ingress first => ?_
  refine .lift_bind (fun _ _ _ => KeptSince.lawful) fun host given => ?_
  -- from here on the route matters only as what exposes the address
  have exposes : ∀ e : Event τ, e = .called (.getObject .route ns name) (.served route) →
      e.Exposes ns rayCluster s!"https://{host.display}" := by
    rintro e rfl
    exact ⟨name, named, .inl ⟨route, host, rfl, routeHost_eq read first given, rfl⟩⟩
  refine .mono ?_ (fun _ kept => kept.mono_head exposes) (fun _ _ => id) fun _ _ => id
  refine ((looks _).log _ _).keptSince.bind fun _ => ?_
  exact ((looks _).waitFor (probe_founded _ ms)).keptSince.bind fun _ => .pure fun _ => id

/-- On the way by an ingress nothing is requested; its host is exposed. -/
theorem ingressUrl_founds (named : dashboardName rayCluster = .ok name) :
    Founds site base ns rayCluster ms (ingressUrl ns name) fun url =>
      KeptSince base (Founded ns rayCluster) (Event.Exposes ns rayCluster url :: ms) := by
  refine ((Act.Marks.waitForIngressAdmitted _ _ _).keptSince
    ((inspecting_founded ns rayCluster ms).waitForIngressAdmitted _ _ _)).bind fun answer => ?_
  cases answer with
  | none => exact .fail fun _ => KeptSince.lawful
  | some ingress =>
    refine .lift_bind (fun _ _ _ => KeptSince.lawful) fun host given => .pure fun _ kept => ?_
    refine kept.mono_head ?_
    rintro e ⟨ingress, ⟨⟩, rfl⟩
    exact ⟨name, named, .inr ⟨ingress, host, rfl, given, rfl⟩⟩

/-- An address that is given for a dashboard was exposed. -/
theorem dashboardUrl_founds :
    Founds site base ns rayCluster ms (dashboardUrl ns rayCluster) fun url =>
      KeptSince base (Founded ns rayCluster) (Event.Exposes ns rayCluster url :: ms) := by
  refine .lift_bind (fun _ _ _ => KeptSince.lawful) fun name named => ?_
  refine (inspecting_founded ns rayCluster ms).isOpenshift.keptSince.bind fun openshift => ?_
  have logged : ∀ url, Act.Ensures site
      (KeptSince base (Founded ns rayCluster) (Event.Exposes ns rayCluster url :: ms))
      (do
        Act.log .info s!"Ray-dashboard route : {url}"
        pure url : Act τ σ String)
      (fun url => KeptSince base (Founded ns rayCluster) (Event.Exposes ns rayCluster url :: ms))
      fun _ => KeptSince base (Founded ns rayCluster) [] :=
    fun url => ((inspecting_founded _ _ _).log _ _).keptSince.bind fun _ => .pure fun _ => id
  cases openshift with
  | true => exact (routeUrl_founds named).bind logged
  | false => exact (ingressUrl_founds named).bind logged

/-! ## Training -/

omit [Timescale τ] in
/-- A client keeps the address that it is made at. -/
theorem ensures_connect {P : World τ σ → Prop} {E : Fault → World τ σ → Prop} (url : String)
    (kept : ∀ f w, P w → E f w) :
    (connect url : Act τ σ Dashboard).Ensures site P
      (fun d w => (∃ token, d = Dashboard.connect url token false) ∧ P w) E := by
  refine Act.Ensures.bind (.site' (Q := fun _ => P) fun _ => id) fun known => ?_
  refine .lift_bind (fun f _ w hw => kept f w hw) fun token _ => ?_
  exact .pure fun w hw => ⟨⟨token, rfl⟩, hw⟩

/-- The log of a job may be asked for and written once the job was identified. -/
theorem writeJobLogs_founds {rayJob job : Json} {url : String} {d : Dashboard}
    (connected : ∃ token, d = Dashboard.connect url token false)
    (exposed : Event.Exposes ns rayCluster url ∈ ms)
    (identified : Event.ShowsSucceeded ns rayJob job ∈ ms) :
    Founds site base ns rayCluster ms (writeJobLogs (some d) job : Act τ σ Path)
      fun _ => KeptSince base (Founded ns rayCluster) [] := by
  obtain ⟨token, rfl⟩ := connected
  refine ((filing_founded _ _ _).writeJobLogs _ job (fun r x asked => ?_)
    fun directory text => ?_).keptSince.mono (fun _ => id) (fun _ _ => KeptSince.lawful)
      fun _ _ => id
  · refine World.Grows.of_recorded fun earlier passed => ⟨?_, nofun⟩
    rintro _ _ ⟨⟩
    exact ⟨url, passed.exists_mem exposed,
      .inr ⟨rayJob, job, passed.exists_mem identified, token, asked⟩⟩
  · refine World.Grows.of_recorded fun earlier passed => ⟨nofun, ?_⟩
    rintro _ _ ⟨⟩
    exact ⟨rayJob, job, passed.exists_mem identified, directory, rfl⟩

/-- A training asks for logs only where a dashboard was exposed, and only for a job it was shown. -/
theorem train_founds (a : Accelerator) :
    Founds site base ns Workload.rayClusterName ms (train ns a : Act τ σ Unit)
      fun _ => KeptSince base (Founded ns Workload.rayClusterName) [] := by
  have looks := inspecting_founded (τ := τ) (σ := σ) ns Workload.rayClusterName
  refine (looks _).site.keptSince.bind fun known => ?_
  refine (looks _).createObject .rayJob ns _ (fun o => ?_) |>.keptSince.bind fun made => ?_
  · exact World.Grows.of_recorded fun _ _ => .of_called _ o
  refine .lift_bind (fun _ _ _ => KeptSince.lawful) fun rayJob _ => ?_
  refine ((looks _).log _ _).keptSince.bind fun _ => ?_
  refine dashboardUrl_founds.bind fun url => ?_
  refine ((looks _).log _ _).keptSince.bind fun _ => ?_
  refine (ensures_connect url fun _ _ => KeptSince.lawful).bind fun d => .given fun connected => ?_
  refine Act.Ensures.bind ((looks []).ensures_watching (fun _ _ => KeptSince.grows)
    (Scenario.requireSuccess_keptSince ns rayJob fun ms => (looks ms).toLooking)) fun reply => ?_
  refine .lift_bind (fun _ _ _ => KeptSince.lawful) fun job identified => ?_
  -- the last reading of the job matters only as what identifies it
  have identifies : ∀ e : Event τ, e = .called (.getObject .rayJob ns rayJob) (.served reply) ∧
      Workload.rayJobStatus reply = .ok (.text Workload.jobSucceeded) →
        e.ShowsSucceeded ns rayJob job :=
    fun e ⟨served, status⟩ => ⟨reply, served, status, identified⟩
  refine .mono ?_ (fun _ kept => kept.mono_head identifies) (fun _ _ => id) fun _ _ => id
  exact (writeJobLogs_founds connected (by simp) List.mem_cons_self).bind fun _ =>
    .pure fun _ => id

/-- **Addresses and names of files are made of what was shown.**  However the way to a dashboard or
a training ends, each of its requests is a probe of an address that a reply has exposed before, or
asks such an address for the log of a job that a reply has identified before; and each file that it
writes is named by such a job.  An address that is given was exposed.  So if nothing is exposed,
nothing is asked for and the way ends with a fault; but what is exposed need not be a text. -/
theorem addresses_founded (ns rayCluster : Json) (a : Accelerator) (site : Site τ σ)
    (w : World τ σ) :
    let found := (dashboardUrl ns rayCluster).run site w
    let trained := (train ns a).run site w
    (∃ es, found.2.record = es ++ w.record ∧ Lawful (Founded ns rayCluster) es ∧
      ∀ url, found.1 = .ok url → ∃ e ∈ es, e.Exposes ns rayCluster url) ∧
    ∃ es, trained.2.record = es ++ w.record ∧
      Lawful (Founded ns Workload.rayClusterName) es := by
  intro found trained
  -- each part is founded since its own start, where nothing was exposed yet
  have start (rayCluster : Json) := KeptSince.start (Founded ns rayCluster) w
  constructor
  · have founds : Founds site w.record ns rayCluster [] (dashboardUrl ns rayCluster) fun url =>
        KeptSince w.record (Founded ns rayCluster) [Event.Exposes ns rayCluster url] :=
      dashboardUrl_founds
    have ended : Ends _ _ found := founds.ends w (start rayCluster)
    revert ended
    rcases found with ⟨f | url, w'⟩
    · rintro ⟨es, record, lawful, -⟩
      exact ⟨es, record, lawful, nofun⟩
    · rintro ⟨es, record, lawful, passed⟩
      refine ⟨es, record, lawful, ?_⟩
      rintro _ ⟨⟩
      exact passed.exists_mem List.mem_cons_self
  · have founds : Founds site w.record ns Workload.rayClusterName [] (train ns a) fun _ =>
        KeptSince w.record (Founded ns Workload.rayClusterName) [] := train_founds a
    have ended : Ends _ _ trained := founds.ends w (start _)
    revert ended
    rcases trained with ⟨_ | _, w'⟩ <;>
    · rintro ⟨es, record, lawful, -⟩
      exact ⟨es, record, lawful⟩

end Ways

/-- The addresses that were asked for, the last one first. -/
def urlsAsked (record : List (Event τ)) : List String :=
  record.filterMap fun
    | .requested r _ => some r.url
    | _ => none

/-- A site at which a dashboard is exposed with a host that is null, by a route or by an ingress,
and a job has succeeded that says nothing of its identity.  Dashboards are there wherever they are
asked for. -/
def namelessSite (groups : List Json) : Site Rat Nat :=
  { Site.vacant with
    answer := fun {f} c s =>
      let status (fields : List (String × Json)) : Json := .object [("status", .object fields)]
      let outcome : Outcome f.Carrier := match c with
        | .listGroups => .served (some groups)
        | .getObject .route _ _ => .served
            (status [("ingress", .list [.object [("host", .null)]])])
        | .readIngress .. => .served
            { spec := some { hosts := some [.null] }
              status := some { loadBalancer := some { ingress := some [{}] } } }
        | .createObject .. => .served (.object [("metadata", .object [("name", "mnist")])])
        | .getObject .. => .served (status [("jobStatus", "SUCCEEDED")])
        | _ => .refused (.plain (.refused (.int 403)) "forbidden")
      (⟨1 / 2, outcome⟩, s + 1)
    react := fun _ s => (⟨1 / 2, .response 200 [123, 125]⟩, s + 1) }

/-- A host that is null goes into an address that is asked for and given, and an identity that is
missing goes into the address for a log and into the name of its file. -/
theorem addresses_ofNull :
    let found := (dashboardUrl "ns" "mnist").run (namelessSite ["route.openshift.io"]) World.blank
    let trained := (train "ns" .cpu).run (namelessSite []) World.blank
    found.1.toOption = some "https://None" ∧ urlsAsked found.2.record = ["https://None/"] ∧
      trained.1.toOption = some () ∧
      urlsAsked trained.2.record = ["http://None/api/jobs/None/logs"] ∧
      (filesWritten trained.2.record).map (fun file => file.1.text) =
        ["codeflare-e2e-/trial/ray-job-log-None.log"] := by
  decide +kernel

end Trial

end TrialRun
