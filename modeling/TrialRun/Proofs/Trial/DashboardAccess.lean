import TrialRun.Proofs.Dashboard.Queries
import TrialRun.Proofs.Polling.Replies
import TrialRun.Proofs.Trial.Waits
import TrialRun.Trial.DashboardAccess

/-!
# How the address of a dashboard was found

An address that is given for a dashboard is one that was seen to be exposed.  Where the cluster
serves routes, it is the host of a route that was admitted, and the dashboard has answered there,
with something other than "service unavailable"; elsewhere it is the host of an ingress with exactly
one point of a load balancer.  `dashboardUrl_exposed` tells this by the calls and requests that were
made in between (`World.Asked`): no call but the ones that led to the address, and no request that
is not a probe of it.

Both waits poll one thing.  What the fetches before the last one have asked follows from their
deciding nothing (`Everyday.fetch_of_wait`), so that only single fetches are looked at here.
-/

set_option autoImplicit false

namespace TrialRun

variable {τ σ : Type}

/-! ## What was asked -/

/-- The event is a request to a dashboard. -/
def Event.isRequest : Event τ → Bool
  | .requested _ _ => true
  | _ => false

/-- All requests that were made, the last first. -/
def requestsMade (record : List (Event τ)) : List (Event τ) := record.filter Event.isRequest

theorem requestsMade_append (later earlier : List (Event τ)) :
    requestsMade (later ++ earlier) = requestsMade later ++ requestsMade earlier :=
  List.filter_append _ _

theorem Event.IsEveryday.isRequest {e : Event τ} (h : e.IsEveryday) : e.isRequest = false := by
  cases e with
  | requested r x => exact h.elim
  | _ => rfl

namespace World

/-- These calls and these requests were made in between, the last first. -/
def Asked (calls requests : List (Event τ)) (w w' : World τ σ) : Prop :=
  ∃ es, w'.record = es ++ w.record ∧ callsMade es = calls ∧ requestsMade es = requests

variable {u v w w' : World τ σ} {calls later requests laterRequests : List (Event τ)}

/-- What two acts after each other ask is asked by both together. -/
theorem Asked.trans (first : Asked calls requests u v) (second : Asked later laterRequests v w) :
    Asked (later ++ calls) (laterRequests ++ requests) u w := by
  obtain ⟨es, record, rfl, rfl⟩ := first
  obtain ⟨es', record', rfl, rfl⟩ := second
  refine ⟨es' ++ es, ?_, callsMade_append es' es, requestsMade_append es' es⟩
  rw [record', record, List.append_assoc]

/-- Everyday business asks nothing. -/
theorem Grows.asked_nothing (h : w.Grows Event.IsEveryday w') : Asked [] [] w w' := by
  obtain ⟨es, record, everyday⟩ := h
  refine ⟨es, record, callsMade_eq_nil everyday, ?_⟩
  apply List.filter_eq_nil_iff.mpr
  intro e member
  rw [(everyday e member).isRequest]
  exact Bool.false_ne_true

/-- Whatever is asked beside everyday business is one of the events that are allowed. -/
theorem Grows.exists_asked {P : Event τ → Prop} (h : w.Grows (fun e => e.IsEveryday ∨ P e) w') :
    ∃ calls requests, Asked calls requests w w' ∧
      (∀ e ∈ calls, e.isCall = true ∧ P e) ∧ ∀ e ∈ requests, e.isRequest = true ∧ P e := by
  obtain ⟨es, record, allowed⟩ := h
  refine ⟨_, _, ⟨es, record, rfl, rfl⟩, fun e member => ?_, fun e member => ?_⟩
  · obtain ⟨there, call⟩ := List.mem_filter.mp member
    refine ⟨call, (allowed e there).resolve_left fun everyday => ?_⟩
    rw [everyday.isCall] at call
    cases call
  · obtain ⟨there, request⟩ := List.mem_filter.mp member
    refine ⟨request, (allowed e there).resolve_left fun everyday => ?_⟩
    rw [everyday.isRequest] at request
    cases request

end World

/-! ## Single fetches -/

section Fetches

variable [Timescale τ] {site : Site τ σ} {w w' : World τ σ}

/-- An operation on the cluster has asked for one call. -/
theorem Cluster.asked_of_ask {f : Form} (task : String) (c : Call f) (site : Site τ σ)
    (w : World τ σ) :
    World.Asked [.called c (site.answer c w.outside).1.outcome] [] w
      ((ask task c).run site w).2 := by
  rw [run_ask_eq]
  have waits : World.Asked (τ := τ) (σ := σ) [] []
      (w.afterCall site c) (w.answered site c) :=
    World.Grows.asked_nothing ⟨_, rfl, fun _ => Outcome.isEveryday_of_mem_waits⟩
  have called : World.Asked [.called c (site.answer c w.outside).1.outcome] [] w
      (w.afterCall site c) := ⟨[_], rfl, rfl, rfl⟩
  exact called.trans waits

end Fetches

/-! ## Addresses -/

namespace Dashboard

/-- A text that does not end with a slash has no trailing slashes. -/
theorem withoutSlashes_eq {s : String} (last : s.toList.getLast? ≠ some '/') :
    withoutSlashes s = s := by
  have kept : s.toList.reverse.dropWhile (· == '/') = s.toList.reverse := by
    rw [← List.head?_reverse] at last
    cases front : s.toList.reverse with
    | nil => rfl
    | cons c rest =>
      rw [front, List.head?_cons] at last
      exact List.dropWhile_cons_of_neg fun slash => last (congrArg some (beq_iff_eq.mp slash))
  rw [withoutSlashes, kept, List.reverse_reverse, String.ofList_toList]

theorem hasScheme_https (rest : List Char) : hasScheme ("https:".toList ++ rest) = true :=
  hasScheme_of_scheme "https".toList (by decide) (by simp) rest

/-- What begins with a scheme and ends with a slash is asked for as it is. -/
theorem unwrapped_https (rest : List Char) :
    unwrapped ("https:".toList ++ rest ++ ['/']) = "https:".toList ++ rest ++ ['/'] := by
  have plain := unwrapped_cons (c := 'h') (by decide) (by decide) (by decide)
    ("ttps:".toList ++ rest ++ ['/'])
  have last : Text.isBlank '/' = false := by decide
  rw [List.reverse_append, List.reverse_singleton, List.singleton_append,
    List.dropWhile_cons_of_neg (by simp [last]), List.reverse_cons, List.reverse_reverse] at plain
  exact plain

/-- A probe of a host is a request for its address with a slash behind it, if the host does not end
with one. -/
theorem request_probe {host : String} (given : host ≠ "")
    (last : host.toList.getLast? ≠ some '/') :
    let d := connect s!"https://{host}" none false
    d.request (d.address ++ "/") =
      .ok ⟨s!"https://{host}" ++ "/", [("Accept", "application/json")], false⟩ := by
  intro d
  have chars : (s!"https://{host}").toList = "https:".toList ++ ("//".toList ++ host.toList) := by
    rw [String.toList_append]
    rfl
  have address : d.address = s!"https://{host}" := by
    apply withoutSlashes_eq
    obtain ⟨c, final⟩ := Option.isSome_iff_exists.mp
      (List.getLast?_isSome.mpr (show host.toList ≠ [] by simpa using given))
    rw [final] at last
    rw [chars, ← List.append_assoc, List.getLast?_append, final]
    exact last
  have text : (d.address ++ "/").toList =
      "https:".toList ++ ("//".toList ++ host.toList) ++ ['/'] := by
    rw [address, String.toList_append, chars]
    rfl
  have shown : withoutEmptyFragment (d.address ++ "/").toList = (d.address ++ "/").toList := by
    rw [withoutEmptyFragment, text, List.getLast?_concat, if_neg (by decide)]
  have scheme : hasScheme (d.address ++ "/").toList = true := by
    rw [text, List.append_assoc]
    exact hasScheme_https _
  have whole : unwrapped (d.address ++ "/").toList = (d.address ++ "/").toList := by
    rw [text, unwrapped_https]
  rw [request, whole, if_pos scheme, shown, String.ofList_toList, address]
  rfl

end Dashboard

/-! ## Waits -/

namespace Trial

/-- These are calls of one kind, the last of which was served with a reply. -/
def Polled {f : Cluster.Form} (c : Cluster.Call f) (v : f.Carrier) (polls : List (Event τ)) :
    Prop :=
  ∃ earlier, polls = .called c (.served v) :: earlier ∧ ∀ e ∈ earlier, ∃ o, e = .called c o

/-- An exchange that leaves open whether a service is there: it says that it is not available, or
there was an ordinary fault. -/
def Unanswered (x : Exchange) : Prop :=
  x.status = .ok unavailable ∨ ∃ f, x.status = .error f ∧ f.isOrdinary = true

/-- An exchange that a service has answered, be it with an error. -/
def Answered (x : Exchange) : Prop := ∃ status, x.status = .ok status ∧ status ≠ unavailable

/-- These are requests of one kind, only the last of which was answered. -/
def Probed (r : Dashboard.Request) (probes : List (Event τ)) : Prop :=
  ∃ x earlier, probes = .requested r x :: earlier ∧ Answered x ∧
    ∀ e ∈ earlier, ∃ x, e = .requested r x ∧ Unanswered x

section Waits

variable [Timescale τ] {site : Site τ σ} {w w' : World τ σ} {description : String} {timeout : τ}

/-- A wait that no fault settles ends at a fetch whose state meets the condition.  The fetches
before it had states that do not, or ordinary faults. -/
theorem fetch_of_waitFor {α : Type} {R : World τ σ → World τ σ → Prop} (h : Everyday R)
    {display : α → String} {fetch : Act τ σ α} {satisfied : α → Except Fault Bool}
    (undecided : ∀ w, (∀ v, (fetch.run site w).1 = .ok v → satisfied v = .ok false) →
      (∀ f, (fetch.run site w).1 = .error f → f.isOrdinary = true) → R w (fetch.run site w).2)
    {answer : Option α}
    (run : (waitFor description timeout display fetch satisfied).run site w = (.ok answer, w')) :
    ∃ v w₁, R w w₁ ∧ fetch.run site w₁ = (.ok v, w') ∧ answer = some v ∧
      satisfied v = .ok true := by
  let p : Polling τ σ α :=
    { fetch := fetch
      satisfied := satisfied
      timeout := timeout
      interval := w.trial.pollingInterval
      description := description
      display := display }
  have run : p.wait.run site w = (.ok answer, w') := run
  have left (w : World τ σ) (open' : p.verdict (p.fetch.run site w).1 = none) :
      R w (p.fetch.run site w).2 := by
    refine undecided w (fun v ok => ?_) fun f error => ?_
    · cases met : satisfied v with
      | ok yes =>
        cases yes with
        | true => simp [p, Polling.verdict, ok, met] at open'
        | false => rfl
      | error f => simp [p, Polling.verdict, ok, met] at open'
    · cases ordinary : f.isOrdinary with
      | true => rfl
      | false => simp [p, Polling.verdict, error, ordinary] at open'
  obtain ⟨w₁, w₂, result, before, last, decides, rfl⟩ := h.fetch_of_wait left run
  cases decides with
  | settled _ given _ => cases given
  | @satisfied v yes => exact ⟨v, w₁, before, last, rfl, yes⟩

/-- A wait for a reply has made no call but one, as often as needed; the last of its replies is the
answer, and meets the condition. -/
theorem reply_of_waitFor {f : Cluster.Form} {display : f.Carrier → String} {task : String}
    {c : Cluster.Call f} {satisfied : f.Carrier → Except Fault Bool} {answer : Option f.Carrier}
    (run : (waitFor description timeout display (Cluster.ask task c) satisfied).run site w =
      (.ok answer, w')) :
    ∃ v polls, answer = some v ∧ satisfied v = .ok true ∧ Polled c v polls ∧
      World.Asked polls [] w w' := by
  let P (e : Event τ) : Prop := ∃ o, e = .called c o
  have grows : Everyday (World.Grows (σ := σ) fun e => e.IsEveryday ∨ P e) :=
    everyday_grows fun _ => .inl
  have fetch : (Cluster.ask task c : Act τ σ f.Carrier).Moves
      (World.Grows fun e => e.IsEveryday ∨ P e) :=
    grows.ask task fun o => World.Grows.of_recorded (.inr ⟨o, rfl⟩)
  obtain ⟨v, w₁, before, last, rfl, yes⟩ := fetch_of_waitFor grows (fun w _ _ => fetch site w) run
  have polled := Cluster.asked_of_ask task c site w₁
  rw [Cluster.served_of_ask last, last] at polled
  obtain ⟨polls, requests, asked, calls, probes⟩ := before.exists_asked
  have none : requests = [] := by
    apply List.eq_nil_iff_forall_not_mem.mpr
    intro e member
    obtain ⟨request, o, rfl⟩ := probes e member
    cases request
  subst none
  exact ⟨v, _, rfl, yes, ⟨polls, rfl, fun e member => (calls e member).2⟩, asked.trans polled⟩

/-- A wait for a service has made no request but one, as often as needed; only the last one was
answered. -/
theorem probes_of_waitFor {display : Int → String} {d : Dashboard} {answer : Option Int}
    (run : (waitFor description timeout display d.probe fun status =>
      .ok (status != unavailable)).run site w = (.ok answer, w')) :
    ∃ r probes, d.request (d.address ++ "/") = .ok r ∧ Probed r probes ∧
      World.Asked [] probes w w' := by
  -- a client that cannot make its request has never fetched a status
  have grown : Observant (World.Grown (τ := τ) (σ := σ)) := observant_grown
  obtain ⟨status, w₁, -, last, -⟩ :=
    fetch_of_waitFor grown.toEveryday (fun w _ _ => grown.probe d site w) run
  obtain ⟨r, asks, -⟩ := Act.ok_of_run_lift last
  have probed (w : World τ σ) := Dashboard.run_probe asks site w
  let P (e : Event τ) : Prop := ∃ x, e = .requested r x ∧ Unanswered x
  have grows : Everyday (World.Grows (σ := σ) fun e => e.IsEveryday ∨ P e) :=
    everyday_grows fun _ => .inl
  have undecided (w : World τ σ)
      (missing : ∀ v, (d.probe.run site w).1 = .ok v → Except.ok (v != unavailable) =
        (.ok false : Except Fault Bool))
      (failed : ∀ f, (d.probe.run site w).1 = .error f → f.isOrdinary = true) :
      w.Grows (fun e => e.IsEveryday ∨ P e) (d.probe.run site w).2 := by
    rw [probed] at missing failed ⊢
    refine ⟨[_], rfl, fun e member => .inr ?_⟩
    obtain rfl := List.mem_singleton.mp member
    refine ⟨_, rfl, ?_⟩
    cases status : (site.react r w.outside).1.exchange.status with
    | ok v => exact .inl (by simpa [status] using missing v status)
    | error f => exact .inr ⟨f, status, failed f status⟩
  obtain ⟨status, w₁, before, last, -, available⟩ := fetch_of_waitFor grows undecided run
  obtain ⟨told, rfl⟩ := Prod.mk.inj ((probed w₁).symm.trans last)
  obtain ⟨calls, earlier, asked, none, probes⟩ := before.exists_asked
  have none : calls = [] := by
    apply List.eq_nil_iff_forall_not_mem.mpr
    intro e member
    obtain ⟨call, x, rfl, -⟩ := none e member
    cases call
  subst none
  have last : World.Asked [] [.requested r (site.react r w₁.outside).1.exchange] w₁
      (w₁.afterRequest site r) := ⟨[_], rfl, rfl, rfl⟩
  have answered : status ≠ unavailable := bne_iff_ne.mp (Except.ok.inj available)
  refine ⟨r, _, asks, ?_, asked.trans last⟩
  exact ⟨_, earlier, rfl, ⟨status, told, answered⟩, fun e member => (probes e member).2⟩

end Waits

/-! ## Addresses that are exposed -/

/-- The host under which a route is admitted first. -/
def routeHost (route : Json) : Except Fault Json := do
  (← (← Workload.routeIngresses route).item 0).field "host"

/-- The host of a route is that of its first ingress. -/
theorem routeHost_eq {route ingresses ingress host : Json}
    (read : Workload.routeIngresses route = .ok ingresses) (first : ingresses.item 0 = .ok ingress)
    (given : ingress.field "host" = .ok host) : routeHost route = .ok host := by
  rw [routeHost, read]
  change (ingresses.item 0 >>= fun v => v.field "host") = _
  rw [first]
  exact given

/-- What was done to find an address by a route, with the route that was read last. -/
structure ExposedByRoute (ns name route : Json) (url : String) (polls requests : List (Event τ)) :
    Prop where
  /-- The route was read until it was admitted. -/
  polled : Polled (.getObject .route ns name) route polls
  /-- The address is the one that the route was admitted with. -/
  host : ∃ host, routeHost route = .ok host ∧ url = s!"https://{host.display}"
  /-- The address was probed until it was answered, without a token and without looking at the
  certificate. -/
  probed : ∃ r, Probed r requests ∧ r.headers = [("Accept", "application/json")] ∧
    r.verified = false ∧
    ∀ host, routeHost route = .ok (.text host) → host ≠ "" → host.toList.getLast? ≠ some '/' →
      r.url = url ++ "/"

/-- What was done to find an address by an ingress, with the ingress that was read last. -/
structure ExposedByIngress (ns name : Json) (ingress : Cluster.Ingress) (url : String)
    (polls requests : List (Event τ)) : Prop where
  /-- The ingress was read until it was admitted. -/
  polled : Polled (.readIngress ns name) ingress polls
  point : ingress.loadBalancerPoints.length = 1
  /-- The address is the one of the first rule. -/
  host : ∃ host, ingress.firstHost = .ok host ∧ url = s!"http://{host.display}"
  unprobed : requests = []

section Exposed

variable [Timescale τ] {site : Site τ σ} {w w' : World τ σ} {ns name : Json} {url : String}

/-- The cluster serves routes if it lists their group. -/
theorem groups_of_isOpenshift {serves : Bool}
    (run : Cluster.isOpenshift.run site w = (.ok serves, w')) :
    ∃ groups, World.Asked [.called .listGroups (.served groups)] [] w w' ∧
      (serves = true ↔ .text "route.openshift.io" ∈ groups.getD []) := by
  obtain ⟨groups, w₁, asked, run⟩ := Act.ok_of_run_bind run
  cases run
  have listed := Cluster.asked_of_ask "list API groups" .listGroups site w
  rw [Cluster.served_of_ask asked, asked] at listed
  refine ⟨groups, listed, ?_⟩
  simp only [List.any_eq_true, Json.agrees_text_iff, exists_eq_right]
  rfl

theorem text_of_dashboardName {rayCluster : Json} (named : dashboardName rayCluster = .ok name) :
    ∃ cluster, rayCluster = .text cluster ∧ name = .text ("ray-dashboard-" ++ cluster) := by
  cases rayCluster with
  | text cluster =>
    cases named
    exact ⟨cluster, rfl, rfl⟩
  | _ => cases named

omit [Timescale τ] in
/-- Log records ask nothing. -/
theorem asked_of_log {level : Level} {text : String} {polls requests : List (Event τ)}
    (h : World.Asked polls requests (w.recorded (.log level text)) w') :
    World.Asked polls requests w w' := by
  have told : World.Asked [] [] w (w.recorded (.log level text)) := ⟨[_], rfl, rfl, rfl⟩
  simpa using told.trans h

omit [Timescale τ] in
/-- To log something asks nothing. -/
theorem told_of_asked {level : Level} {text : String} {polls requests : List (Event τ)}
    (h : World.Asked polls requests w w') :
    World.Asked polls requests w (w'.recorded (.log level text)) := by
  have told : World.Asked [] [] w' (w'.recorded (.log level text)) := ⟨[_], rfl, rfl, rfl⟩
  exact h.trans told

/-- An address that is returned for a route is that of an admitted route, and it answered. -/
theorem exposed_of_routeUrl (run : (routeUrl ns name).run site w = (.ok url, w')) :
    ∃ route polls requests, World.Asked polls requests w w' ∧
      ExposedByRoute ns name route url polls requests := by
  obtain ⟨route, w₁, waited, run⟩ := Act.ok_of_run_bind run
  obtain ⟨⟨⟩, w₀, ⟨⟩, waited⟩ := Act.ok_of_run_bind waited
  obtain ⟨answer, w₂, waited, ⟨⟩⟩ := Act.ok_of_run_bind waited
  obtain ⟨route, polls, rfl, -, polled, read⟩ := reply_of_waitFor waited
  rw [Option.getD_some] at run
  obtain ⟨ingresses, ingressesRead, run⟩ := Act.ok_of_run_lift run
  obtain ⟨ingress, first, run⟩ := Act.ok_of_run_lift run
  obtain ⟨host, named, run⟩ := Act.ok_of_run_lift run
  have taken : routeHost route = .ok host := routeHost_eq ingressesRead first named
  obtain ⟨⟨⟩, w₅, ⟨⟩, run⟩ := Act.ok_of_run_bind run
  obtain ⟨status, w₆, waited, ⟨⟩⟩ := Act.ok_of_run_bind run
  obtain ⟨r, probes, asks, probed, asked⟩ := probes_of_waitFor waited
  have asked : World.Asked polls probes w w' := by
    simpa using (asked_of_log read).trans (asked_of_log asked)
  refine ⟨route, polls, probes, asked, polled, ⟨host, taken, rfl⟩, r, probed, ?_⟩
  obtain ⟨headers, verified⟩ := Dashboard.headers_of_request asks
  refine ⟨headers, verified, fun text named given last => ?_⟩
  obtain rfl : host = .text text := Except.ok.inj (taken.symm.trans named)
  rw [← Except.ok.inj ((Dashboard.request_probe given last).symm.trans asks)]
  rfl

/-- An address that is returned for an ingress is that of an admitted ingress, and is not asked. -/
theorem exposed_of_ingressUrl (run : (ingressUrl ns name).run site w = (.ok url, w')) :
    ∃ ingress polls, World.Asked polls [] w w' ∧
      ExposedByIngress ns name ingress url polls [] := by
  obtain ⟨answer, w₁, waited, run⟩ := Act.ok_of_run_bind run
  obtain ⟨⟨⟩, w₀, ⟨⟩, waited⟩ := Act.ok_of_run_bind waited
  obtain ⟨ingress, polls, rfl, one, polled, asked⟩ := reply_of_waitFor waited
  obtain ⟨host, named, ⟨⟩⟩ := Act.ok_of_run_lift run
  exact ⟨ingress, polls, asked_of_log asked, polled, beq_iff_eq.mp (Except.ok.inj one),
    ⟨host, named, rfl⟩, rfl⟩

/-- The address that is given for a dashboard was exposed by what the cluster exposes dashboards
with: a route where its groups are listed, and an ingress elsewhere. -/
theorem dashboardUrl_exposed {rayCluster : Json}
    (run : (dashboardUrl ns rayCluster).run site w = (.ok url, w')) :
    ∃ cluster groups polls requests, rayCluster = .text cluster ∧
      World.Asked (polls ++ [.called .listGroups (.served groups)]) requests w w' ∧
      let name : Json := .text ("ray-dashboard-" ++ cluster)
      let routes := .text "route.openshift.io" ∈ groups.getD []
      (routes → ∃ route, ExposedByRoute ns name route url polls requests) ∧
      (¬routes → ∃ ingress, ExposedByIngress ns name ingress url polls requests) := by
  obtain ⟨name, named, run⟩ := Act.ok_of_run_lift run
  obtain ⟨cluster, rfl, rfl⟩ := text_of_dashboardName named
  obtain ⟨serves, w₂, grouped, run⟩ := Act.ok_of_run_bind run
  obtain ⟨groups, listed, lists⟩ := groups_of_isOpenshift grouped
  refine ⟨cluster, groups, ?_⟩
  -- behind either branch only a log record is left
  cases serves with
  | true =>
    obtain ⟨found, w₃, reached, run⟩ := Act.ok_of_run_bind run
    obtain ⟨⟨⟩, w₄, ⟨⟩, ⟨⟩⟩ := Act.ok_of_run_bind run
    obtain ⟨route, polls, requests, asked, exposed⟩ := exposed_of_routeUrl reached
    have asked := listed.trans asked
    rw [List.append_nil] at asked
    exact ⟨polls, requests, rfl, told_of_asked asked, fun _ => ⟨route, exposed⟩,
      fun no => absurd (lists.mp rfl) no⟩
  | false =>
    obtain ⟨found, w₃, reached, run⟩ := Act.ok_of_run_bind run
    obtain ⟨⟨⟩, w₄, ⟨⟩, ⟨⟩⟩ := Act.ok_of_run_bind run
    obtain ⟨ingress, polls, asked, exposed⟩ := exposed_of_ingressUrl reached
    refine ⟨polls, [], rfl, ?_, fun yes => ?_, fun _ => ⟨ingress, exposed⟩⟩
    · exact told_of_asked (listed.trans asked)
    · cases lists.mpr yes

end Exposed

/-- A site that serves routes.  Its route is admitted at the second look, and the dashboard behind
it is unavailable, then fails, and then is there. -/
def routedSite : Site Rat Nat :=
  { Site.vacant with
    answer := fun {f} _ s =>
      let route (ingresses : List Json) : Json :=
        .object [("status", .object [("ingress", .list ingresses)])]
      let outcome : Outcome f.Carrier := match f, s with
        | .groups, _ => .served (some ["apps", "route.openshift.io"])
        | .value, 1 => .served (route [])
        | .value, _ + 2 => .served (route [.object [("host", "dashboard.example")]])
        | _, _ => .refused (.plain (.refused (.int 403)) "forbidden")
      (⟨1 / 2, outcome⟩, s + 1)
    react := fun _ s =>
      let exchange : Exchange := match s with
        | 3 => .errorStatus 503
        | 4 => .failed (.plain .connection "refused")
        | _ => .errorStatus 401
      (⟨1 / 2, exchange⟩, s + 1) }

theorem dashboardUrl_exposed_routed :
    ∃ (w' : World Rat Nat) (route : Json) (polls requests : List (Event Rat)),
      (dashboardUrl "ns" "mnist").run routedSite World.blank =
        (.ok "https://dashboard.example", w') ∧
      ExposedByRoute "ns" "ray-dashboard-mnist" route "https://dashboard.example" polls
        requests := by
  have found : ((dashboardUrl "ns" "mnist").run routedSite World.blank).1.toOption =
      some "https://dashboard.example" := by decide +kernel
  rcases run : (dashboardUrl "ns" "mnist").run routedSite World.blank with ⟨_ | url, w'⟩
  · rw [run] at found
    cases found
  · rw [run] at found
    obtain rfl : url = "https://dashboard.example" := Option.some.inj found
    obtain ⟨cluster, groups, polls, requests, ⟨⟩, -, byRoute, byIngress⟩ :=
      dashboardUrl_exposed run
    by_cases routes : .text "route.openshift.io" ∈ groups.getD []
    · obtain ⟨route, exposed⟩ := byRoute routes
      exact ⟨w', route, polls, requests, rfl, exposed⟩
    · -- an ingress would have given another scheme
      obtain ⟨ingress, exposed⟩ := byIngress routes
      obtain ⟨host, -, other⟩ := exposed.host
      have scheme := congrArg (fun url => url.toList.take 5) other
      rw [String.toList_append] at scheme
      cases scheme

end Trial

end TrialRun
