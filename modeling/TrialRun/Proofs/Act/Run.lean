import TrialRun.Act

/-!
# What acts do

An act ends with a value or a fault and leaves a world behind (`Act.run`).  Each of the acts that
others are made from has one equation here, and so have their combinations; proofs about larger acts
cite these and never open `Act` itself.

A call of the API server is the one act with three ends.  `World.afterCall` is the world that the
call itself leaves, and `World.awaited` the one behind the wait for its answer.
-/

set_option autoImplicit false

namespace TrialRun

variable {τ σ α β γ : Type}

/-- If a computation goes on with another one and ends with a value, both have ended with one. -/
theorem ok_of_bind {ε : Type} {r : Except ε α} {next : α → Except ε β} {v : β}
    (h : (r >>= next) = .ok v) : ∃ u, r = .ok u ∧ next u = .ok v := by
  cases r with
  | ok u => exact ⟨u, rfl, h⟩
  | error f => cases h

namespace World

/-- The world with one more event in its record. -/
def recorded (w : World τ σ) (e : Event τ) : World τ σ := { w with record := e :: w.record }

/-- To record an event changes the record, and nothing else. -/
@[simp] theorem recorded_record (w : World τ σ) (e : Event τ) :
    (w.recorded e).record = e :: w.record := rfl
@[simp] theorem recorded_trial (w : World τ σ) (e : Event τ) :
    (w.recorded e).trial = w.trial := rfl
@[simp] theorem recorded_outside (w : World τ σ) (e : Event τ) :
    (w.recorded e).outside = w.outside := rfl
@[simp] theorem recorded_clock (w : World τ σ) (e : Event τ) :
    (w.recorded e).clock = w.clock := rfl
@[simp] theorem recorded_volume (w : World τ σ) (e : Event τ) :
    (w.recorded e).volume = w.volume := rfl

/-- The world with another trial. -/
def noted (w : World τ σ) (f : Trial τ → Trial τ) : World τ σ := { w with trial := f w.trial }

/-- A note changes what the trial keeps in mind, and nothing else. -/
@[simp] theorem noted_record (w : World τ σ) (f : Trial τ → Trial τ) :
    (w.noted f).record = w.record := rfl
@[simp] theorem noted_trial (w : World τ σ) (f : Trial τ → Trial τ) :
    (w.noted f).trial = f w.trial := rfl
@[simp] theorem noted_outside (w : World τ σ) (f : Trial τ → Trial τ) :
    (w.noted f).outside = w.outside := rfl
@[simp] theorem noted_volume (w : World τ σ) (f : Trial τ → Trial τ) :
    (w.noted f).volume = w.volume := rfl

variable [Timescale τ] {f : Cluster.Form}

/-- The world once a call is made, whatever its outcome. -/
def afterCall (w : World τ σ) (site : Site τ σ) (c : Cluster.Call f) : World τ σ :=
  let (answer, outside) := site.answer c w.outside
  { w with
    clock := Timescale.add w.clock answer.cost
    outside := outside
    record := .called c answer.outcome :: w.record }

/-- The world once a request is dealt with. -/
def afterRequest (w : World τ σ) (site : Site τ σ) (r : Dashboard.Request) : World τ σ :=
  let (reaction, outside) := site.react r w.outside
  { w with
    clock := Timescale.add w.clock reaction.cost
    outside := outside
    record := .requested r reaction.exchange :: w.record }

/-- A call is recorded with its outcome, and the outside goes on. -/
@[simp] theorem afterCall_record (w : World τ σ) (site : Site τ σ) (c : Cluster.Call f) :
    (w.afterCall site c).record = .called c (site.answer c w.outside).1.outcome :: w.record := rfl
@[simp] theorem afterCall_trial (w : World τ σ) (site : Site τ σ) (c : Cluster.Call f) :
    (w.afterCall site c).trial = w.trial := rfl
@[simp] theorem afterCall_outside (w : World τ σ) (site : Site τ σ) (c : Cluster.Call f) :
    (w.afterCall site c).outside = (site.answer c w.outside).2 := rfl

/-- A request is recorded with its exchange, and the outside goes on. -/
@[simp] theorem afterRequest_record (w : World τ σ) (site : Site τ σ) (r : Dashboard.Request) :
    (w.afterRequest site r).record =
      .requested r (site.react r w.outside).1.exchange :: w.record := rfl
@[simp] theorem afterRequest_trial (w : World τ σ) (site : Site τ σ) (r : Dashboard.Request) :
    (w.afterRequest site r).trial = w.trial := rfl
@[simp] theorem afterRequest_outside (w : World τ σ) (site : Site τ σ) (r : Dashboard.Request) :
    (w.afterRequest site r).outside = (site.react r w.outside).2 := rfl

end World

namespace Act

variable (site : Site τ σ) (w : World τ σ)

/-! ## Combinations -/

/-- A value is given in the same world. -/
@[simp] theorem run_pure (v : α) : (pure v : Act τ σ α).run site w = (.ok v, w) := rfl

@[simp] theorem run_fail (f : Fault) : (fail f : Act τ σ α).run site w = (.error f, w) := rfl

/-- An act goes on with the value of another one, unless that one ends with a fault. -/
theorem run_bind (a : Act τ σ α) (next : α → Act τ σ β) :
    (a >>= next).run site w =
      match a.run site w with
      | (.ok v, w') => (next v).run site w'
      | (.error f, w') => (.error f, w') := rfl

variable {site w}

/-- What has a value goes on with it, in the world that it leaves. -/
theorem run_bind_of_ok {a : Act τ σ α} {v : α} {w' : World τ σ} (next : α → Act τ σ β)
    (h : a.run site w = (.ok v, w')) : (a >>= next).run site w = (next v).run site w' := by
  rw [run_bind, h]

/-- If an act goes on with another one and ends with a value, both have ended with one. -/
theorem ok_of_run_bind {a : Act τ σ α} {next : α → Act τ σ β} {v : β} {w' : World τ σ}
    (h : (a >>= next).run site w = (.ok v, w')) :
    ∃ u w₁, a.run site w = (.ok u, w₁) ∧ (next u).run site w₁ = (.ok v, w') := by
  rw [run_bind] at h
  rcases ha : a.run site w with ⟨_ | u, w₁⟩
  · rw [ha] at h
    cases h
  · rw [ha] at h
    exact ⟨u, w₁, rfl, h⟩

/-- What follows an act may only make something of its value. -/
theorem run_bind_of_returns {a : Act τ σ α} {next : α → Act τ σ β} {finish : α → Except Fault β}
    (returns : ∀ v w, (next v).run site w = (finish v, w)) :
    (a >>= next).run site w = ((a.run site w).1 >>= finish, (a.run site w).2) := by
  rw [run_bind]
  rcases a.run site w with ⟨_ | v, w'⟩
  · rfl
  · exact returns v w'

variable (site w)

/-- An attempt never has a fault of its own. -/
@[simp] theorem run_attempt (a : Act τ σ α) :
    a.attempt.run site w = (.ok (a.run site w).1, (a.run site w).2) := rfl

/-- A computation leaves the world as it is. -/
@[simp] theorem run_ofExcept (r : Except Fault α) :
    (ofExcept r : Act τ σ α).run site w = (r, w) := by
  cases r <;> rfl

@[simp] theorem run_liftM (r : Except Fault α) :
    (liftM r : Act τ σ α).run site w = (r, w) := run_ofExcept site w r

/-- Only ordinary faults are dealt with. -/
theorem run_rescue (a : Act τ σ α) (handle : Fault → Act τ σ α) :
    (a.rescue handle).run site w =
      match a.run site w with
      | (.ok v, w') => (.ok v, w')
      | (.error f, w') => if f.isOrdinary then (handle f).run site w' else (.error f, w') := by
  rw [rescue, run_bind, run_attempt]
  rcases a.run site w with ⟨_ | v, w'⟩
  · dsimp only
    split <;> rfl
  · rfl

/-- A choice runs the one or the other. -/
@[simp] theorem run_ite (c : Prop) [Decidable c] (a b : Act τ σ α) :
    (if c then a else b).run site w = if c then a.run site w else b.run site w := by
  split <;> rfl

/-- One item is dealt with before the others. -/
theorem run_forEach_cons (act : β → Act τ σ Unit) (item : β) (rest : List β) :
    (forEach act (item :: rest)).run site w =
      (act item >>= fun _ => forEach act rest).run site w := rfl

/-- Items in front are dealt with before those behind. -/
theorem run_forEach_append (act : β → Act τ σ Unit) (first second : List β) :
    (forEach act (first ++ second)).run site w =
      (forEach act first >>= fun _ => forEach act second).run site w := by
  induction first generalizing w with
  | nil => rfl
  | cons item rest ih =>
    rw [List.cons_append, run_forEach_cons, run_bind, run_bind, run_forEach_cons, run_bind]
    rcases (act item).run site w with ⟨f | _, w₁⟩
    · rfl
    · dsimp only
      rw [ih, run_bind]

/-- Items may be renamed before they are dealt with, or as they are. -/
theorem run_forEach_map (act : γ → Act τ σ Unit) (f : β → γ) (items : List β) :
    (forEach act (items.map f)).run site w =
      (forEach (fun item => act (f item)) items).run site w := by
  induction items generalizing w with
  | nil => rfl
  | cons item rest ih =>
    rw [List.map_cons, run_forEach_cons, run_forEach_cons, run_bind, run_bind]
    rcases (act (f item)).run site w with ⟨g | _, w₁⟩
    · rfl
    · exact ih w₁

/-- Acts for the parts of each item are acts for all parts. -/
theorem run_forEach_flatMap (act : γ → Act τ σ Unit) (parts : β → List γ) (items : List β) :
    (forEach act (items.flatMap parts)).run site w =
      (forEach (fun item => forEach act (parts item)) items).run site w := by
  induction items generalizing w with
  | nil => rfl
  | cons item rest ih =>
    rw [List.flatMap_cons, run_forEach_append, run_forEach_cons, run_bind, run_bind]
    rcases (forEach act (parts item)).run site w with ⟨f | _, w₁⟩
    · rfl
    · exact ih w₁

variable {site w} in
/-- If an act goes on with the value of a computation, the computation has one. -/
theorem ok_of_run_lift {r : Except Fault α} {next : α → Act τ σ β} {v : β} {w' : World τ σ}
    (h : ((liftM r : Act τ σ α) >>= next).run site w = (.ok v, w')) :
    ∃ u, r = .ok u ∧ (next u).run site w = (.ok v, w') := by
  obtain ⟨u, w₁, computed, h⟩ := ok_of_run_bind h
  rw [run_liftM] at computed
  obtain ⟨value, rfl⟩ := Prod.mk.inj computed
  exact ⟨u, value, h⟩

/-! ## Looking and changing -/

/-- What may be looked at is given as it is. -/
@[simp] theorem run_site : (Act.site : Act τ σ (Site τ σ)).run site w = (.ok site, w) := rfl
@[simp] theorem run_world : (Act.world : Act τ σ (World τ σ)).run site w = (.ok w, w) := rfl
@[simp] theorem run_trial : (Act.trial : Act τ σ (Trial τ)).run site w = (.ok w.trial, w) := rfl

/-- A change is made at once and cannot fail. -/
@[simp] theorem run_change (f : World τ σ → World τ σ) :
    (change f).run site w = (.ok (), f w) := rfl
@[simp] theorem run_note (f : Trial τ → Trial τ) :
    (note f : Act τ σ Unit).run site w = (.ok (), w.noted f) := rfl
@[simp] theorem run_record (e : Event τ) :
    (record e : Act τ σ Unit).run site w = (.ok (), w.recorded e) := rfl
@[simp] theorem run_log (level : Level) (text : String) :
    (log level text : Act τ σ Unit).run site w = (.ok (), w.recorded (.log level text)) := rfl

/-! ## Files -/

/-- A disk that objects comes before what would be done on it. -/
theorem run_disk (action : DiskAction) (a : Act τ σ α) :
    (disk action a).run site w =
      match (site.obstacle action w.outside).1 with
      | some fault => (.error fault, { w with outside := (site.obstacle action w.outside).2 })
      | none => a.run site { w with outside := (site.obstacle action w.outside).2 } := by
  have begun : (disk action a).run site w =
      (match (site.obstacle action w.outside).1 with
        | some fault => fail fault
        | none => a : Act τ σ α).run site
          { w with outside := (site.obstacle action w.outside).2 } := rfl
  rw [begun]
  cases (site.obstacle action w.outside).1 <;> rfl

/-- A change of the volume is made unless the path holds a null character, or the volume has an
error of its own. -/
theorem run_settle (p : Path) (change? : Volume → Except DiskError Volume) :
    (settle p change? : Act τ σ Unit).run site w =
      if p.names.any (·.toList.contains '\x00') then
        (.error (.plain .badValue "embedded null byte"), w)
      else
        match change? w.volume with
        | .ok volume => (.ok (), { w with volume := volume })
        | .error e => (.error (.disk e p.text), w) := by
  rw [settle, run_ite]
  refine ite_congr rfl (fun _ => rfl) fun _ => ?_
  rw [run_bind_of_ok _ (run_world site w)]
  cases change? w.volume <;> rfl

/-! ## Time, calls and requests -/

variable [Timescale τ]

/-- The clock may be moved on. -/
@[simp] theorem run_pass (span : τ) : (pass span : Act τ σ Unit).run site w =
    (.ok (), { w with clock := Timescale.add w.clock span }) := rfl

/-- A sleep is recorded first, then refused if it is negative or too long; otherwise it passes. -/
theorem run_sleep (span : τ) :
    (sleep span : Act τ σ Unit).run site w =
      if Timescale.lt span (Timescale.seconds 0) then
        (.error (.plain .badValue "sleep length must be non-negative"), w.recorded (.slept span))
      else if Timescale.fits span then
        (.ok (), { w.recorded (.slept span) with clock := Timescale.add w.clock span })
      else (.error .overflow, w.recorded (.slept span)) := by
  rw [sleep, run_bind_of_ok _ (run_record ..), run_ite, spend, run_ite]
  rfl

variable {f : Cluster.Form}

/-- A call comes back with its outcome, at once or after waiting for it. -/
theorem run_call (c : Cluster.Call f) :
    (call c : Act τ σ f.Carrier).run site w =
      match (site.answer c w.outside).1.outcome with
      | .refused fault => (.error fault, w.afterCall site c)
      | .late fault => (.error fault, (w.afterCall site c).recorded (.awaited patience))
      | .served v => (.ok v, (w.afterCall site c).recorded (.awaited patience)) := by
  have made : (call c : Act τ σ f.Carrier).run site w =
      (match (site.answer c w.outside).1.outcome with
        | .refused fault => fail fault
        | .late fault => do
          record (.awaited patience)
          fail fault
        | .served v => do
          record (.awaited patience)
          pure v : Act τ σ f.Carrier).run site (w.afterCall site c) := rfl
  rw [made]
  cases (site.answer c w.outside).1.outcome <;> rfl

/-- An exchange comes back from a request, whatever it is. -/
theorem run_request (r : Dashboard.Request) :
    (request r : Act τ σ Exchange).run site w =
      (.ok (site.react r w.outside).1.exchange, w.afterRequest site r) := rfl

end Act

end TrialRun
