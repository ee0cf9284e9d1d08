import HostMonitor.Proofs.Auditing
import HostMonitor.Proofs.Serving

/-!
# One summary for every request

When a request is answered the log gets one line with its method, its path and the
status that is sent, and before it a warning if the status is 401.  A request that
fails as a whole is answered with the status 500, and it gets neither: there is only
the line about the failure.

No other part of the program writes such lines.  `Quiet` says so of a run, and it is
followed from the commands on the host to the methods.
-/

namespace HostMonitor

/-! ## Runs without closing lines -/

/-- The event is a line about how a request was answered. -/
def Event.isClosing : Event → Bool
  | .noted (.unauthorized ..) | .noted (.answered ..) | .noted (.unanswered _) => true
  | _ => false

namespace Run

variable {α β : Type} {r : Run α} {next : α → Run β}

/-- The run writes nothing about how a request was answered. -/
def Quiet (r : Run α) : Prop := ∀ e ∈ r.events, e.isClosing = false

theorem quiet_of_silent (silent : r.events = []) : r.Quiet := by
  intro e mem
  rw [silent] at mem
  cases mem

theorem quiet_cause {e : Event} (h : e.isClosing = false) : (cause e).Quiet := by
  intro e' mem
  rwa [List.mem_singleton.mp mem]

theorem Quiet.bind (h : r.Quiet) (rest : ∀ a, (next a).Quiet) : (r >>= next).Quiet := by
  cases outcome : r.outcome with
  | error f => rwa [bind_of_error outcome]
  | ok a =>
      rw [bind_of_ok outcome]
      exact List.forall_mem_append.mpr ⟨h, rest a⟩

theorem quiet_pure (a : α) : (pure a : Run α).Quiet := quiet_of_silent rfl

theorem quiet_fail (f : Fault) : (fail f : Run α).Quiet := quiet_of_silent rfl

theorem quiet_ofExcept (o : Except Fault α) : (ofExcept o).Quiet := quiet_of_silent rfl

theorem quiet_ofChecked (c : Checked α) : (ofChecked c).Quiet := by
  cases c with
  | ok a => exact quiet_pure a
  | error r => exact quiet_fail _

theorem Quiet.attempt (h : r.Quiet) : r.attempt.Quiet := h

theorem quiet_gather {runs : List (Run α)} (h : ∀ r ∈ runs, r.Quiet) : (gather runs).Quiet := by
  intro e mem
  obtain ⟨r, here, mem⟩ := List.mem_flatMap.mp mem
  exact h r here e mem

end Run

open Run

/-! ## The host -/

theorem Host.quiet_run (machine : Machine) (allowance : Allowance) (argv : List String) :
    (Host.run machine allowance argv).Quiet := by
  have late : (Host.run.outOfTime allowance argv).Quiet :=
    ((quiet_cause rfl).bind fun _ => quiet_cause rfl).bind fun _ => quiet_fail _
  refine (quiet_cause rfl).bind fun _ => ?_
  split
  · exact quiet_fail _
  · exact quiet_fail _
  · exact late
  · split
    · exact late
    · split
      · exact quiet_fail _
      · exact quiet_pure _

theorem Service.quiet_list (machine : Host.Machine) (allowance : Host.Allowance) :
    (Service.list machine allowance).Quiet := by
  refine (Host.quiet_run _ _ _).bind fun table => ?_
  dsimp only
  split
  · exact quiet_pure _
  · refine (Host.quiet_run _ _ _).attempt.bind fun shown => ?_
    cases shown with
    | ok text => exact quiet_ofExcept _
    | error f =>
        cases f with
        | reported report => exact (quiet_cause rfl).bind fun _ => quiet_pure _
        | breakdown text => exact quiet_fail _

theorem Journal.quiet_read (machine : Host.Machine) (allowance : Host.Allowance) (most : Int)
    (w : Journal.Window) (threshold : Option Int) (unit : Option String) :
    (Journal.read machine allowance most w threshold unit).Quiet :=
  (Host.quiet_run _ _ _).bind fun _ => quiet_ofExcept _

/-! ## Queries -/

namespace Query

structure Sources.Quiet (s : Sources) : Prop where
  units : s.units.Quiet
  logs : ∀ w threshold unit, (s.logs w threshold unit).Quiet

variable {s : Sources} (hs : s.Quiet) (now : Time.Instant)

include hs

theorem quiet_listServices (r : ServicesRequest) : (listServices s now r).Quiet := by
  have asked : s.askUnits.Quiet := (quiet_cause rfl).bind fun _ => hs.units
  exact (quiet_ofChecked _).bind fun _ => asked.bind fun _ => quiet_pure _

theorem quiet_listLogs (r : LogsRequest) : (listLogs s now r).Quiet := by
  have noted : ∀ rows, (noteScanLimit s.scanLimit rows).Quiet := by
    intro rows
    unfold noteScanLimit
    split
    · split
      · exact quiet_cause rfl
      · exact quiet_pure _
    · exact quiet_pure _
  have asked : ∀ w threshold unit, (s.askLogs w threshold unit).Quiet :=
    fun w threshold unit => (quiet_cause rfl).bind fun _ => hs.logs w threshold unit
  exact (quiet_ofExcept _).bind fun _ => (asked _ _ _).bind fun _ =>
    (noted _).bind fun _ => quiet_pure _

theorem quiet_recentLogs : (recentLogs s now).Quiet := by
  rw [recentLogs]
  split
  · exact quiet_listLogs hs now _
  · exact quiet_fail _

end Query

/-! ## Tools and resources -/

namespace Tool

structure Catalog.Quiet (c : Catalog) : Prop where
  tools : ∀ t ∈ c.tools, ∀ given, (t.handler given).Quiet
  resources : ∀ r ∈ c.resources, r.reader.Quiet

variable {c : Catalog} (hc : c.Quiet)

include hc

theorem quiet_callTool (name : Text.WireText) (arguments : Json.Fields) :
    (c.callTool name arguments).Quiet := by
  have executed : (c.execute name arguments).Quiet := by
    rw [Catalog.execute]
    split
    · exact quiet_fail _
    · next t found =>
        exact (quiet_ofChecked _).bind (hc.tools t (List.mem_of_find?_eq_some found))
  exact executed.bind fun _ => (quiet_ofExcept _).bind fun _ => quiet_pure _

theorem quiet_readResource (uri : Text.WireText) : (c.readResource uri).Quiet := by
  rw [Catalog.readResource]
  split
  · exact quiet_fail _
  · next r found =>
      exact (hc.resources r (List.mem_of_find?_eq_some found)).bind fun _ =>
        (quiet_ofExcept _).bind fun _ => quiet_pure _

end Tool

/-! ## Messages -/

namespace Rpc

def Methods.Quiet (ms : Methods) : Prop := ∀ m ∈ ms, ∀ params, (m.2 params).Quiet

variable {ms : Methods} (hm : ms.Quiet)

include hm

theorem quiet_call (r : Request) : (ms.call r).Quiet := by
  rw [Methods.call]
  split
  · exact quiet_fail _
  · exact quiet_fail _
  · next method fields found _ => exact hm _ (Gateway.mem_of_lookup found) fields
  · next method found _ => exact hm _ (Gateway.mem_of_lookup found) []

theorem quiet_settle (errorId : String) (r : Request) : (ms.settle errorId r).Quiet := by
  have told : ∀ f, (errorFor r errorId f).Quiet := by
    intro f
    rw [errorFor]
    split
    · exact quiet_pure _
    · exact (quiet_cause rfl).bind fun _ => quiet_pure _
  refine (quiet_call hm r).attempt.bind fun outcome => ?_
  cases outcome with
  | ok value => exact quiet_pure _
  | error f => exact (told f).bind fun _ => quiet_pure _

theorem quiet_replyWithin (reach : Nat) (errorId : String) (m : Member) :
    (ms.replyWithin reach errorId m).Quiet := by
  cases m with
  | refused id => exact quiet_pure _
  | request r =>
      have recorded : ∀ reply, (record reach r reply).Quiet := by
        intro reply
        rw [record]
        split
        · exact quiet_cause rfl
        · exact quiet_fail _
      exact (quiet_settle hm errorId r).bind fun _ => (recorded _).bind fun _ => quiet_pure _

theorem quiet_dispatchWithin (reach : Nat) (errorIds : ErrorIds) (body : List UInt8) :
    (ms.dispatchWithin reach errorIds body).Quiet := by
  refine (quiet_gather fun run mem => ?_).bind fun _ => quiet_pure _
  obtain ⟨m, _, rfl⟩ := List.mem_map.mp mem
  exact quiet_replyWithin hm reach _ _

end Rpc

/-! ## Responses -/

namespace Gateway

open Access Audit Query Rpc Settings Tool

theorem quiet_catalog {sources : Sources} (hs : sources.Quiet) (now : Time.Instant) :
    (catalog sources now).Quiet where
  tools := by
    simp only [catalog, List.forall_mem_cons, List.not_mem_nil, false_implies, implies_true,
      and_true]
    exact ⟨fun _ => (quiet_listServices hs now _).bind fun _ => quiet_pure _,
      fun _ => (quiet_listLogs hs now _).bind fun _ => quiet_pure _⟩
  resources := by
    simp only [catalog, List.forall_mem_cons, List.not_mem_nil, false_implies, implies_true,
      and_true]
    exact ⟨(quiet_listServices hs now _).bind fun _ => quiet_pure _,
      (quiet_listServices hs now _).bind fun _ => quiet_pure _,
      (quiet_recentLogs hs now).bind fun _ => quiet_pure _⟩

theorem quiet_methods {c : Catalog} (hc : c.Quiet) : (methods c).Quiet := by
  have greeted : ∀ params, (greet params).Quiet := by
    intro params
    rw [greet]
    split
    · exact quiet_fail _
    · exact quiet_pure _
  have called : ∀ params, (callTool c params).Quiet := by
    intro params
    rw [callTool]
    split
    · exact quiet_fail _
    · split
      · exact quiet_callTool hc _ _
      · exact quiet_callTool hc _ _
      · exact quiet_callTool hc _ _
      · exact quiet_fail _
  have shown : ∀ params, (readResource c params).Quiet := by
    intro params
    rw [readResource]
    split
    · exact quiet_fail _
    · exact quiet_readResource hc _
  have plain : ∀ params, (acknowledge params).Quiet := fun _ => quiet_pure _
  simp only [Methods.Quiet, methods, List.forall_mem_cons, List.not_mem_nil, false_implies,
    implies_true, and_true]
  exact ⟨greeted, plain, plain, plain, fun _ => quiet_pure _, called, fun _ => quiet_pure _, shown⟩

/-- The gateway's own methods, with the sources that run commands on the host. -/
theorem quiet_methodsFor (s : Settings) (around : Surroundings) : (methodsFor s around).Quiet :=
  quiet_methods (quiet_catalog
    ⟨Service.quiet_list _ _, fun _ _ _ => Journal.quiet_read _ _ _ _ _ _⟩ around.now)

/-- The lines about how a request was answered.  A failure leaves no summary. -/
inductive Closes (around : Surroundings) (r : HttpRequest) (response : HttpResponse) :
    List Event → Prop where
  | summary : response.status ≠ 401 → response.status ≠ 500 →
      Closes around r response [.noted (.answered r.method r.path response.status around.duration)]
  | unauthorized : response.status = 401 →
      Closes around r response [.noted (.unauthorized r.method r.path),
        .noted (.answered r.method r.path response.status around.duration)]
  | failure : response.status = 500 → Closes around r response [.noted (.unanswered r.path)]

section

variable {ms : Methods} {reach : Nat} {s : Settings} {around : Surroundings} {r : HttpRequest}

theorem failed_responseOf_iff (outcome : Except Fault Answer) :
    (responseOf outcome).failed = true ↔ (responseOf outcome).status = 500 := by
  cases outcome with
  | error f => exact iff_of_true rfl rfl
  | ok answer =>
      rw [responseOf]
      cases answer.document? with
      | none => exact iff_of_false Bool.false_ne_true (by decide)
      | some document =>
          dsimp only
          rw [written]
          split
          · exact iff_of_false Bool.false_ne_true (show (200 : Nat) ≠ 500 by decide)
          · exact iff_of_true rfl rfl

/-- What becomes of a message cannot be told when it is no answer, or one that cannot be
written. -/
theorem status_responseOf_iff (outcome : Except Fault Answer) :
    (responseOf outcome).status = 500 ↔ ∀ answer, outcome = .ok answer →
      ∃ document, answer.document? = some document ∧ document.isRenderable = false := by
  cases outcome with
  | error f => exact iff_of_true rfl (by rintro _ ⟨⟩)
  | ok answer =>
      rw [responseOf]
      cases found : answer.document? with
      | none =>
          refine iff_of_false (show (202 : Nat) ≠ 500 by decide) fun broken => ?_
          obtain ⟨document, e, _⟩ := broken answer rfl
          rw [found] at e
          cases e
      | some document =>
          dsimp only
          rw [written]
          split
          · next renderable =>
              refine iff_of_false (show (200 : Nat) ≠ 500 by decide) fun broken => ?_
              obtain ⟨_, e, unrenderable⟩ := broken answer rfl
              cases found.symm.trans e
              exact Bool.false_ne_true (unrenderable.symm.trans renderable)
          · next unrenderable =>
              refine iff_of_true rfl ?_
              rintro _ ⟨⟩
              exact ⟨document, found, Bool.eq_false_iff.mpr unrenderable⟩

/-- The request is a message that is let in, and it has no answer that can be written. -/
structure Breaks (ms : Methods) (reach : Nat) (s : Settings) (around : Surroundings)
    (r : HttpRequest) : Prop where
  post : r.method = "POST"
  path : r.path = endpoint
  admitted : ∃ client, decide s r.peer r.headers = .ok client
  unanswered : ∀ answer, (ms.dispatchWithin reach around.errorIds r.body).outcome = .ok answer →
    ∃ document, answer.document? = some document ∧ document.isRenderable = false

/-- Every request is routed to a response, quietly.  The response is a failure if and only
if its status says so, and that is if the request breaks. -/
theorem exists_routedWithin (hm : ms.Quiet) (reach : Nat) (s : Settings) (around : Surroundings)
    (r : HttpRequest) : (routeWithin ms reach s around r).Quiet ∧
      ∃ response, (routeWithin ms reach s around r).outcome = .ok response ∧
        (response.failed = true ↔ response.status = 500) ∧
        (response.status = 500 ↔ Breaks ms reach s around r) := by
  by_cases posted : r.method = "POST" ∧ r.path = endpoint
  · rw [routeWithin_of_posted posted.1 posted.2]
    cases decided : decide s r.peer r.headers with
    | ok client =>
        rw [messageWithin_of_ok decided]
        refine ⟨quiet_dispatchWithin hm reach _ _, _, rfl, failed_responseOf_iff _, ?_⟩
        rw [status_responseOf_iff]
        exact ⟨fun broken => ⟨posted.1, posted.2, ⟨client, decided⟩, broken⟩, Breaks.unanswered⟩
    | error d =>
        have refused : ¬ Breaks ms reach s around r := fun breaks => by
          obtain ⟨client, admitted⟩ := breaks.admitted
          rw [decided] at admitted
          cases admitted
        rw [messageWithin_of_error decided]
        refine ⟨quiet_cause rfl, _, rfl, ?_⟩
        rcases status_of_denial d with status | status <;>
          simp [HttpResponse.of, status, refused]
  · obtain ⟨response, well, status, routed⟩ := routeWithin_of_elsewhere posted
    rw [routed]
    exact ⟨quiet_pure response, response, rfl, by simp [well, status],
      iff_of_false status fun breaks => posted ⟨breaks.post, breaks.path⟩⟩

/-- A request has a response, and its log ends with the lines about the response. -/
theorem respondWithin_closes (hm : ms.Quiet) (reach : Nat) (s : Settings)
    (around : Surroundings) (r : HttpRequest) :
    ∃ response, (respondWithin ms reach s around r).outcome = .ok response ∧
      (response.status = 500 ↔ Breaks ms reach s around r) ∧ Closes around r response
        ((respondWithin ms reach s around r).events.filter Event.isClosing) := by
  obtain ⟨quiet, response, routed, failed, breaks⟩ := exists_routedWithin hm reach s around r
  have answered : respondWithin ms reach s around r =
      ⟨(routeWithin ms reach s around r).events ++ (noteResponse around r response).events,
        .ok response⟩ := by
    rw [respondWithin, Run.bind_of_ok routed,
      Run.bind_of_ok (outcome_noteResponse around r response)]
    simp
  have silent : (routeWithin ms reach s around r).events.filter Event.isClosing = [] :=
    List.filter_eq_nil_iff.mpr fun e mem => by simp [quiet e mem]
  refine ⟨response, by rw [answered], breaks, ?_⟩
  rw [answered]
  dsimp only
  rw [List.filter_append, silent, List.nil_append, events_noteResponse]
  by_cases failure : response.status = 500
  · rw [if_pos (failed.mpr failure)]
    exact .failure failure
  · rw [if_neg (mt failed.mp failure)]
    by_cases unauthorized : response.status = 401
    · rw [if_pos unauthorized]
      exact .unauthorized unauthorized
    · rw [if_neg unauthorized]
      exact .summary unauthorized failure

/-- Redaction that reaches as deep as messages are read is not missed, however deep it
reaches. -/
theorem respondWithin_of_reach {reach' : Nat} (deep : messageLimits.depth ≤ reach + 1)
    (deep' : messageLimits.depth ≤ reach' + 1) :
    respondWithin ms reach s around r = respondWithin ms reach' s around r := by
  have dispatched : ms.dispatchWithin reach around.errorIds r.body =
      ms.dispatchWithin reach' around.errorIds r.body :=
    dispatchWithin_congr (not_overreaches_of_reach deep) (not_overreaches_of_reach deep')
  have message : messageWithin ms reach s around r = messageWithin ms reach' s around r := by
    rw [messageWithin, dispatched]
    rfl
  have routed : routeWithin ms reach s around r = routeWithin ms reach' s around r := by
    rw [routeWithin, message]
    rfl
  rw [respondWithin, routed]
  rfl

/-- Each request gets one response and the lines about it: one summary, with the status
that is sent, and one warning if that is 401.  Only a request with the status 500 gets no
summary, and the status is 500 for the requests that break and for no others. -/
theorem serve_closes (app : Application) (hm : ∀ around, (app around).Quiet) (reach : Nat)
    (s : Settings) (visits : List Visit) :
    (∀ reach', messageLimits.depth ≤ reach + 1 → messageLimits.depth ≤ reach' + 1 →
        serve app reach s visits = serve app reach' s visits) ∧
      (serve app reach s visits).events = visits.flatMap (fun v =>
        (respondWithin (app v.around) reach s v.around v.request).events) ∧
      ∃ responses, (serve app reach s visits).outcome = .ok responses ∧
        List.Forall₂ (fun v response =>
          (respondWithin (app v.around) reach s v.around v.request).outcome = .ok response ∧
            (response.status = 500 ↔ Breaks (app v.around) reach s v.around v.request) ∧
            Closes v.around v.request response
              ((respondWithin (app v.around) reach s v.around v.request).events.filter
                Event.isClosing)) visits responses := by
  induction visits with
  | nil => exact ⟨fun _ _ _ => rfl, rfl, [], rfl, .nil⟩
  | cons v visits ih =>
      obtain ⟨same, _, responses, served, each⟩ := ih
      obtain ⟨response, answered, breaks, closes⟩ :=
        respondWithin_closes (hm v.around) reach s v.around v.request
      refine ⟨fun reach' deep deep' => ?_, events_serve app reach s _, _,
        outcome_serve_cons answered served, .cons ⟨answered, breaks, closes⟩ each⟩
      rw [serve, serve, same reach' deep deep', respondWithin_of_reach deep deep']

/-- A message without a token, a message with an infinite id, and a question for the
health of the gateway. -/
def threeVisits : List Visit :=
  [⟨bareHost, mistaken []⟩, ⟨bareHost, posted infiniteId⟩,
   ⟨bareHost, ⟨"GET", "/health", none, [], []⟩⟩]

/-- The first request is refused, the second fails as a whole, and the third is answered;
the first and the third get a summary. -/
theorem serve_closes_three_visits :
    (∀ around, (methodsFor openSettings around).Quiet) ∧
      ∃ responses, responses.map HttpResponse.status = [401, 500, 200] ∧
        List.Forall₂ (fun v response => Closes v.around v.request response
          ((respondWithin (methodsFor openSettings v.around) auditReach openSettings v.around
            v.request).events.filter Event.isClosing)) threeVisits responses := by
  obtain ⟨_, _, responses, served, each⟩ := serve_closes (methodsFor openSettings)
    (quiet_methodsFor openSettings) auditReach openSettings threeVisits
  have statuses : (serve (methodsFor openSettings) auditReach openSettings
      threeVisits).outcome.toOption.map (List.map HttpResponse.status) = some [401, 500, 200] := by
    decide +kernel
  rw [served] at statuses
  exact ⟨quiet_methodsFor openSettings, responses, Option.some.inj statuses,
    each.imp fun _ _ h => h.2.2⟩

/-- The second request is answered, and the log gets no summary of it. -/
theorem infiniteId_unsummarised :
    (respond auditReach openSettings bareHost (posted infiniteId)).outcome.toOption.map
      HttpResponse.status =
        some 500 ∧
      (respond auditReach openSettings bareHost (posted infiniteId)).events =
        [.noted (.audited "ping" "null" false), .noted (.audited "ping" "null" false),
          .noted (.unanswered "/mcp")] := by
  decide +kernel

end

end Gateway

end HostMonitor
