import HostMonitor.Proofs.Admission
import HostMonitor.Proofs.Delivery

/-!
# Serving requests

Requests are answered one after another, and each of them may find another host,
another time and other ids of failures.  The methods that answer messages are an
argument, so what is said here holds whatever is registered.

Nothing is done for a request that the gate does not let in.  `serve_gated` says so
of all that can be seen from outside, and it says that what is sent and written to
the log for a request that the gate refuses does not depend on its body.
-/

namespace HostMonitor

/-- The event is more than a line of the log about how a request is answered: it is
a line about something else, a question to a source, or a part of a command. -/
def Event.IsEffect : Event → Prop
  | .noted (.refused ..) | .noted (.unauthorized ..) | .noted (.answered ..)
  | .noted (.unanswered _) => False
  | _ => True

namespace Gateway

open Access Net Rpc Settings

/-! ## Requests one after another -/

/-- The methods that answer messages, by what a request does not choose. -/
abbrev Application := Surroundings → Methods

/-- A request and what it does not choose. -/
structure Visit where
  around : Surroundings
  request : HttpRequest

/-- Requests are answered, one after another. -/
def serve (app : Application) (reach : Nat) (s : Settings) : List Visit → Run (List HttpResponse)
  | [] => return []
  | v :: visits => do
    let response ← respondWithin (app v.around) reach s v.around v.request
    let responses ← serve app reach s visits
    return response :: responses

/-! ## Messages -/

section

variable {ms : Methods} {reach : Nat} {s : Settings} {around : Surroundings} {r : HttpRequest}

theorem authenticate_of_ok {client : Option Address} (h : decide s r.peer r.headers = .ok client)
    (context : String) : authenticate s r.peer r.headers context = .done (.ok client) := by
  rw [authenticate, h]
  rfl

theorem authenticate_of_error {d : Denial} (h : decide s r.peer r.headers = .error d)
    (context : String) : authenticate s r.peer r.headers context =
      ⟨[.noted (.refused d.code context)], .ok (.error d)⟩ := by
  rw [authenticate, h]
  rfl

/-- A message that is let in has the response to what becomes of it. -/
theorem messageWithin_of_ok {client : Option Address}
    (decided : decide s r.peer r.headers = .ok client) :
    messageWithin ms reach s around r = ⟨(ms.dispatchWithin reach around.errorIds r.body).events,
      .ok (responseOf (ms.dispatchWithin reach around.errorIds r.body).outcome)⟩ := by
  rw [messageWithin, authenticate_of_ok decided, Run.bind_of_ok rfl]
  dsimp only
  rw [Run.bind_of_ok (Run.outcome_attempt _)]
  simp

/-- Any other message has the reason why it is not let in. -/
theorem messageWithin_of_error {d : Denial} (decided : decide s r.peer r.headers = .error d) :
    messageWithin ms reach s around r =
      ⟨[.noted (.refused d.code (contextOf r))], .ok (.of d.status d.document)⟩ := by
  rw [messageWithin, authenticate_of_error decided, Run.bind_of_ok rfl]
  rfl

/-! ## Paths -/

theorem routeWithin_of_posted (post : r.method = "POST") (path : r.path = "/mcp") :
    routeWithin ms reach s around r = messageWithin ms reach s around r := by
  rw [routeWithin, path, show routes.lookup "/mcp" = some "POST" from rfl]
  dsimp only
  rw [if_neg (not_not.mpr post)]
  exact if_pos rfl

/-- Whatever is no message has a response that is no failure, and nothing else is done
for it. -/
theorem routeWithin_of_elsewhere (elsewhere : ¬ (r.method = "POST" ∧ r.path = "/mcp")) :
    ∃ response : HttpResponse, response.failed = false ∧ response.status ≠ 500 ∧
      ∀ ms reach s around, routeWithin ms reach s around r = .done response := by
  cases found : routes.lookup r.path with
  | none =>
      refine ⟨if isDetour r.path then .bare 307 else .complaint 404 "Not Found", ?_, ?_, ?_⟩
      · split <;> rfl
      · split <;> decide
      · intro ms reach s around
        rw [routeWithin, found]
  | some method =>
      by_cases same : r.method = method
      · have other : ¬ r.path = endpoint := by
          intro path
          rw [path, show routes.lookup endpoint = some "POST" from rfl] at found
          cases found
          exact elsewhere ⟨same, path⟩
        refine ⟨.of 200 (if r.path = "/health" then health else discovery), rfl,
          show (200 : Nat) ≠ 500 by decide, ?_⟩
        intro ms reach s around
        rw [routeWithin, found]
        exact (if_neg (not_not.mpr same)).trans (if_neg other)
      · refine ⟨.complaint 405 "Method Not Allowed", rfl, by decide, ?_⟩
        intro ms reach s around
        rw [routeWithin, found]
        exact if_pos same

/-! ## Responses -/

theorem events_noteResponse (around : Surroundings) (r : HttpRequest) (response : HttpResponse) :
    (noteResponse around r response).events =
      if response.failed then [.noted (.unanswered r.path)]
      else (if response.status = 401 then [.noted (.unauthorized r.method r.path)] else []) ++
        [.noted (.answered r.method r.path response.status around.duration)] := by
  rw [noteResponse]
  split
  · rfl
  · split
    · rfl
    · rfl

theorem not_isEffect_of_noteResponse {response : HttpResponse} {e : Event}
    (mem : e ∈ (noteResponse around r response).events) : ¬ e.IsEffect := by
  rw [events_noteResponse] at mem
  split at mem
  · rw [List.mem_singleton.mp mem]
    exact id
  · rcases List.mem_append.mp mem with mem | mem
    · split at mem
      · rw [List.mem_singleton.mp mem]
        exact id
      · cases mem
    · rw [List.mem_singleton.mp mem]
      exact id

theorem respondWithin_of_routed {events : List Event} {response : HttpResponse}
    (routed : routeWithin ms reach s around r = ⟨events, .ok response⟩) :
    respondWithin ms reach s around r =
      ⟨events ++ (noteResponse around r response).events, .ok response⟩ := by
  rw [respondWithin, routed, Run.bind_of_ok rfl,
    Run.bind_of_ok (outcome_noteResponse around r response)]
  simp

/-- Every request is answered. -/
theorem exists_routed (ms : Methods) (reach : Nat) (s : Settings) (around : Surroundings)
    (r : HttpRequest) :
    ∃ events response, routeWithin ms reach s around r = ⟨events, .ok response⟩ := by
  by_cases posted : r.method = "POST" ∧ r.path = "/mcp"
  · rw [routeWithin_of_posted posted.1 posted.2]
    cases decided : decide s r.peer r.headers with
    | ok client => exact ⟨_, _, messageWithin_of_ok decided⟩
    | error d => exact ⟨_, _, messageWithin_of_error decided⟩
  · obtain ⟨response, -, -, routed⟩ := routeWithin_of_elsewhere posted
    exact ⟨_, _, routed ms reach s around⟩

theorem exists_response (ms : Methods) (reach : Nat) (s : Settings) (around : Surroundings)
    (r : HttpRequest) : ∃ response, (respondWithin ms reach s around r).outcome = .ok response := by
  obtain ⟨events, response, routed⟩ := exists_routed ms reach s around r
  exact ⟨response, by rw [respondWithin_of_routed routed]⟩

theorem outcome_serve_cons {app : Application} {v : Visit} {visits : List Visit}
    {response : HttpResponse} {responses : List HttpResponse}
    (answered : (respondWithin (app v.around) reach s v.around v.request).outcome = .ok response)
    (more : (serve app reach s visits).outcome = .ok responses) :
    (serve app reach s (v :: visits)).outcome = .ok (response :: responses) := by
  rw [serve, Run.outcome_bind_of_ok answered, Run.outcome_bind_of_ok more, Run.outcome_pure]

/-- What is done for requests is what is done for each of them, one after another. -/
theorem events_serve (app : Application) (reach : Nat) (s : Settings) (visits : List Visit) :
    (serve app reach s visits).events = visits.flatMap fun v =>
      (respondWithin (app v.around) reach s v.around v.request).events := by
  induction visits with
  | nil => rfl
  | cons v visits ih =>
      obtain ⟨response, answered⟩ := exists_response (app v.around) reach s v.around v.request
      rw [serve, Run.bind_of_ok answered, List.flatMap_cons, ← ih]
      cases e : (serve app reach s visits).outcome with
      | ok responses => simp [Run.bind_of_ok e]
      | error f => simp [Run.bind_of_error e]

/-! ## Requests that are let in -/

/-- The request is a message, and the gate lets it in. -/
structure Admitted (s : Settings) (r : HttpRequest) : Prop where
  post : r.method = "POST"
  path : r.path = "/mcp"
  accepted : ∃ client, ∀ context,
    (authenticate s r.peer r.headers context).outcome = .ok (.ok client)

theorem admitted_iff : Admitted s r ↔
    (r.method = "POST" ∧ r.path = "/mcp") ∧ ∃ client, decide s r.peer r.headers = .ok client := by
  constructor
  · intro h
    obtain ⟨client, accepted⟩ := h.accepted
    have decided := accepted ""
    rw [outcome_authenticate, Except.ok.injEq] at decided
    exact ⟨⟨h.post, h.path⟩, client, decided⟩
  · intro h
    obtain ⟨⟨post, path⟩, client, decided⟩ := h
    refine ⟨post, path, client, fun context => ?_⟩
    rw [outcome_authenticate, decided]

/-- A message that is not let in is refused. -/
theorem exists_denial (post : r.method = "POST") (path : r.path = "/mcp")
    (outside : ¬ Admitted s r) : ∃ d, decide s r.peer r.headers = .error d := by
  cases decided : decide s r.peer r.headers with
  | ok client => exact absurd (admitted_iff.mpr ⟨⟨post, path⟩, client, decided⟩) outside
  | error d => exact ⟨d, rfl⟩

theorem status_of_denial (d : Denial) : d.status = 401 ∨ d.status = 403 := by
  cases d <;> simp [Denial.status]

/-- What is written to the log for a message that is refused. -/
def rejection (d : Denial) (duration : String) : List Event :=
  .noted (.refused d.code "method=POST path=/mcp") ::
    ((if d.status = 401 then [.noted (.unauthorized "POST" "/mcp")] else []) ++
      [.noted (.answered "POST" "/mcp" d.status duration)])

theorem respondWithin_of_error (post : r.method = "POST") (path : r.path = "/mcp") {d : Denial}
    (refused : decide s r.peer r.headers = .error d) :
    respondWithin ms reach s around r =
      ⟨rejection d around.duration, .ok (.of d.status d.document)⟩ := by
  have routed : routeWithin ms reach s around r =
      ⟨[.noted (.refused d.code (contextOf r))], .ok (.of d.status d.document)⟩ := by
    rw [routeWithin_of_posted post path, messageWithin_of_error refused]
  rw [respondWithin_of_routed routed, events_noteResponse, rejection, contextOf, post, path]
  rfl

/-- A request that is not let in gets its response without the methods. -/
theorem routeWithin_of_outside (outside : ¬ Admitted s r) :
    ∃ events response, (∀ e ∈ events, ¬ e.IsEffect) ∧
      ∀ ms reach around, routeWithin ms reach s around r = ⟨events, .ok response⟩ := by
  by_cases posted : r.method = "POST" ∧ r.path = "/mcp"
  · obtain ⟨d, refused⟩ := exists_denial posted.1 posted.2 outside
    refine ⟨[.noted (.refused d.code (contextOf r))], .of d.status d.document, ?_, ?_⟩
    · intro e mem
      rw [List.mem_singleton.mp mem]
      exact id
    · intro ms reach around
      rw [routeWithin_of_posted posted.1 posted.2, messageWithin_of_error refused]
  · obtain ⟨response, -, -, routed⟩ := routeWithin_of_elsewhere posted
    exact ⟨[], response, by simp, fun ms reach around => routed ms reach s around⟩

theorem respondWithin_of_outside (outside : ¬ Admitted s r) (around : Surroundings) :
    ∃ events response, (∀ e ∈ events, ¬ e.IsEffect) ∧
      ∀ ms reach, respondWithin ms reach s around r = ⟨events, .ok response⟩ := by
  obtain ⟨events, response, plain, routed⟩ := routeWithin_of_outside outside
  refine ⟨_, response, ?_, fun ms reach => respondWithin_of_routed (routed ms reach around)⟩
  intro e mem
  rcases List.mem_append.mp mem with mem | mem
  · exact plain e mem
  · exact not_isEffect_of_noteResponse mem

/-- Only for a message that the gate lets in is anything done but to answer it, and
only then do the methods have a part in it.  A message that is refused has its
response and its lines in the log by its peer and headers alone, whatever its body
is. -/
theorem serve_gated (app : Application) (reach : Nat) (s : Settings) :
    (∀ visits, (serve app reach s visits).events = visits.flatMap fun v =>
        (respondWithin (app v.around) reach s v.around v.request).events) ∧
      (∀ visits, ∀ e ∈ (serve app reach s visits).events, e.IsEffect →
        ∃ v ∈ visits, Admitted s v.request ∧
          e ∈ (respondWithin (app v.around) reach s v.around v.request).events) ∧
      (∀ r, ¬ Admitted s r → ∀ around,
        (∀ e ∈ (respondWithin (app around) reach s around r).events, ¬ e.IsEffect) ∧
          ∀ ms' reach', respondWithin ms' reach' s around r =
            respondWithin (app around) reach s around r) ∧
      ∀ r, r.method = "POST" → r.path = "/mcp" → ¬ Admitted s r →
        ∃ d : Denial, (d.status = 401 ∨ d.status = 403) ∧
          ∀ ms' reach' around r', r'.method = "POST" → r'.path = "/mcp" →
            r'.peer = r.peer → r'.headers = r.headers →
            respondWithin ms' reach' s around r' =
              ⟨rejection d around.duration, .ok (.of d.status d.document)⟩ := by
  have plain : ∀ r, ¬ Admitted s r → ∀ around,
      ∀ e ∈ (respondWithin (app around) reach s around r).events, ¬ e.IsEffect := by
    intro r outside around e mem
    obtain ⟨events, response, plain, answered⟩ := respondWithin_of_outside outside around
    rw [answered (app around) reach] at mem
    exact plain e mem
  refine ⟨events_serve app reach s, ?_, ?_, ?_⟩
  · intro visits e mem effect
    rw [events_serve] at mem
    obtain ⟨v, visited, mem⟩ := List.mem_flatMap.mp mem
    refine ⟨v, visited, ?_, mem⟩
    by_contra outside
    exact plain v.request outside v.around e mem effect
  · intro r outside around
    refine ⟨plain r outside around, fun ms' reach' => ?_⟩
    obtain ⟨events, response, _, answered⟩ := respondWithin_of_outside outside around
    rw [answered, answered]
  · intro r post path outside
    obtain ⟨d, refused⟩ := exists_denial post path outside
    refine ⟨d, status_of_denial d, ?_⟩
    intro ms' reach' around r' post' path' peer headers
    exact respondWithin_of_error post' path' (by rw [peer, headers, refused])

end

/-! ## A message with another token -/

/-- A message with a token that is not the expected one. -/
def mistaken (body : List UInt8) : HttpRequest :=
  ⟨"POST", "/mcp", none, [("authorization", "Bearer mistaken")], body⟩

/-- The same body in a message with another token and in one that is let in. -/
def twoVisits : List Visit := [⟨bareHost, mistaken infiniteId⟩, ⟨bareHost, posted infiniteId⟩]

/-- The second message is what leaves a record, and the first is refused as one
without a body is. -/
theorem serve_gated_mistaken :
    .noted (.audited "ping" "null" false) ∈
        (serve (methodsFor openSettings) Audit.auditReach openSettings twoVisits).events ∧
      (∃ v ∈ twoVisits, Admitted openSettings v.request) ∧
      ¬ Admitted openSettings (mistaken []) ∧
      ∃ d : Denial, (d.status = 401 ∨ d.status = 403) ∧
        respond Audit.auditReach openSettings bareHost (mistaken infiniteId) =
          ⟨rejection d "", .ok (.of d.status d.document)⟩ := by
  have recorded : .noted (.audited "ping" "null" false) ∈
      (serve (methodsFor openSettings) Audit.auditReach openSettings twoVisits).events := by
    decide +kernel
  have refused : decide openSettings none (mistaken []).headers = .error .otherToken := by
    decide +kernel
  have outside : ¬ Admitted openSettings (mistaken []) := by
    rw [admitted_iff]
    intro h
    obtain ⟨_, client, decided⟩ := h
    cases decided.symm.trans refused
  obtain ⟨_, effects, _, rejections⟩ :=
    serve_gated (methodsFor openSettings) Audit.auditReach openSettings
  obtain ⟨v, visited, admitted, _⟩ := effects _ _ recorded trivial
  obtain ⟨d, status, same⟩ := rejections (mistaken []) rfl rfl outside
  exact ⟨recorded, ⟨v, visited, admitted⟩, outside, d, status,
    same _ _ bareHost (mistaken infiniteId) rfl rfl rfl rfl⟩

end Gateway

end HostMonitor
