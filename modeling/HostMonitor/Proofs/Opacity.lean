import HostMonitor.Proofs.Serving

/-!
# What clients learn of the host

Two hosts are compared that differ in how commands fail.  A command that fails on
both may fail in any way, with any status and any texts, and one that neither of them
takes may be turned down with any text.

`Agree` relates two outcomes that are the same, or that are both faults which are
kept from clients.  It goes through steps that follow each other, so it holds of
commands, sources, queries, tools, resources and methods.  What a client is told of
two such outcomes is the same but for the id of a failure.
-/

namespace HostMonitor

/-! ## Outcomes -/

/-- The outcomes are the same, or both are faults that are kept from clients. -/
inductive Agree {α : Type} : Except Fault α → Except Fault α → Prop
  | same (o : Except Fault α) : Agree o o
  | hidden {f g : Fault} : f.Hidden → g.Hidden → Agree (.error f) (.error g)

/-- Runs that are alike, and then others that are. -/
theorem Agree.bind {α β : Type} {r r' : Run α} {next next' : α → Run β}
    (h : Agree r.outcome r'.outcome) (rest : ∀ a, Agree (next a).outcome (next' a).outcome) :
    Agree (r >>= next).outcome (r' >>= next').outcome := by
  generalize e : r.outcome = o at h
  generalize e' : r'.outcome = o' at h
  cases h with
  | same =>
      cases o with
      | ok a =>
          rw [Run.outcome_bind_of_ok e, Run.outcome_bind_of_ok e']
          exact rest a
      | error f =>
          rw [Run.outcome_bind_of_error e, Run.outcome_bind_of_error e']
          exact .same _
  | hidden hf hg =>
      rw [Run.outcome_bind_of_error e, Run.outcome_bind_of_error e']
      exact .hidden hf hg

/-! ## Commands -/

namespace Host

/-- The command gives no output to read: it cannot be started, it takes too long, or it
ends with a status other than zero. -/
inductive Execution.Fails (allowance : Allowance) : Execution → Prop
  | unstartable (reason : String) : Fails allowance (.unstartable reason)
  | endless (status : Option Int) : Fails allowance (.endless status)
  | late (output diagnostics : List UInt8) (status : Int) : allowance.isOver = true →
      Fails allowance (.finished output diagnostics status)
  | refused (output diagnostics : List UInt8) {status : Int} : status ≠ 0 →
      Fails allowance (.finished output diagnostics status)

/-- The command comes to the same, or it fails both times, or it is turned down both
times. -/
inductive Execution.Alike (allowance : Allowance) : Execution → Execution → Prop
  | same (execution : Execution) : Alike allowance execution execution
  | failing {execution execution' : Execution} : execution.Fails allowance →
      execution'.Fails allowance → Alike allowance execution execution'
  | rejected (reason reason' : String) : Alike allowance (.rejected reason) (.rejected reason')

/-- The hosts differ in commands that fail on both. -/
def Machine.Alike (allowance : Allowance) (m m' : Machine) : Prop :=
  ∀ argv, (m argv).Alike allowance (m' argv)

section

variable {machine machine' : Machine} {allowance : Allowance} {argv : List String}

/-- A command that fails gives a report about the host. -/
theorem exists_report_of_fails (h : (machine argv).Fails allowance) :
    ∃ message, (run machine allowance argv).outcome = .error (.reported (.ofHost message)) := by
  have late : (run.outOfTime allowance argv).outcome =
      .error (failed argv (" timed out after " ++ allowance.text ++ " seconds")) := rfl
  rw [run, Run.outcome_bind_of_ok (Run.outcome_cause _)]
  generalize machine argv = execution at h
  cases h with
  | unstartable reason => exact ⟨_, rfl⟩
  | endless status => exact ⟨_, late⟩
  | late output diagnostics status expired =>
      dsimp only
      rw [if_pos expired]
      exact ⟨_, late⟩
  | refused output diagnostics other =>
      dsimp only
      split
      · exact ⟨_, late⟩
      · exact ⟨_, rfl⟩

/-- A command on two hosts gives the same, or two reports about the host, or two
breakdowns. -/
inductive Comes : Except Fault String → Except Fault String → Prop
  | same (o : Except Fault String) : Comes o o
  | reported (message message' : String) :
      Comes (.error (.reported (.ofHost message))) (.error (.reported (.ofHost message')))
  | breakdown (text text' : String) :
      Comes (.error (.breakdown text)) (.error (.breakdown text'))

theorem comes_run (h : machine.Alike allowance machine') (argv : List String) :
    Comes (run machine allowance argv).outcome (run machine' allowance argv).outcome := by
  have alike := h argv
  generalize made : machine argv = execution at alike
  generalize made' : machine' argv = execution' at alike
  cases alike with
  | same =>
      rw [run, run, made, made']
      exact .same _
  | failing fails fails' =>
      obtain ⟨message, failed⟩ := exists_report_of_fails (made ▸ fails)
      obtain ⟨message', failed'⟩ := exists_report_of_fails (made' ▸ fails')
      rw [failed, failed']
      exact .reported _ _
  | rejected reason reason' =>
      rw [outcome_run_of_rejected made, outcome_run_of_rejected made']
      exact .breakdown _ _

theorem agree_run (h : machine.Alike allowance machine') (argv : List String) :
    Agree (run machine allowance argv).outcome (run machine' allowance argv).outcome := by
  have comes := comes_run h argv
  generalize (run machine allowance argv).outcome = o at comes
  generalize (run machine' allowance argv).outcome = o' at comes
  cases comes with
  | same => exact .same _
  | reported message message' => exact .hidden rfl rfl
  | breakdown text text' => exact .hidden rfl rfl

end

end Host

/-! ## Sources -/

/-- A failure to ask for details does not count, so how it comes about does not. -/
theorem Service.agree_list {machine machine' : Host.Machine} {allowance : Host.Allowance}
    (h : machine.Alike allowance machine') :
    Agree (Service.list machine allowance).outcome (Service.list machine' allowance).outcome := by
  refine (Host.agree_run h _).bind fun table => ?_
  dsimp only
  split
  · exact .same _
  · have details := Host.comes_run h (detailsCommand (ofTable table))
    rw [Run.outcome_bind_of_ok (Run.outcome_attempt _),
      Run.outcome_bind_of_ok (Run.outcome_attempt _)]
    generalize (Host.run machine allowance (detailsCommand (ofTable table))).outcome = o at details
    generalize (Host.run machine' allowance (detailsCommand (ofTable table))).outcome = o' at details
    cases details with
    | same => exact .same _
    | reported message message' => exact .same _
    | breakdown text text' => exact .hidden rfl rfl

theorem Journal.agree_read {machine machine' : Host.Machine} {allowance : Host.Allowance}
    (h : machine.Alike allowance machine') (most : Int) (w : Journal.Window)
    (threshold : Option Int) (unit : Option String) :
    Agree (Journal.read machine allowance most w threshold unit).outcome
      (Journal.read machine' allowance most w threshold unit).outcome :=
  (Host.agree_run h _).bind fun _ => .same _

/-! ## Queries -/

namespace Query

/-- The sources differ in how they fail. -/
structure Sources.Alike (s s' : Sources) : Prop where
  units : Agree s.units.outcome s'.units.outcome
  logs : ∀ w threshold unit,
    Agree (s.logs w threshold unit).outcome (s'.logs w threshold unit).outcome
  scanLimit : s.scanLimit = s'.scanLimit
  charNames : s.charNames = s'.charNames

section

variable {s s' : Sources} (h : s.Alike s') (now : Time.Instant)

include h

theorem agree_listServices (r : ServicesRequest) :
    Agree (listServices s now r).outcome (listServices s' now r).outcome := by
  have asked : Agree s.askUnits.outcome s'.askUnits.outcome :=
    Agree.bind (.same _) fun _ => h.units
  exact Agree.bind (.same _) fun _ => asked.bind fun _ => .same _

theorem agree_listLogs (r : LogsRequest) :
    Agree (listLogs s now r).outcome (listLogs s' now r).outcome := by
  have asked : ∀ w threshold unit,
      Agree (s.askLogs w threshold unit).outcome (s'.askLogs w threshold unit).outcome :=
    fun w threshold unit => Agree.bind (.same _) fun _ => h.logs w threshold unit
  rw [listLogs, listLogs, h.scanLimit, h.charNames]
  exact Agree.bind (.same _) fun q => (asked _ _ _).bind fun rows => .same _

theorem agree_recentLogs : Agree (recentLogs s now).outcome (recentLogs s' now).outcome := by
  rw [recentLogs, recentLogs]
  split
  · exact agree_listLogs h now _
  · exact .same _

end

end Query

/-! ## Tools and resources -/

/-- What is found in one of two related lists is related to what is found in the
other. -/
theorem rel_find? {α : Type} {R : α → α → Prop} {p : α → Bool}
    (same : ∀ a b, R a b → p a = p b) {as bs : List α} (h : List.Forall₂ R as bs) :
    Option.Rel R (as.find? p) (bs.find? p) := by
  induction h with
  | nil => exact .none
  | @cons a b as bs first _ ih =>
      rw [List.find?_cons, List.find?_cons, ← same a b first]
      cases p a with
      | true => exact .some first
      | false => exact ih

theorem map_eq_of_forall₂ {α β : Type} {R : α → α → Prop} {f : α → β}
    (same : ∀ a b, R a b → f a = f b) {as bs : List α} (h : List.Forall₂ R as bs) :
    as.map f = bs.map f := by
  rw [← List.forall₂_eq_eq_eq, List.forall₂_map_left_iff, List.forall₂_map_right_iff]
  exact h.imp same

namespace Tool

/-- The tools differ in how they fail. -/
structure ToolEntry.Alike (t t' : ToolEntry) : Prop where
  others : t' = { t with handler := t'.handler }
  handler : ∀ given, Agree (t.handler given).outcome (t'.handler given).outcome

/-- The resources differ in how they fail. -/
structure ResourceEntry.Alike (r r' : ResourceEntry) : Prop where
  others : r' = { r with reader := r'.reader }
  reader : Agree r.reader.outcome r'.reader.outcome

structure Catalog.Alike (c c' : Catalog) : Prop where
  tools : List.Forall₂ ToolEntry.Alike c.tools c'.tools
  resources : List.Forall₂ ResourceEntry.Alike c.resources c'.resources

section

variable {c c' : Catalog} (h : c.Alike c')

include h

theorem rel_tool? (name : Text.WireText) :
    Option.Rel ToolEntry.Alike (c.tool? name) (c'.tool? name) := by
  refine rel_find? ?_ h.tools
  intro t t' alike
  rw [alike.others]

theorem rel_resource? (uri : Text.WireText) :
    Option.Rel ResourceEntry.Alike (c.resource? uri) (c'.resource? uri) := by
  refine rel_find? ?_ h.resources
  intro r r' alike
  rw [alike.others]

theorem toolDocument_eq : c.toolDocument = c'.toolDocument := by
  refine congrArg Json.arr (map_eq_of_forall₂ ?_ h.tools)
  intro t t' alike
  rw [alike.others]
  rfl

theorem resourceDocument_eq : c.resourceDocument = c'.resourceDocument := by
  refine congrArg Json.arr (map_eq_of_forall₂ ?_ h.resources)
  intro r r' alike
  rw [alike.others]
  rfl

theorem agree_callTool (name : Text.WireText) (arguments : Json.Fields) :
    Agree (c.callTool name arguments).outcome (c'.callTool name arguments).outcome := by
  have found := rel_tool? h name
  have executed : Agree (c.execute name arguments).outcome (c'.execute name arguments).outcome := by
    rw [Catalog.execute, Catalog.execute]
    generalize c.tool? name = o at found
    generalize c'.tool? name = o' at found
    cases found with
    | none => exact .same _
    | some alike =>
        dsimp only
        rw [alike.others]
        exact Agree.bind (.same _) fun given => alike.handler given
  have summary : (c.tool? name).bind ToolEntry.summary =
      (c'.tool? name).bind ToolEntry.summary := by
    generalize c.tool? name = o at found
    generalize c'.tool? name = o' at found
    cases found with
    | none => rfl
    | some alike =>
        rw [alike.others]
        rfl
  rw [Catalog.callTool, Catalog.callTool, summary]
  exact executed.bind fun _ => .same _

theorem agree_readResource (uri : Text.WireText) :
    Agree (c.readResource uri).outcome (c'.readResource uri).outcome := by
  have found := rel_resource? h uri
  rw [Catalog.readResource, Catalog.readResource]
  generalize c.resource? uri = o at found
  generalize c'.resource? uri = o' at found
  cases found with
  | none => exact .same _
  | some alike => exact alike.reader.bind fun _ => .same _

end

end Tool

/-! ## Messages -/

namespace Rpc

/-- The methods differ in how they fail. -/
abbrev Methods.Alike (ms ms' : Methods) : Prop :=
  List.Forall₂ (fun m m' => m.1 = m'.1 ∧
    ∀ params, Agree (m.2 params).outcome (m'.2 params).outcome) ms ms'

/-- The answers are the same but for the ids of failures. -/
inductive Answer.Alike : Answer → Answer → Prop
  | nothing : Alike .nothing .nothing
  | one {r r' : Reply} : r.Alike r' → Alike (.one r) (.one r')
  | many {rs rs' : List Reply} : List.Forall₂ Reply.Alike rs rs' → Alike (.many rs) (.many rs')

section

variable {ms ms' : Methods} (h : ms.Alike ms')

include h

theorem rel_lookup (name : String) :
    Option.Rel (fun m m' => ∀ params, Agree (m params).outcome (m' params).outcome)
      (ms.lookup name) (ms'.lookup name) := by
  induction h with
  | nil => exact .none
  | @cons m m' ms ms' first _ ih =>
      obtain ⟨n, method⟩ := m
      obtain ⟨n', method'⟩ := m'
      obtain ⟨same, alike⟩ := first
      have same : n = n' := same
      rw [List.lookup_cons, List.lookup_cons, ← same]
      cases name == n with
      | true => exact .some alike
      | false => exact ih

theorem agree_call (r : Request) : Agree (ms.call r).outcome (ms'.call r).outcome := by
  have found := rel_lookup h r.method
  rw [Methods.call, Methods.call]
  generalize ms.lookup r.method = o at found
  generalize ms'.lookup r.method = o' at found
  cases found with
  | none => exact .same _
  | some alike =>
      cases r.params with
      | absent => exact alike []
      | named fields => exact alike fields
      | listed items => exact .same _

/-- A client is told the same of methods that differ in how they fail. -/
theorem due_eq (errorId : String) (m : Member) : ms.due errorId m = ms'.due errorId m := by
  cases m with
  | refused id => rfl
  | request r =>
      have same : told errorId (ms.call r).outcome = told errorId (ms'.call r).outcome := by
        have agree := agree_call h r
        generalize (ms.call r).outcome = o at agree
        generalize (ms'.call r).outcome = o' at agree
        cases agree with
        | same => rfl
        | hidden hf hg =>
            have hf : _ = none := hf
            have hg : _ = none := hg
            simp only [told, Except.mapError, toldError, hf, hg]
      rw [Methods.due, Methods.due, same]

theorem dues_eq (errorIds : ErrorIds) :
    ∀ (members : List Member) (place : Nat),
      ms.dues errorIds place members = ms'.dues errorIds place members
  | [], _ => rfl
  | m :: rest, place => by
      rw [Methods.dues, Methods.dues, due_eq h, dues_eq errorIds rest (place + 1)]

end

theorem alike_dues (ms : Methods) (errorIds errorIds' : ErrorIds) :
    ∀ (members : List Member) (place : Nat),
      List.Forall₂ (Option.Rel Reply.Alike) (ms.dues errorIds place members)
        (ms.dues errorIds' place members)
  | [], _ => .nil
  | m :: rest, place =>
      .cons (alike_due ms _ _ m) (alike_dues ms errorIds errorIds' rest (place + 1))

theorem alike_filterMap {os os' : List (Option Reply)}
    (h : List.Forall₂ (Option.Rel Reply.Alike) os os') :
    List.Forall₂ Reply.Alike (os.filterMap id) (os'.filterMap id) := by
  induction h with
  | nil => exact .nil
  | cons first _ ih =>
      cases first with
      | none => exact ih
      | some alike => exact .cons alike ih

/-- Ids of failures are all that an answer has of them. -/
theorem alike_assemble (m : Message) {os os' : List (Option Reply)}
    (h : List.Forall₂ (Option.Rel Reply.Alike) os os') :
    (m.assemble os).Alike (m.assemble os') := by
  have replies := alike_filterMap h
  have refl : ∀ r : Reply, (Answer.one r).Alike (.one r) := fun r => .one ⟨rfl, .inl rfl⟩
  cases m with
  | unreadable => exact refl _
  | unusable => exact refl _
  | emptyBatch => exact refl _
  | single m =>
      rw [Message.assemble, Message.assemble]
      generalize os.filterMap id = rs at replies
      generalize os'.filterMap id = rs' at replies
      cases replies with
      | nil => exact .nothing
      | cons first _ => exact .one first
  | batch members =>
      rw [Message.assemble, Message.assemble]
      generalize os.filterMap id = rs at replies
      generalize os'.filterMap id = rs' at replies
      cases replies with
      | nil => exact .nothing
      | cons first rest => exact .many (.cons first rest)

/-- Methods that differ in how they fail give a message the same answer but for the ids
of failures. -/
theorem exists_alike_answers {ms ms' : Methods} (h : ms.Alike ms') {reach : Nat}
    {body : List UInt8} (near : ¬ Overreaches reach body) (errorIds errorIds' : ErrorIds) :
    ∃ answer answer', (ms.dispatchWithin reach errorIds body).outcome = .ok answer ∧
      (ms'.dispatchWithin reach errorIds' body).outcome = .ok answer' ∧ answer.Alike answer' ∧
      (errorIds = errorIds' → answer = answer') := by
  refine ⟨_, _, outcome_dispatchWithin_of_not_overreaches near ms errorIds, ?_,
    alike_assemble _ (alike_dues ms errorIds errorIds' _ _), ?_⟩
  · rw [outcome_dispatchWithin_of_not_overreaches near, dues_eq h]
  · intro same
    rw [same]

end Rpc

/-! ## Requests -/

namespace Gateway

open Access Host Query Rpc Settings Tool

/-- The responses are the same but for the ids of failures in their replies. -/
inductive HttpResponse.Alike : HttpResponse → HttpResponse → Prop
  | same (response : HttpResponse) : Alike response response
  | one {r r' : Reply} : r.Alike r' → Alike (.of 200 r.document) (.of 200 r'.document)
  | many {rs rs' : List Reply} : List.Forall₂ Reply.Alike rs rs' →
      Alike (.of 200 (.arr (rs.map Reply.document))) (.of 200 (.arr (rs'.map Reply.document)))

/-- The ids of failures can be sent. -/
theorem isRenderable_of_alike {r r' : Reply} (h : r.Alike r') :
    r.document.isRenderable = r'.document.isRenderable := by
  obtain ⟨id, outcome⟩ := r
  obtain ⟨id', outcome'⟩ := r'
  obtain ⟨rfl, same | ⟨e, e', hidden, hidden'⟩⟩ := h
  · cases same
    rfl
  · cases hidden
    cases hidden'
    rw [isRenderable_reply, isRenderable_reply]
    rfl

theorem alike_responseOf {answer answer' : Answer} (h : answer.Alike answer') :
    (responseOf (.ok answer)).Alike (responseOf (.ok answer')) := by
  cases h with
  | nothing => exact .same _
  | one alike =>
      have same := isRenderable_of_alike alike
      simp only [responseOf, Answer.document?, written, ← same]
      split
      · exact .one alike
      · exact .same _
  | @many rs rs' alike =>
      have same : (rs.map Reply.document).all Json.isRenderable =
          (rs'.map Reply.document).all Json.isRenderable := by
        have each := map_eq_of_forall₂ (f := Json.isRenderable ∘ Reply.document)
          (fun _ _ => isRenderable_of_alike) alike
        simpa [List.all_map] using congrArg (List.all · id) each
      simp only [responseOf, Answer.document?, written, Json.isRenderable_arr, ← same]
      split
      · exact .many alike
      · exact .same _

/-! ## Methods of the gateway -/

theorem alike_sources (s : Settings) {machine machine' : Machine}
    (h : machine.Alike (.real s.timeout) machine') (names : Pattern.CharNames) :
    (sources s machine names).Alike (sources s machine' names) where
  units := Service.agree_list h
  logs := Journal.agree_read h _
  scanLimit := rfl
  charNames := rfl

theorem alike_catalog {sources sources' : Sources} (h : sources.Alike sources')
    (now : Time.Instant) : (catalog sources now).Alike (catalog sources' now) where
  tools :=
    .cons ⟨rfl, fun _ => (agree_listServices h now _).bind fun _ => .same _⟩
      (.cons ⟨rfl, fun _ => (agree_listLogs h now _).bind fun _ => .same _⟩ .nil)
  resources :=
    .cons ⟨rfl, (agree_listServices h now _).bind fun _ => .same _⟩
      (.cons ⟨rfl, (agree_listServices h now _).bind fun _ => .same _⟩
        (.cons ⟨rfl, (agree_recentLogs h now).bind fun _ => .same _⟩ .nil))

theorem alike_methods {c c' : Catalog} (h : c.Alike c') : (methods c).Alike (methods c') := by
  have called : ∀ params, Agree (callTool c params).outcome (callTool c' params).outcome := by
    intro params
    rw [callTool, callTool]
    split
    · exact .same _
    · split
      · exact agree_callTool h _ _
      · exact agree_callTool h _ _
      · exact agree_callTool h _ _
      · exact .same _
  have read : ∀ params, Agree (readResource c params).outcome (readResource c' params).outcome := by
    intro params
    rw [readResource, readResource]
    split
    · exact .same _
    · exact agree_readResource h _
  rw [methods, methods, toolDocument_eq h, resourceDocument_eq h]
  exact .cons ⟨rfl, fun _ => .same _⟩ (.cons ⟨rfl, fun _ => .same _⟩
    (.cons ⟨rfl, fun _ => .same _⟩ (.cons ⟨rfl, fun _ => .same _⟩
    (.cons ⟨rfl, fun _ => .same _⟩ (.cons ⟨rfl, called⟩
    (.cons ⟨rfl, fun _ => .same _⟩ (.cons ⟨rfl, read⟩ .nil)))))))

/-! ## Visits -/

/-- The visits are of one request at one time, to hosts that differ in commands that
fail on both.  Ids of failures may differ. -/
structure Visit.Alike (s : Settings) (v v' : Visit) : Prop where
  request : v.request = v'.request
  now : v.around.now = v'.around.now
  charNames : v.around.charNames = v'.around.charNames
  machine : v.around.machine.Alike (.real s.timeout) v'.around.machine

theorem Visit.Alike.methods {s : Settings} {v v' : Visit} (h : v.Alike s v') :
    (methodsFor s v.around).Alike (methodsFor s v'.around) := by
  rw [methodsFor, methodsFor, h.now, h.charNames]
  exact alike_methods (alike_catalog (alike_sources s h.machine _) _)

theorem exists_alike_responses {s : Settings} {v v' : Visit} (h : v.Alike s v') (reach : Nat) :
    ∃ response response', (respond reach s v.around v.request).outcome = .ok response ∧
      (respond reach s v'.around v'.request).outcome = .ok response' ∧
      response.Alike response' ∧
      (v.around.errorIds = v'.around.errorIds → response = response') := by
  rw [← h.request]
  by_cases admitted : Admitted s v.request
  · obtain ⟨⟨post, path⟩, client, decided⟩ := admitted_iff.mp admitted
    refine ⟨_, _, outcome_respond post path decided, outcome_respond post path decided, ?_⟩
    by_cases far : Overreaches reach v.request.body
    · rw [outcome_dispatchWithin_of_overreaches far, outcome_dispatchWithin_of_overreaches far]
      exact ⟨.same _, fun _ => rfl⟩
    · obtain ⟨answer, answer', given, given', alike, same⟩ :=
        exists_alike_answers h.methods far v.around.errorIds v'.around.errorIds
      rw [given, given']
      exact ⟨alike_responseOf alike, fun ids => by rw [same ids]⟩
  · obtain ⟨events, response, _, routed⟩ := routeWithin_of_outside admitted
    refine ⟨response, response, ?_, ?_, .same _, fun _ => rfl⟩
    · rw [respond, respondWithin_of_routed (routed _ _ _)]
    · rw [respond, respondWithin_of_routed (routed _ _ _)]

/-- Requests get the same responses of hosts that differ in commands that fail on
both, but for the ids of failures. -/
theorem exists_alike_serve {s : Settings} (reach : Nat) {visits visits' : List Visit}
    (h : List.Forall₂ (Visit.Alike s) visits visits') :
    ∃ responses responses', (serve (methodsFor s) reach s visits).outcome = .ok responses ∧
      (serve (methodsFor s) reach s visits').outcome = .ok responses' ∧
      List.Forall₂ HttpResponse.Alike responses responses' ∧
      (List.Forall₂ (fun v v' => v.around.errorIds = v'.around.errorIds) visits visits' →
        responses = responses') := by
  induction h with
  | nil => exact ⟨[], [], rfl, rfl, .nil, fun _ => rfl⟩
  | cons first _ ih =>
      obtain ⟨response, response', given, given', alike, same⟩ :=
        exists_alike_responses first reach
      obtain ⟨responses, responses', more, more', alikes, sames⟩ := ih
      refine ⟨response :: responses, response' :: responses', outcome_serve_cons given more,
        outcome_serve_cons given' more', .cons alike alikes, ?_⟩
      intro ids
      cases ids with
      | cons id ids => rw [same id, sames ids]

/-- Clients do not learn how the host fails.  Requests get the same responses of
hosts that differ in commands that fail on both, but for the ids of failures.  And
messages get the same answers of methods that differ in faults which are kept from
clients, in their texts or in their kinds, or no answer of either when they overreach. -/
theorem serve_opaque (s : Settings) (reach : Nat) :
    (∀ visits visits', List.Forall₂ (Visit.Alike s) visits visits' →
      ∃ responses responses', (serve (methodsFor s) reach s visits).outcome = .ok responses ∧
        (serve (methodsFor s) reach s visits').outcome = .ok responses' ∧
        List.Forall₂ HttpResponse.Alike responses responses' ∧
        (List.Forall₂ (fun v v' => v.around.errorIds = v'.around.errorIds) visits visits' →
          responses = responses')) ∧
      ∀ ms ms' : Methods, ms.Alike ms' → ∀ errorIds errorIds' body,
        (Overreaches reach body →
          (ms.dispatchWithin reach errorIds body).outcome = .error .stackExhausted ∧
            (ms'.dispatchWithin reach errorIds' body).outcome = .error .stackExhausted) ∧
        (¬ Overreaches reach body →
          ∃ answer answer', (ms.dispatchWithin reach errorIds body).outcome = .ok answer ∧
            (ms'.dispatchWithin reach errorIds' body).outcome = .ok answer' ∧
            answer.Alike answer' ∧ (errorIds = errorIds' → answer = answer')) :=
  ⟨fun _ _ => exists_alike_serve reach, fun _ _ alike errorIds errorIds' _ =>
    ⟨fun far => ⟨outcome_dispatchWithin_of_overreaches far _ _,
      outcome_dispatchWithin_of_overreaches far _ _⟩,
      fun near => exists_alike_answers alike near errorIds errorIds'⟩⟩

/-! ## Two hosts without units -/

/-- A request for all services. -/
def servicesBody : List UInt8 :=
  Text.Utf8.encode ("\x7b\"jsonrpc\":\"2.0\",\"method\":\"tools/call\",\"id\":1," ++
    "\"params\":\x7b\"name\":\"list_services\"\x7d\x7d").toList

/-- The request on a host where every command comes to the same. -/
def servicesVisit (execution : Execution) (errorId : String) : Visit :=
  ⟨⟨fun _ => execution, ⟨0⟩, fun _ => none, fun _ => errorId, ""⟩, posted servicesBody⟩

/-- A method that fails. -/
def failing (f : Fault) : Methods := [("ping", fun _ => .fail f)]

/-- A command that cannot be started looks like one that ends with a status, and a
report about the host looks like a breakdown with another text. -/
theorem serve_opaque_two_hosts :
    (∃ responses responses',
      (serve (methodsFor openSettings) Audit.auditReach openSettings
        [servicesVisit (.unstartable "no such file") "a"]).outcome = .ok responses ∧
      (serve (methodsFor openSettings) Audit.auditReach openSettings
        [servicesVisit (.finished [0x78] [0x79] 5) "b"]).outcome = .ok responses' ∧
      List.Forall₂ HttpResponse.Alike responses responses') ∧
    ∃ answer,
      ((failing (.reported (.ofHost "no such file"))).dispatchWithin Audit.auditReach
        (fun _ => "a") infiniteId).outcome = .ok answer ∧
      ((failing (.breakdown "list index out of range")).dispatchWithin Audit.auditReach
        (fun _ => "a") infiniteId).outcome = .ok answer := by
  have visits : (servicesVisit (.unstartable "no such file") "a").Alike openSettings
      (servicesVisit (.finished [0x78] [0x79] 5) "b") :=
    ⟨rfl, rfl, rfl, fun _ => .failing (.unstartable _) (.refused _ _ (by decide))⟩
  have methods : (failing (.reported (.ofHost "no such file"))).Alike
      (failing (.breakdown "list index out of range")) :=
    .cons ⟨rfl, fun _ => .hidden rfl rfl⟩ .nil
  have near : ¬ Overreaches Audit.auditReach infiniteId := by
    rw [← all_within_iff]
    decide +kernel
  obtain ⟨requests, messages⟩ := serve_opaque openSettings Audit.auditReach
  obtain ⟨responses, responses', given, given', alike, _⟩ := requests _ _ (.cons visits .nil)
  obtain ⟨answer, answer', told, told', _, same⟩ :=
    (messages _ _ methods (fun _ => "a") (fun _ => "a") infiniteId).2 near
  refine ⟨⟨responses, responses', given, given', alike⟩, answer, told, ?_⟩
  rw [told', same rfl]

end Gateway

end HostMonitor
