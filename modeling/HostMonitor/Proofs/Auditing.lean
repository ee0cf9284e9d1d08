import HostMonitor.Proofs.Dispatch
import HostMonitor.Rpc.Dispatch

/-!
# One record for every call

Every request in a message is a call, and the log gets one record of each: the
method, the parameters without their secrets, and whether the call failed.  It
failed when there is no such method, when the parameters are a list, and when the
method raised something, and in no other case.  A notification is recorded like
any other call.

The members of a message are handled at the same time, so their records stand in
any order.  `Interleaves` says so of their events, and what is proved here is proved
of every order.

A record needs the stack.  Parameters that nest deeper than redaction reaches have
none, and a message that holds such parameters gets no answer at all.
-/

namespace HostMonitor

/-! ## Runs at the same time -/

section

variable {α β : Type} {parts : List (List α)} {events : List α}

/-- The events of parts that happen at the same time: those of each part in their
order. -/
inductive Interleaves : List (List α) → List α → Prop where
  | done {parts : List (List α)} : (∀ part ∈ parts, part = []) → Interleaves parts []
  | step {before after : List (List α)} {e : α} {rest events : List α} :
      Interleaves (before ++ rest :: after) events →
      Interleaves (before ++ (e :: rest) :: after) (e :: events)

/-- Nothing is lost and nothing is added. -/
theorem Interleaves.perm (h : Interleaves parts events) : events.Perm parts.flatten := by
  induction h with
  | done empty => rw [List.flatten_eq_nil_iff.mpr empty]
  | @step before after e rest events _ ih =>
      calc
        (e :: events).Perm (e :: (before ++ rest :: after).flatten) := ih.cons e
        List.Perm _ (before ++ (e :: rest) :: after).flatten := by
          simpa using List.perm_middle.symm

/-- A part without events may stand in front. -/
theorem Interleaves.behind (h : Interleaves parts events) : Interleaves ([] :: parts) events := by
  induction h with
  | done empty => exact .done (List.forall_mem_cons.mpr ⟨rfl, empty⟩)
  | @step before after e rest events _ ih =>
      exact @Interleaves.step _ ([] :: before) after e rest events ih

/-- The parts may happen one after another. -/
theorem interleaves_flatten (parts : List (List α)) : Interleaves parts parts.flatten := by
  induction parts with
  | nil => exact .done nofun
  | cons part parts ih =>
      induction part with
      | nil => exact ih.behind
      | cons e rest ih' => exact @Interleaves.step _ [] parts e rest _ ih'

/-- What is picked from the events of parts happens at the same time as well. -/
theorem Interleaves.filterMap (h : Interleaves parts events) (pick : α → Option β) :
    Interleaves (parts.map (List.filterMap pick)) (events.filterMap pick) := by
  induction h with
  | done empty =>
      refine .done (List.forall_mem_map.mpr fun part mem => ?_)
      rw [empty part mem, List.filterMap_nil]
  | @step before after e rest events _ ih =>
      rw [List.map_append, List.map_cons] at ih ⊢
      cases found : pick e with
      | none =>
          rw [List.filterMap_cons_none found, List.filterMap_cons_none found]
          exact ih
      | some picked =>
          rw [List.filterMap_cons_some found, List.filterMap_cons_some found]
          exact .step ih

end

/-! ## Records among events -/

/-- The record of a call, if the event is one. -/
def Event.audit? : Event → Option Notice
  | .noted (.audited method params failed) => some (.audited method params failed)
  | _ => none

/-- The records of calls among events. -/
def auditsOf (events : List Event) : List Notice := events.filterMap Event.audit?

@[simp] theorem auditsOf_nil : auditsOf [] = [] := rfl

@[simp] theorem auditsOf_append (events events' : List Event) :
    auditsOf (events ++ events') = auditsOf events ++ auditsOf events' :=
  List.filterMap_append

theorem auditsOf_flatten (parts : List (List Event)) :
    auditsOf parts.flatten = parts.flatMap auditsOf := by
  induction parts with
  | nil => rfl
  | cons part parts ih => simp [ih]

namespace Rpc

open Audit Text

/-! ## Calls -/

/-- The requests among values, in their order. -/
inductive Selects : List Json → List Request → Prop where
  | nil : Selects [] []
  | request {v : Json} {r : Request} {vs : List Json} {rs : List Request} :
      IsRequest v r → Selects vs rs → Selects (v :: vs) (r :: rs)
  | other {v : Json} {vs : List Json} {rs : List Request} :
      (∀ r, ¬ IsRequest v r) → Selects vs rs → Selects (v :: vs) rs

/-- The requests in a message, in their order. -/
inductive Calls (body : List UInt8) : List Request → Prop where
  | unreadable : (∀ doc, ¬ Means body doc) → Calls body []
  | unusable {doc : Json} : Means body doc → (∀ fields, doc ≠ .obj fields) →
      (∀ items, doc ≠ .arr items) → Calls body []
  | single {fields : Json.Fields} {rs : List Request} :
      Means body (.obj fields) → Selects [.obj fields] rs → Calls body rs
  | batch {items : List Json} {rs : List Request} :
      Means body (.arr items) → Selects items rs → Calls body rs

/-- The parameters by name; none for a list. -/
def Params.fields? : Params → Option Json.Fields
  | .absent => some []
  | .named fields => some fields
  | .listed _ => none

/-- The call fails. -/
inductive Fails (ms : Methods) (r : Request) : Prop where
  | unknown : r.method ∉ ms.names → Fails ms r
  | listed : r.params.fields? = none → Fails ms r
  | raised {method : Method} {fields : Json.Fields} {f : Fault} :
      ms.lookup r.method = some method → r.params.fields? = some fields →
      (method fields).outcome = .error f → Fails ms r

/-- The reply has a member of the name. -/
def Reply.has (r : Reply) (name : String) : Prop :=
  ∃ fields : Json.Fields, r.document = .obj fields ∧ (fields.get? name).isSome

/-- The record that the log gets of a call. -/
inductive Recorded (ms : Methods) (r : Request) : Notice → Prop where
  | success : ¬ Fails ms r →
      Recorded ms r (.audited r.method (redact r.params.document).wide false)
  | failure : Fails ms r →
      Recorded ms r (.audited r.method (redact r.params.document).wide true)

/-- Events that handling a message can cause, with its members at work at the same
time. -/
def Happens (ms : Methods) (reach : Nat) (errorIds : ErrorIds) (body : List UInt8)
    (events : List Event) : Prop :=
  Interleaves ((ms.runsWithin reach errorIds (Message.ofBytes body).members).map Run.events) events

section

variable {ms : Methods} {reach : Nat} {errorIds : ErrorIds} {body : List UInt8} {r : Request}

/-! ## Failures -/

theorem lookup_eq_none_iff {name : String} : ms.lookup name = none ↔ name ∉ ms.names := by
  simp [List.lookup_eq_none_iff, Methods.names, Keyed.keys]
  grind

/-- A call fails when what the method is asked for has no value. -/
theorem fails_iff : Fails ms r ↔ ∃ f, (ms.call r).outcome = .error f := by
  constructor
  · intro h
    cases h with
    | unknown absent =>
        rw [Methods.call, lookup_eq_none_iff.mpr absent]
        exact ⟨_, rfl⟩
    | listed unnamed =>
        cases given : r.params with
        | listed items =>
            rw [Methods.call, given]
            cases ms.lookup r.method with
            | none => exact ⟨_, rfl⟩
            | some method => exact ⟨_, rfl⟩
        | absent => simp [given, Params.fields?] at unnamed
        | named fields => simp [given, Params.fields?] at unnamed
    | raised found named failed =>
        rw [Methods.call, found]
        cases given : r.params with
        | listed items => simp [given, Params.fields?] at named
        | absent =>
            simp only [given, Params.fields?, Option.some.injEq] at named
            subst named
            exact ⟨_, failed⟩
        | named fields =>
            simp only [given, Params.fields?, Option.some.injEq] at named
            subst named
            exact ⟨_, failed⟩
  · rintro ⟨f, failed⟩
    rw [Methods.call] at failed
    split at failed
    · next missing => exact .unknown (lookup_eq_none_iff.mp missing)
    · next given => exact .listed (by rw [given, Params.fields?])
    · next method fields found given => exact .raised found (by rw [given, Params.fields?]) failed
    · next method found given => exact .raised found (by rw [given, Params.fields?]) failed

/-- What a client is told of a call is an error exactly when the call fails. -/
theorem isError_told (id : Option RequestId) (errorId : String) :
    (⟨id, told errorId (ms.call r).outcome⟩ : Reply).isError = true ↔ Fails ms r := by
  rw [fails_iff, told]
  cases (ms.call r).outcome with
  | ok value => simp [Except.mapError, Reply.isError]
  | error f => simp [Except.mapError, Reply.isError]

theorem has_error_iff (reply : Reply) : reply.has "error" ↔ reply.isError = true := by
  obtain ⟨id, outcome⟩ := reply
  cases outcome with
  | ok value => simp [Reply.has, Reply.document, Reply.isError, Json.record, Json.Fields.get?]
  | error e => simp [Reply.has, Reply.document, Reply.isError, Json.record, Json.Fields.get?]

theorem has_result_iff (reply : Reply) : reply.has "result" ↔ ¬ reply.isError = true := by
  obtain ⟨id, outcome⟩ := reply
  cases outcome with
  | ok value => simp [Reply.has, Reply.document, Reply.isError, Json.record, Json.Fields.get?]
  | error e => simp [Reply.has, Reply.document, Reply.isError, Json.record, Json.Fields.get?]

/-- The reply to a call has an error if it fails, and a result if it does not. -/
theorem tells_of_due {v : Json} {errorId : String} {reply : Reply} (request : IsRequest v r)
    (due : Due ms errorId v (some reply)) :
    (reply.has "error" ↔ Fails ms r) ∧ (reply.has "result" ↔ ¬ Fails ms r) := by
  cases due with
  | refused none => exact absurd request (none r)
  | answered request' _ =>
      have same :=
        (ofJson_eq_request_iff.mpr request).symm.trans (ofJson_eq_request_iff.mpr request')
      cases same
      rw [has_error_iff, has_result_iff, isError_told]
      exact ⟨Iff.rfl, Iff.rfl⟩

/-! ## One call -/

/-- Settling a call records nothing but what its method does. -/
theorem audits_settle (errorId : String) :
    auditsOf (ms.settle errorId r).events = auditsOf (ms.call r).events := by
  rw [Methods.settle, Run.bind_of_ok (Run.outcome_attempt _)]
  cases (ms.call r).outcome with
  | ok value => simp
  | error f =>
      dsimp only
      rw [Run.bind_of_ok (outcome_errorFor r errorId f), errorFor]
      cases f.public? with
      | some report => simp
      | none =>
          dsimp only
          rw [Run.bind_of_ok (Run.outcome_note _)]
          simp [auditsOf, Event.audit?]

/-- A call within reach is recorded as it went. -/
theorem exists_recorded (within : r.within reach = true) (errorId : String) :
    ∃ note, Recorded ms r note ∧
      auditsOf (record reach r ⟨r.id, told errorId (ms.call r).outcome⟩).events = [note] := by
  rw [record, redactWithin, if_pos (of_decide_eq_true within)]
  by_cases fails : Fails ms r
  · refine ⟨_, .failure fails, ?_⟩
    rw [(isError_told r.id errorId).mpr fails]
    rfl
  · refine ⟨_, .success fails, ?_⟩
    rw [← isError_told r.id errorId, Bool.not_eq_true] at fails
    rw [fails]
    rfl

/-- Any other call is not recorded. -/
theorem audits_record_of_deep (deep : r.within reach = false) (reply : Reply) :
    auditsOf (record reach r reply).events = [] := by
  rw [record, redactWithin, if_neg (of_decide_eq_false deep)]
  rfl

theorem events_replyWithin_request (errorId : String) :
    (ms.replyWithin reach errorId (.request r)).events =
      (ms.settle errorId r).events ++
        (record reach r ⟨r.id, told errorId (ms.call r).outcome⟩).events := by
  rw [Methods.replyWithin, Run.bind_of_ok (outcome_settle ms errorId r)]
  exact congrArg _ (Run.events_bind_pure _ _)

/-- Of two reaches within which a member lies it does not matter which it is. -/
theorem replyWithin_congr {reach' : Nat} {m : Member} (within : m.within reach = true)
    (within' : m.within reach' = true) (errorId : String) :
    ms.replyWithin reach errorId m = ms.replyWithin reach' errorId m := by
  cases m with
  | refused id => rfl
  | request r =>
      have recorded : ∀ reply, record reach r reply = record reach' r reply := by
        intro reply
        rw [record, record, redactWithin, redactWithin, if_pos (of_decide_eq_true within),
          if_pos (of_decide_eq_true within')]
      simp only [Methods.replyWithin, recorded]

/-! ## All calls -/

theorem exists_selects (vs : List Json) : ∃ rs, Selects vs rs := by
  induction vs with
  | nil => exact ⟨[], .nil⟩
  | cons v vs ih =>
      obtain ⟨rs, selects⟩ := ih
      by_cases request : ∃ r, IsRequest v r
      · obtain ⟨r, request⟩ := request
        exact ⟨r :: rs, .request request selects⟩
      · exact ⟨rs, .other (not_exists.mp request) selects⟩

theorem Selects.mem {vs : List Json} {rs : List Request} (h : Selects vs rs)
    (mem : .request r ∈ vs.map Member.ofJson) : r ∈ rs := by
  induction h with
  | nil => cases mem
  | request request _ ih =>
      rw [List.map_cons, List.mem_cons, ofJson_eq_request_iff.mpr request] at mem
      rcases mem with same | mem
      · cases same
        exact List.mem_cons_self
      · exact List.mem_cons_of_mem _ (ih mem)
  | other none _ ih =>
      rw [List.map_cons, List.mem_cons, ofJson_eq_refused none] at mem
      rcases mem with same | mem
      · cases same
      · exact ih mem

/-- Every message holds requests, be it none. -/
theorem exists_calls (body : List UInt8) : ∃ rs, Calls body rs := by
  by_cases meaning : ∃ doc, Means body doc
  · obtain ⟨doc, means⟩ := meaning
    cases doc with
    | obj fields =>
        obtain ⟨rs, selects⟩ := exists_selects [.obj fields]
        exact ⟨rs, .single means selects⟩
    | arr items =>
        obtain ⟨rs, selects⟩ := exists_selects items
        exact ⟨rs, .batch means selects⟩
    | _ => exact ⟨[], .unusable means nofun nofun⟩
  · exact ⟨[], .unreadable (not_exists.mp meaning)⟩

/-- The parameters of a request nest less deep than its value. -/
theorem depth_lt_of_isRequest {v : Json} (h : IsRequest v r) :
    r.params.document.depth < v.depth := by
  obtain ⟨fields, rfl, envelope⟩ := h
  rw [Json.depth, Nat.lt_succ_iff, document_of_givesParams envelope.params]
  cases given : Json.Fields.get? "params" fields with
  | none => exact Nat.zero_le _
  | some params => exact Json.depth_le_of_get? given

/-- No parameters nest as deep as a message may. -/
theorem depth_lt_of_calls {rs : List Request} (h : Calls body rs) (mem : r ∈ rs) :
    r.params.document.depth < messageLimits.depth := by
  have within : ∀ {vs : List Json} {rs : List Request}, Selects vs rs → r ∈ rs →
      ∃ v ∈ vs, r.params.document.depth < v.depth := by
    intro vs rs selects mem
    induction selects with
    | nil => cases mem
    | @request v _ vs _ request _ ih =>
        rcases List.mem_cons.mp mem with rfl | mem
        · exact ⟨v, List.mem_cons_self, depth_lt_of_isRequest request⟩
        · obtain ⟨w, here, lt⟩ := ih mem
          exact ⟨w, List.mem_cons_of_mem _ here, lt⟩
    | other _ _ ih =>
        obtain ⟨w, here, lt⟩ := ih mem
        exact ⟨w, List.mem_cons_of_mem _ here, lt⟩
  have bounded : ∀ {doc : Json}, Means body doc → doc.depth ≤ messageLimits.depth := by
    rintro doc ⟨cs, _, _, _, _, _, _, _, spells⟩
    exact spells.depth_le
  cases h with
  | unreadable _ => cases mem
  | unusable _ _ _ => cases mem
  | single means selects =>
      obtain ⟨v, here, lt⟩ := within selects mem
      rw [List.mem_singleton.mp here] at lt
      exact Nat.lt_of_lt_of_le lt (bounded means)
  | batch means selects =>
      obtain ⟨v, here, lt⟩ := within selects mem
      have item := Json.depthOfItems_le_iff.mp (Nat.le_refl _) v here
      have whole := bounded means
      rw [Json.depth] at whole
      omega

/-- The members that are handled are those among which the calls are. -/
theorem members_of_calls {rs : List Request} (h : Calls body rs) :
    ∃ vs, (Message.ofBytes body).members = vs.map Member.ofJson ∧ Selects vs rs := by
  cases h with
  | unreadable meaningless => exact ⟨[], by rw [ofBytes_of_meaningless meaningless]; rfl, .nil⟩
  | @unusable doc means noObject noList =>
      refine ⟨[], ?_, .nil⟩
      rw [ofBytes_of_means means]
      cases doc with
      | obj fields => exact absurd rfl (noObject fields)
      | arr items => exact absurd rfl (noList items)
      | _ => rfl
  | single means selects => exact ⟨_, by rw [ofBytes_of_means means]; rfl, selects⟩
  | @batch items rs means selects =>
      refine ⟨items, ?_, selects⟩
      rw [ofBytes_of_means means]
      cases items <;> rfl

/-- The members that are handled can be recorded when the calls among them can. -/
theorem all_within_of_calls {rs : List Request} (h : Calls body rs) :
    (Message.ofBytes body).members.all (Member.within reach) = true ↔
      ∀ r ∈ rs, (redact r.params.document).depth ≤ reach := by
  obtain ⟨vs, members, selects⟩ := members_of_calls h
  rw [members]
  clear members h
  induction selects with
  | nil => exact iff_of_true rfl nofun
  | @request v r vs rs request _ ih =>
      rw [List.map_cons, List.all_cons, ofJson_eq_request_iff.mpr request, Bool.and_eq_true, ih,
        List.forall_mem_cons]
      exact Iff.and decide_eq_true_iff Iff.rfl
  | other none _ ih =>
      rw [List.map_cons, List.all_cons, ofJson_eq_refused none, Bool.and_eq_true, ih]
      exact and_iff_right rfl

/-- A message stays in reach when all of its calls do. -/
theorem not_overreaches_iff_of_calls {rs : List Request} (h : Calls body rs) :
    ¬ Overreaches reach body ↔ ∀ r ∈ rs, (redact r.params.document).depth ≤ reach := by
  rw [← all_within_iff, all_within_of_calls h]

theorem overreaches_iff_of_calls {rs : List Request} (h : Calls body rs) :
    Overreaches reach body ↔ ∃ r ∈ rs, reach < (redact r.params.document).depth := by
  rw [← not_iff_not, not_overreaches_iff_of_calls h]
  push Not
  rfl

/-- Of two reaches in which a message stays it does not matter which it is. -/
theorem dispatchWithin_congr {reach' : Nat} (near : ¬ Overreaches reach body)
    (near' : ¬ Overreaches reach' body) :
    ms.dispatchWithin reach errorIds body = ms.dispatchWithin reach' errorIds body := by
  have all := List.all_eq_true.mp (all_within_iff.mpr near)
  have all' := List.all_eq_true.mp (all_within_iff.mpr near')
  have runs : ms.runsWithin reach errorIds (Message.ofBytes body).members =
      ms.runsWithin reach' errorIds (Message.ofBytes body).members :=
    List.map_congr_left fun _ mem =>
      have mem := List.fst_mem_of_mem_zipIdx mem
      replyWithin_congr (all _ mem) (all' _ mem) _
  rw [Methods.dispatchWithin, runs]
  rfl

/-- Redaction that reaches as deep as messages are read loses nothing. -/
theorem not_overreaches_of_reach (deep : messageLimits.depth ≤ reach + 1) :
    ¬ Overreaches reach body := by
  obtain ⟨rs, calls⟩ := exists_calls body
  rw [overreaches_iff_of_calls calls]
  rintro ⟨r, mem, far⟩
  have plain := depth_redact_le r.params.document
  have below := depth_lt_of_calls calls mem
  omega

/-- The members at work, the first of which has the given place. -/
def Methods.runsFrom (ms : Methods) (reach : Nat) (errorIds : ErrorIds) (place : Nat)
    (vs : List Json) : List (Run (Option Reply)) :=
  ((vs.map Member.ofJson).zipIdx place).map fun m => ms.replyWithin reach (errorIds m.2) m.1

theorem runsFrom_cons (place : Nat) (v : Json) (vs : List Json) :
    ms.runsFrom reach errorIds place (v :: vs) =
      ms.replyWithin reach (errorIds place) (.ofJson v) ::
        ms.runsFrom reach errorIds (place + 1) vs := rfl

/-- Every call leaves what its method records, and one record of itself if it is
within reach. -/
theorem exists_records {vs : List Json} {rs : List Request} (h : Selects vs rs) (place : Nat) :
    ∃ notes, List.Forall₂ (Recorded ms) (rs.filter (Request.within reach)) notes ∧
      ((ms.runsFrom reach errorIds place vs).flatMap fun run => auditsOf run.events).Perm
        ((rs.flatMap fun r => auditsOf (ms.call r).events) ++ notes) := by
  induction h generalizing place with
  | nil => exact ⟨[], .nil, .refl _⟩
  | @request v r vs rs request _ ih =>
      obtain ⟨notes, recorded, perm⟩ := ih (place + 1)
      rw [runsFrom_cons, List.flatMap_cons, ofJson_eq_request_iff.mpr request,
        events_replyWithin_request, auditsOf_append, audits_settle, List.flatMap_cons,
        List.append_assoc, List.filter_cons]
      cases within : r.within reach with
      | false =>
          refine ⟨notes, recorded, ?_⟩
          rw [audits_record_of_deep within, List.nil_append, List.append_assoc]
          exact .append_left _ perm
      | true =>
          obtain ⟨note, first, audits⟩ := exists_recorded within (errorIds place)
          refine ⟨note :: notes, .cons first recorded, ?_⟩
          rw [audits, List.append_assoc]
          refine .append_left _ ?_
          calc
            List.Perm ([note] ++ _)
                (note :: ((rs.flatMap fun r => auditsOf (ms.call r).events) ++ notes)) :=
              perm.cons note
            List.Perm _ ((rs.flatMap fun r => auditsOf (ms.call r).events) ++ note :: notes) :=
              List.perm_middle.symm
  | other none _ ih =>
      obtain ⟨notes, recorded, perm⟩ := ih (place + 1)
      refine ⟨notes, recorded, ?_⟩
      rw [runsFrom_cons, List.flatMap_cons, ofJson_eq_refused none]
      exact perm

theorem runsWithin_of_members {vs : List Json}
    (members : (Message.ofBytes body).members = vs.map Member.ofJson) :
    ms.runsWithin reach errorIds (Message.ofBytes body).members =
      ms.runsFrom reach errorIds 0 vs := by
  rw [members]
  rfl

/-- What happens without interleaving can happen. -/
theorem happens_dispatchWithin :
    Happens ms reach errorIds body (ms.dispatchWithin reach errorIds body).events := by
  rw [Happens, Methods.dispatchWithin, Run.events_bind_pure, Run.gather, List.flatMap]
  exact interleaves_flatten _

/-- The records that a message leaves are those of its calls within reach. -/
theorem Happens.audits {rs : List Request} {events : List Event}
    (happens : Happens ms reach errorIds body events) (h : Calls body rs) :
    ∃ notes, List.Forall₂ (Recorded ms) (rs.filter (Request.within reach)) notes ∧
      (auditsOf events).Perm ((rs.flatMap fun r => auditsOf (ms.call r).events) ++ notes) := by
  obtain ⟨vs, members, selects⟩ := members_of_calls h
  obtain ⟨notes, recorded, perm⟩ := @exists_records ms reach errorIds vs rs selects 0
  refine ⟨notes, recorded, ?_⟩
  calc
    (auditsOf events).Perm (auditsOf _) := happens.perm.filterMap _
    List.Perm _ _ := by
      rw [runsWithin_of_members members, auditsOf_flatten, List.flatMap_map]
      exact perm

/-- Every call in a message is recorded once, as it went, in whatever order the
members of the message come to their ends.  All of them are answered, in the same way
whatever the reach is, unless the parameters of one nest deeper than redaction reaches.
Then there is no answer. -/
theorem dispatchWithin_audited (reach : Nat) (ms : Methods) (errorIds : ErrorIds)
    (body : List UInt8) :
    ∃ rs, Calls body rs ∧
      ((∃ answer, (ms.dispatchWithin reach errorIds body).outcome = .ok answer ∧
          Answers Means ms reach errorIds body answer) ↔
        ∀ r ∈ rs, (redact r.params.document).depth ≤ reach) ∧
      (∀ reach', (∀ r ∈ rs, (redact r.params.document).depth ≤ reach) →
        (∀ r ∈ rs, (redact r.params.document).depth ≤ reach') →
          ms.dispatchWithin reach errorIds body = ms.dispatchWithin reach' errorIds body) ∧
      ((ms.dispatchWithin reach errorIds body).outcome = .error .stackExhausted ↔
        ∃ r ∈ rs, reach < (redact r.params.document).depth) ∧
      (∀ r ∈ rs, r.params.document.depth < messageLimits.depth) ∧
      (∀ r ∈ rs, ∀ v errorId reply, IsRequest v r → Due ms errorId v (some reply) →
        (reply.has "error" ↔ Fails ms r) ∧ (reply.has "result" ↔ ¬ Fails ms r)) ∧
      Happens ms reach errorIds body (ms.dispatchWithin reach errorIds body).events ∧
      ∀ events, Happens ms reach errorIds body events →
        ∃ notes, List.Forall₂ (Recorded ms) (rs.filter (Request.within reach)) notes ∧
          (auditsOf events).Perm
            ((rs.flatMap fun r => auditsOf (ms.call r).events) ++ notes) := by
  obtain ⟨rs, calls⟩ := exists_calls body
  have far := @overreaches_iff_of_calls reach body rs calls
  have near := fun reach => @not_overreaches_iff_of_calls reach body rs calls
  refine ⟨rs, calls, (near reach).symm.trans ?_ |>.symm,
    fun reach' all all' => dispatchWithin_congr ((near reach).mpr all) ((near reach').mpr all'),
    far.symm.trans ?_ |>.symm, fun r => depth_lt_of_calls calls,
    fun r _ v errorId reply => tells_of_due, happens_dispatchWithin,
    fun events happens => happens.audits calls⟩
  · refine ⟨fun near => ⟨_, outcome_dispatchWithin_of_not_overreaches near ms errorIds,
      answers_assemble near ms errorIds⟩, ?_⟩
    rintro ⟨answer, ok, _⟩ far
    cases ok.symm.trans (outcome_dispatchWithin_of_overreaches far ms errorIds)
  · refine ⟨fun far => outcome_dispatchWithin_of_overreaches far ms errorIds, fun lost => ?_⟩
    by_contra near
    cases lost.symm.trans (outcome_dispatchWithin_of_not_overreaches near ms errorIds)

end

/-! ## Six hundred levels -/

/-- A call with a list of six hundred levels among its parameters. -/
def deepPing : Request :=
  ⟨"ping", .named [("a", Json.nested 599)], some (.int 1)⟩

theorem means_deepText : Means (Utf8.encode deepText) deepDocument :=
  document?_eq_some_iff.mp (by decide +kernel)

/-- The call is right and its method ends well, but there is neither a reply nor a
record of it. -/
theorem deepCall_unrecorded :
    Calls (Utf8.encode deepText) [deepPing] ∧ ¬ Fails pings deepPing ∧
      (pings.dispatchWithin auditReach (fun _ => "") (Utf8.encode deepText)).outcome =
        .error .stackExhausted ∧
      auditsOf (pings.dispatchWithin auditReach (fun _ => "") (Utf8.encode deepText)).events =
        [] := by
  have request : IsRequest deepDocument deepPing := ⟨_, rfl, rfl, rfl, rfl, .named, rfl⟩
  have calls : Calls (Utf8.encode deepText) [deepPing] :=
    .single means_deepText (.request request .nil)
  have message : Message.ofBytes (Utf8.encode deepText) = .single (.request deepPing) := by
    rw [ofBytes_of_means means_deepText, ← ofJson_eq_request_iff.mpr request]
    rfl
  have deep : auditReach < (redact deepPing.params.document).depth := by decide +kernel
  have far : deepPing.within auditReach = false := decide_eq_false (Nat.not_le.mpr deep)
  refine ⟨calls, ?_, ?_, ?_⟩
  · rw [fails_iff]
    rintro ⟨f, failed⟩
    cases failed
  · exact outcome_dispatchWithin_of_overreaches
      ((overreaches_iff_of_calls calls).mpr ⟨_, List.mem_singleton_self _, deep⟩) _ _
  · rw [Methods.dispatchWithin, Run.events_bind_pure, message]
    simp only [Methods.runsWithin, Message.members, List.zipIdx_cons, List.zipIdx_nil,
      List.map_cons, List.map_nil, Run.gather, List.flatMap_cons, List.flatMap_nil,
      List.append_nil]
    rw [events_replyWithin_request, auditsOf_append, audits_settle, audits_record_of_deep far]
    rfl

end Rpc

end HostMonitor
