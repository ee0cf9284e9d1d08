import HostMonitor.Gateway.Methods
import HostMonitor.Proofs.Auditing

/-!
# Messages that only announce something

Among the methods of the gateway there are two for notifications, and both do nothing.  A
message with any other name for a notification fails as a call of an unknown method does.
Nobody is told, but the record of it in the log says so.

Whatever its name is, a notification without an id only adds its record.  Wherever it stands
in a list of messages, the others are handled and answered as they are without it.
-/

namespace HostMonitor

/-! ## A part of one event -/

/-- Parts that happen at the same time have no order among them. -/
theorem Interleaves.of_perm {parts parts' : List (List Event)} {events : List Event}
    (h : Interleaves parts events) (perm : parts.Perm parts') : Interleaves parts' events := by
  induction h generalizing parts' with
  | done empty => exact .done fun part mem => empty part (perm.mem_iff.mpr mem)
  | @step before after e rest events _ ih =>
      obtain ⟨before', after', rfl⟩ :=
        List.append_of_mem (perm.mem_iff.mp (List.mem_append_right before List.mem_cons_self))
      have others : (before ++ after).Perm (before' ++ after') :=
        (List.perm_middle.symm.trans (perm.trans List.perm_middle)).cons_inv
      refine .step (ih ?_)
      exact List.perm_middle.trans ((others.cons rest).trans List.perm_middle.symm)

/-- The first event is the first one of a part. -/
theorem Interleaves.exists_first {parts : List (List Event)} {e : Event} {events : List Event}
    (h : Interleaves parts (e :: events)) : ∃ before rest after,
      parts = before ++ (e :: rest) :: after ∧ Interleaves (before ++ rest :: after) events := by
  cases h with
  | step rest => exact ⟨_, _, _, rfl, rest⟩

theorem Interleaves.empty {parts : List (List Event)} (h : Interleaves parts []) :
    ∀ part ∈ parts, part = [] := by
  cases h with
  | done empty => exact empty

/-- A part without events changes nothing. -/
theorem Interleaves.of_nil_cons {parts : List (List Event)} {events : List Event}
    (h : Interleaves ([] :: parts) events) : Interleaves parts events := by
  induction events generalizing parts with
  | nil => exact .done (List.forall_mem_cons.mp h.empty).2
  | cons e events ih =>
      obtain ⟨before, rest, after, split, onward⟩ := h.exists_first
      cases before with
      | nil => cases split
      | cons part before =>
          cases split
          exact .step (ih onward)

/-- A part of one event happens at any time. -/
theorem interleaves_cons_iff {e : Event} {parts : List (List Event)} {events : List Event} :
    Interleaves ([e] :: parts) events ↔
      ∃ earlier later, events = earlier ++ e :: later ∧ Interleaves parts (earlier ++ later) := by
  constructor
  · intro h
    induction events generalizing parts with
    | nil => cases (List.forall_mem_cons.mp h.empty).1
    | cons first events ih =>
        obtain ⟨before, rest, after, split, onward⟩ := h.exists_first
        cases before with
        | nil =>
            cases split
            exact ⟨[], events, rfl, onward.of_nil_cons⟩
        | cons part before =>
            cases split
            obtain ⟨earlier, later, rfl, others⟩ := ih onward
            exact ⟨first :: earlier, later, rfl, .step others⟩
  · rintro ⟨earlier, later, rfl, h⟩
    induction earlier generalizing parts with
    | nil => exact @Interleaves.step _ [] parts e [] later h.behind
    | cons first earlier ih =>
        obtain ⟨before, rest, after, rfl, onward⟩ := h.exists_first
        exact @Interleaves.step _ ([e] :: before) after first rest _ (ih onward)

namespace Rpc

section

variable {ms : Methods} {reach : Nat} {errorIds errorIds' : ErrorIds} {body : List UInt8}

/-! ## Members among others -/

/-- The ids of members of which the one at the given place is left out. -/
def ErrorIds.without (errorIds : ErrorIds) (place : Nat) : ErrorIds := fun i =>
  if i < place then errorIds i else errorIds (i + 1)

theorem runsFrom_append (place : Nat) (vs ws : List Json) :
    ms.runsFrom reach errorIds place (vs ++ ws) =
      ms.runsFrom reach errorIds place vs ++ ms.runsFrom reach errorIds (place + vs.length) ws := by
  rw [Methods.runsFrom, List.map_append, List.zipIdx_append, List.map_append, List.length_map]
  rfl

theorem runsFrom_congr {place place' : Nat} {vs : List Json}
    (same : ∀ i < vs.length, errorIds (place + i) = errorIds' (place' + i)) :
    ms.runsFrom reach errorIds place vs = ms.runsFrom reach errorIds' place' vs := by
  induction vs generalizing place place' with
  | nil => rfl
  | cons v vs ih =>
      have first : errorIds place = errorIds' place' := same 0 (by simp)
      rw [runsFrom_cons, runsFrom_cons, first, ih]
      intro i below
      have next := same (i + 1) (by simpa using below)
      rwa [Nat.add_right_comm, Nat.add_right_comm place', Nat.add_assoc, Nat.add_assoc]

/-- Without one member the others are at work as they are with it. -/
theorem exists_runs (ms : Methods) (reach : Nat) (errorIds : ErrorIds) (before : List Json)
    (v : Json) (after : List Json) : ∃ front back,
      ms.runsFrom reach errorIds 0 (before ++ v :: after) =
        front ++ ms.replyWithin reach (errorIds before.length) (.ofJson v) :: back ∧
      ms.runsFrom reach (errorIds.without before.length) 0 (before ++ after) = front ++ back := by
  refine ⟨ms.runsFrom reach errorIds 0 before, ms.runsFrom reach errorIds (before.length + 1) after,
    ?_, ?_⟩
  · rw [runsFrom_append, runsFrom_cons, Nat.zero_add]
  · rw [runsFrom_append, Nat.zero_add]
    refine congrArg₂ _ (runsFrom_congr fun i below => ?_) (runsFrom_congr fun i _ => ?_)
    · rw [Nat.zero_add, ErrorIds.without, if_pos below]
    · rw [ErrorIds.without, if_neg (by omega)]
      exact congrArg errorIds (by omega)

/-- A run that comes to no reply does not show among the replies. -/
theorem mapM_insert {run : Run (Option Reply)} (silent : run.outcome = .ok none)
    (front back : List (Run (Option Reply))) :
    ((front ++ run :: back).mapM Run.outcome).map (List.filterMap id) =
      ((front ++ back).mapM Run.outcome).map (List.filterMap id) := by
  induction front with
  | nil =>
      rw [List.nil_append, List.nil_append, List.mapM_cons, silent]
      cases back.mapM Run.outcome <;> rfl
  | cons first front ih =>
      rw [List.cons_append, List.cons_append, List.mapM_cons, List.mapM_cons]
      cases first.outcome with
      | error f => rfl
      | ok o =>
          revert ih
          cases (front ++ run :: back).mapM Run.outcome with
          | error f =>
              cases (front ++ back).mapM Run.outcome with
              | error f' => exact id
              | ok os' => exact nofun
          | ok os =>
              cases (front ++ back).mapM Run.outcome with
              | error f' => exact nofun
              | ok os' =>
                  intro ih
                  refine congrArg Except.ok ?_
                  rw [List.filterMap_cons, List.filterMap_cons, Except.ok.inj ih]

theorem members_of_list {items : List Json} (means : Means body (.arr items)) :
    (Message.ofBytes body).members = items.map Member.ofJson := by
  rw [ofBytes_of_means means]
  cases items <;> rfl

/-- The answer to a list that is not empty are the replies to its members. -/
theorem outcome_of_list {items : List Json} (means : Means body (.arr items))
    (filled : items ≠ []) : (ms.dispatchWithin reach errorIds body).outcome =
      (((ms.runsFrom reach errorIds 0 items).mapM Run.outcome).map (List.filterMap id)).map
        Answer.ofReplies := by
  obtain ⟨w, items, rfl⟩ := List.exists_cons_of_ne_nil filled
  have message : Message.ofBytes body = .batch ((w :: items).map Member.ofJson) :=
    ofBytes_of_means means
  rw [Methods.dispatchWithin, runsWithin_of_members (members_of_list means), message]
  cases outcome : (ms.runsFrom reach errorIds 0 (w :: items)).mapM Run.outcome with
  | error f => exact Run.outcome_bind_of_error outcome _
  | ok replies => exact Run.outcome_bind_of_ok outcome _

end

end Rpc

end HostMonitor

namespace HostMonitor.Gateway

open Audit Rpc Text Tool

/-- The names of the notifications that have a method. -/
def acknowledged : List String := ["notifications/initialized", "notifications/cancelled"]

/-- The value announces something: it is a request without an id, its method has the name of
a notification, and its parameters are named or absent. -/
structure Announces (v : Json) (r : Request) : Prop where
  request : IsRequest v r
  silent : r.id = none
  notification : "notifications/".toList <+: r.method.toList
  named : ∃ fields, r.params.fields? = some fields

/-- The record of an announcement.  It says that the call failed, unless there is a method for
it. -/
def announcement (r : Request) : Event :=
  .noted (.audited r.method (redact r.params.document).wide (decide (r.method ∉ acknowledged)))

section

variable {c : Catalog} {v : Json} {r : Request}

theorem lookup_methods (notification : "notifications/".toList <+: r.method.toList) :
    (methods c).lookup r.method =
      if r.method ∈ acknowledged then some acknowledge else none := by
  split
  · next known =>
      obtain first | second : r.method = "notifications/initialized" ∨
          r.method = "notifications/cancelled" := by simpa [acknowledged] using known
      · rw [first]
        rfl
      · rw [second]
        rfl
  · next unknown =>
      rw [lookup_eq_none_iff]
      have others : ∀ name ∈ (methods c).names, "notifications/".toList <+: name.toList →
          name ∈ acknowledged := by
        simp only [Methods.names, Keyed.keys, methods, List.map_cons, List.map_nil]
        decide
      exact fun mem => unknown (others _ mem notification)

/-- The call of an announcement has a method that does nothing, or none. -/
theorem call_of_announces (announces : Announces v r) : (methods c).call r =
    if r.method ∈ acknowledged then .done (.obj [])
    else .fail (.reported (.of .methodNotFound ("Method not found: " ++ r.method) "" [])) := by
  obtain ⟨fields, named⟩ := announces.named
  rw [Methods.call, lookup_methods announces.notification]
  split_ifs
  · cases given : r.params with
    | listed items => simp [given, Params.fields?] at named
    | absent => rfl
    | named fields => rfl
  · rfl

/-- An announcement fails when there is no method for it. -/
theorem fails_iff_of_announces (announces : Announces v r) :
    Fails (methods c) r ↔ r.method ∉ acknowledged := by
  rw [fails_iff, call_of_announces announces]
  split_ifs with known
  · simp [known, Run.done]
  · simp [known, Run.fail]

theorem events_settle_of_announces (announces : Announces v r) (errorId : String) :
    ((methods c).settle errorId r).events = [] := by
  rw [Methods.settle, call_of_announces announces]
  split_ifs <;> rfl

/-- An announcement does nothing but leave its record. -/
theorem replyWithin_of_announces (announces : Announces v r) {reach : Nat}
    (within : (redact r.params.document).depth ≤ reach) (errorId : String) :
    (methods c).replyWithin reach errorId (.request r) = ⟨[announcement r], .ok none⟩ := by
  have failed : (⟨r.id, told errorId ((methods c).call r).outcome⟩ : Reply).isError =
      decide (r.method ∉ acknowledged) := by
    rw [Bool.eq_iff_iff, isError_told, fails_iff_of_announces announces, decide_eq_true_iff]
  have outcome : ((methods c).replyWithin reach errorId (.request r)).outcome = .ok none := by
    rw [outcome_replyWithin, Member.within, Request.within, decide_eq_true within, if_pos rfl,
      Methods.due, Request.isNotification, announces.silent]
    rfl
  have events : ((methods c).replyWithin reach errorId (.request r)).events =
      [announcement r] := by
    rw [events_replyWithin_request, events_settle_of_announces announces, record, redactWithin,
      if_pos within, failed]
    rfl
  exact Run.ext events outcome

/-- Alone, or the only one of a list, it is not answered. -/
theorem dispatchWithin_alone (announces : Announces v r) {reach : Nat}
    (within : (redact r.params.document).depth ≤ reach) (errorIds : ErrorIds) {body : List UInt8}
    (means : Means body v ∨ Means body (.arr [v])) :
    (methods c).dispatchWithin reach errorIds body = ⟨[announcement r], .ok .nothing⟩ := by
  have run := replyWithin_of_announces (c := c) announces within (errorIds 0)
  have member : Member.ofJson v = .request r := ofJson_eq_request_iff.mpr announces.request
  obtain ⟨fields, rfl, -⟩ := announces.request
  obtain message | message : Message.ofBytes body = .single (.request r) ∨
      Message.ofBytes body = .batch [.request r] := by
    obtain means | means := means
    · exact .inl (by rw [ofBytes_of_means means, Message.ofDocument, member])
    · exact .inr (by rw [ofBytes_of_means means, ← member]; rfl)
  all_goals
    rw [Methods.dispatchWithin, message]
    simp only [Methods.runsWithin, Message.members, List.zipIdx_cons, List.zipIdx_nil,
      List.map_cons, List.map_nil, run]
    rfl

/-- A notification is recorded and nothing else comes of it: there is no reply and no command,
and among others it changes neither their replies nor what they do.  Its record says that it
failed, unless it is one of the two that have a method.  Parameters out of the reach of
redaction leave the whole message without an answer. -/
theorem dispatchWithin_announcement (c : Catalog) (reach : Nat) {v : Json} {r : Request}
    (announces : Announces v r) :
    (Fails (methods c) r ↔ r.method ∉ acknowledged) ∧
      ((redact r.params.document).depth ≤ reach →
        (∀ errorIds body, Means body v ∨ Means body (.arr [v]) →
          (methods c).dispatchWithin reach errorIds body = ⟨[announcement r], .ok .nothing⟩) ∧
        ∀ errorIds before after body body', Means body (.arr (before ++ v :: after)) →
          Means body' (.arr (before ++ after)) → before ++ after ≠ [] →
            ((methods c).dispatchWithin reach errorIds body).outcome =
                ((methods c).dispatchWithin reach (errorIds.without before.length) body').outcome ∧
              ∀ events, Happens (methods c) reach errorIds body events ↔
                ∃ earlier later, events = earlier ++ announcement r :: later ∧
                  Happens (methods c) reach (errorIds.without before.length) body'
                    (earlier ++ later)) ∧
      (reach < (redact r.params.document).depth → ∀ errorIds body items,
        Means body v ∨ Means body (.arr items) ∧ v ∈ items →
          ((methods c).dispatchWithin reach errorIds body).outcome = .error .stackExhausted) := by
  have member : Member.ofJson v = .request r := ofJson_eq_request_iff.mpr announces.request
  refine ⟨fails_iff_of_announces announces, fun within => ⟨?_, ?_⟩, ?_⟩
  · exact fun errorIds body means => dispatchWithin_alone announces within errorIds means
  · intro errorIds before after body body' means means' filled
    obtain ⟨front, back, runs, runs'⟩ := exists_runs (methods c) reach errorIds before v after
    rw [member, replyWithin_of_announces announces within] at runs
    constructor
    · rw [outcome_of_list means (by simp), outcome_of_list means' filled, runs, runs',
        mapM_insert rfl]
    · intro events
      -- the record is one part among those of the others, and the order of parts is free
      simp only [Happens, runsWithin_of_members (members_of_list means), runs,
        runsWithin_of_members (members_of_list means'), runs', List.map_append, List.map_cons]
      rw [← interleaves_cons_iff]
      exact ⟨fun h => h.of_perm List.perm_middle, fun h => h.of_perm List.perm_middle.symm⟩
  · intro deep errorIds body items means
    refine outcome_dispatchWithin_of_overreaches ?_ _ errorIds
    obtain means | ⟨means, mem⟩ := means
    · obtain ⟨fields, rfl, -⟩ := announces.request
      exact ⟨_, means, _, List.mem_singleton_self _, r, announces.request, deep⟩
    · exact ⟨_, means, v, mem, r, announces.request, deep⟩

end

/-! ## Progress -/

/-- A notification about progress, for which there is no method. -/
def progress : Request := ⟨"notifications/progress", .absent, none⟩

/-- The same as a value. -/
def progressValue : Json :=
  .record [("jsonrpc", .ofString "2.0"), ("method", .ofString "notifications/progress")]

/-- The same as a message. -/
def progressMessage : List UInt8 :=
  Utf8.encode "\x7b\"jsonrpc\":\"2.0\",\"method\":\"notifications/progress\"\x7d".toList

theorem announces_progress : Announces progressValue progress where
  request := ⟨_, rfl, rfl, rfl, rfl, .missing, rfl⟩
  silent := rfl
  notification := by decide
  named := ⟨[], rfl⟩

theorem means_progress : Means progressMessage progressValue :=
  document?_eq_some_iff.mp (by decide +kernel)

theorem announcement_progress :
    announcement progress = .noted (.audited "notifications/progress" "null" true) := by
  have params : (redact progress.params.document).wide = "null" := by decide +kernel
  rw [announcement, params]
  rfl

/-- A notification about progress is recorded as a call that failed. -/
theorem dispatchWithin_progress :
    (methods ⟨[], []⟩).dispatchWithin auditReach (fun _ => "") progressMessage =
      ⟨[.noted (.audited "notifications/progress" "null" true)], .ok .nothing⟩ := by
  rw [← announcement_progress]
  exact ((dispatchWithin_announcement ⟨[], []⟩ auditReach announces_progress).2.1
    (by decide +kernel)).1 (fun _ => "") progressMessage (.inl means_progress)

/-- The only record of it says that it failed. -/
theorem progress_fails :
    Announces progressValue progress ∧ Means progressMessage progressValue ∧
      Fails (methods ⟨[], []⟩) progress ∧
      ((methods ⟨[], []⟩).dispatchWithin auditReach (fun _ => "") progressMessage).events =
        [.noted (.audited "notifications/progress" "null" true)] := by
  refine ⟨announces_progress, means_progress, ?_, ?_⟩
  · exact (fails_iff_of_announces announces_progress).mpr (by decide)
  · rw [dispatchWithin_alone announces_progress (by decide +kernel) _ (.inl means_progress),
      announcement_progress]

end HostMonitor.Gateway
