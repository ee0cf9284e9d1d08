import HostMonitor.Proofs.Envelope
import HostMonitor.Proofs.Gather

/-!
# The answer to every message

`Answers` says what is sent back for the bytes of a message, whatever methods
there are and whatever they do.  It speaks of the document that the bytes mean,
of envelopes and of what methods end with, and not of how a message is handled.
The answer is the same in whatever order the methods of a list end.

Two things stand in the way of an answer.  Bytes mean a document within the limits of
messages, so a list in five thousand levels is not read.  And a message is lost, with
the replies to all of its members, when the parameters of one member nest deeper than
redaction reaches.
-/

namespace HostMonitor.Rpc

open Audit Number Text

/-! ## What is due -/

/-- What is due to one member of a message. -/
inductive Due (ms : Methods) (errorId : String) (v : Json) : Option Reply → Prop where
  /-- Whatever is no request is refused, under its id if it has one. -/
  | refused : (∀ r, ¬ IsRequest v r) →
      Due ms errorId v (some ⟨idOf v, .error ⟨-32600, "Invalid Request", none⟩⟩)
  /-- A notification is not answered. -/
  | notified {r : Request} : IsRequest v r → r.id = none → Due ms errorId v none
  /-- Any other request is answered under its id with the outcome of its method. -/
  | answered {r : Request} {id : RequestId} : IsRequest v r → r.id = some id →
      Due ms errorId v (some ⟨some id, told errorId (ms.call r).outcome⟩)

/-- Two replies are the same up to the id of a failure. -/
def Reply.Alike (a b : Reply) : Prop :=
  a.id = b.id ∧ (a.outcome = b.outcome ∨
    ∃ e e', a.outcome = .error (.hidden e) ∧ b.outcome = .error (.hidden e'))

/-- Replies as the answer to a list. -/
def Answer.ofReplies (rs : List Reply) : Answer := if rs.isEmpty then .nothing else .many rs

/-- The replies of an answer. -/
def Answer.replies : Answer → List Reply
  | .nothing => []
  | .one r => [r]
  | .many rs => rs

/-- The reply is a document with its id and exactly one of a result and an error. -/
def Reply.Formed (r : Reply) : Prop :=
  ∃ fields : Json.Fields, r.document = .obj fields ∧ fields.get? "jsonrpc" = some (.ofString "2.0") ∧
    fields.get? "id" = some (idDocument r.id) ∧
    (fields.get? "result").isSome = !(fields.get? "error").isSome

section

variable (means : List UInt8 → Json → Prop) (ms : Methods) (reach : Nat)

/-- What is due to a member is what it gets when it is sent alone, as a list of
one member, whenever that may be. -/
def AsAlone (v : Json) (o : Option Reply) : Prop :=
  (∃ alone, means alone (.arr [v])) ∧
    ∀ alone errorIds outcome, means alone (.arr [v]) →
      Dispatches ms reach errorIds alone outcome →
      ∃ o' : Option Reply, outcome = .ok (.ofReplies o'.toList) ∧ Option.Rel Reply.Alike o o'

/-- The answer is the right one for the bytes of a message, by what bytes mean. -/
structure Answers (errorIds : ErrorIds) (body : List UInt8) (answer : Answer) : Prop where
  unreadable : (∀ doc, ¬ means body doc) →
    answer = .one ⟨none, .error ⟨-32700, "Parse error", none⟩⟩
  unusable : ∀ doc, means body doc → (∀ fields, doc ≠ .obj fields) →
    (∀ v items, doc ≠ .arr (v :: items)) →
    answer = .one ⟨none, .error ⟨-32600, "Invalid Request", none⟩⟩
  single : ∀ fields, means body (.obj fields) →
    ∃ o, Due ms (errorIds 0) (.obj fields) o ∧ answer = (o.map Answer.one).getD .nothing
  batch : ∀ v items, means body (.arr (v :: items)) →
    ∃ dues : List (Option Reply), dues.length = (v :: items).length ∧
      answer = .ofReplies (dues.filterMap id) ∧
      ∀ place (w : Json), (v :: items)[place]? = some w →
        ∃ o, dues[place]? = some o ∧ Due ms (errorIds place) w o ∧ AsAlone means ms reach w o
  formed : ∀ r ∈ answer.replies, r.Formed

end

/-- The members of a document that is a message. -/
def membersOf : Json → List Json
  | .obj fields => [.obj fields]
  | .arr items => items
  | _ => []

/-- A member of the message is a request with parameters that nest deeper than redaction
reaches. -/
def Overreaches (reach : Nat) (body : List UInt8) : Prop :=
  ∃ doc, Means body doc ∧ ∃ w ∈ membersOf doc, ∃ r, IsRequest w r ∧
    reach < (redact r.params.document).depth

/-! ## Replies -/

theorem due_ofJson (ms : Methods) (errorId : String) (v : Json) :
    Due ms errorId v (ms.due errorId (.ofJson v)) := by
  cases e : Member.ofJson v with
  | request r =>
      have request := ofJson_eq_request_iff.mp e
      rw [Methods.due, Request.isNotification]
      cases id : r.id with
      | none => exact .notified request id
      | some id' => exact .answered request id
  | refused id =>
      have none : ∀ r, ¬ IsRequest v r := by
        intro r h
        rw [ofJson_eq_request_iff.mpr h] at e
        cases e
      rw [ofJson_eq_refused none] at e
      cases e
      exact .refused none

theorem formed (r : Reply) : r.Formed := by
  obtain ⟨id, outcome⟩ := r
  cases outcome with
  | ok value => exact ⟨_, rfl, rfl, rfl, rfl⟩
  | error e => exact ⟨_, rfl, rfl, rfl, rfl⟩

/-- Two tellings of one outcome differ in the id of a failure at most. -/
theorem alike_due (ms : Methods) (errorId errorId' : String) (m : Member) :
    Option.Rel Reply.Alike (ms.due errorId m) (ms.due errorId' m) := by
  cases m with
  | refused id => exact .some ⟨rfl, .inl rfl⟩
  | request r =>
      rw [Methods.due, Methods.due]
      cases r.isNotification with
      | true => exact .none
      | false =>
          refine .some ⟨rfl, ?_⟩
          cases (ms.call r).outcome with
          | ok value => exact .inl rfl
          | error f =>
              simp only [told, Except.mapError, toldError]
              cases f.public? with
              | some report => exact .inl rfl
              | none => exact .inr ⟨errorId, errorId', rfl, rfl⟩

/-! ## Messages -/

/-- The message that a document is. -/
def Message.ofDocument : Json → Message
  | .obj fields => .single (.ofJson (.obj fields))
  | .arr [] => .emptyBatch
  | .arr items => .batch (items.map Member.ofJson)
  | _ => .unusable

theorem ofBytes_of_means {body : List UInt8} {doc : Json} (h : Means body doc) :
    Message.ofBytes body = .ofDocument doc := by
  rw [Message.ofBytes, document?_eq_some_iff.mpr h]
  cases doc with
  | arr items => cases items <;> rfl
  | _ => rfl

theorem ofBytes_of_meaningless {body : List UInt8} (h : ∀ doc, ¬ Means body doc) :
    Message.ofBytes body = .unreadable := by
  have none : document? body = none :=
    Option.eq_none_iff_forall_ne_some.mpr fun doc e => h doc (document?_eq_some_iff.mp e)
  rw [Message.ofBytes, none]

theorem members_ofDocument (doc : Json) :
    (Message.ofDocument doc).members = (membersOf doc).map Member.ofJson := by
  cases doc with
  | arr items =>
      cases items with
      | nil => rfl
      | cons v items => rfl
  | _ => rfl

theorem within_ofJson_iff {reach : Nat} {w : Json} : (Member.ofJson w).within reach = true ↔
    ∀ r, IsRequest w r → (redact r.params.document).depth ≤ reach := by
  constructor
  · intro within r request
    rw [ofJson_eq_request_iff.mpr request] at within
    exact of_decide_eq_true within
  · intro each
    cases e : Member.ofJson w with
    | refused id => rfl
    | request r => exact decide_eq_true (each r (ofJson_eq_request_iff.mp e))

/-- A message that does not overreach has only members that can be recorded. -/
theorem all_within_iff {reach : Nat} {body : List UInt8} :
    (Message.ofBytes body).members.all (Member.within reach) = true ↔ ¬ Overreaches reach body := by
  by_cases meaning : ∃ doc, Means body doc
  · obtain ⟨doc, means⟩ := meaning
    rw [ofBytes_of_means means, members_ofDocument, List.all_map, List.all_eq_true]
    simp only [Function.comp_apply, within_ofJson_iff]
    constructor
    · rintro each ⟨doc', means', w, mem, r, request, far⟩
      cases means.unique means'
      exact absurd (each w mem r request) (Nat.not_le.mpr far)
    · intro near w mem r request
      exact Nat.not_lt.mp fun far => near ⟨doc, means, w, mem, r, request, far⟩
  · rw [ofBytes_of_meaningless (not_exists.mp meaning)]
    exact iff_of_true rfl fun ⟨doc, means, _⟩ => meaning ⟨doc, means⟩

theorem outcome_dispatchWithin_of_not_overreaches {reach : Nat} {body : List UInt8}
    (near : ¬ Overreaches reach body) (ms : Methods) (errorIds : ErrorIds) :
    (ms.dispatchWithin reach errorIds body).outcome = .ok ((Message.ofBytes body).assemble
      (ms.dues errorIds 0 (Message.ofBytes body).members)) := by
  rw [outcome_dispatchWithin, if_pos (all_within_iff.mpr near)]

theorem outcome_dispatchWithin_of_overreaches {reach : Nat} {body : List UInt8}
    (far : Overreaches reach body) (ms : Methods) (errorIds : ErrorIds) :
    (ms.dispatchWithin reach errorIds body).outcome = .error .stackExhausted := by
  rw [outcome_dispatchWithin, if_neg fun near => all_within_iff.mp near far]

/-- A member that is sent alone gets what is due to it. -/
theorem outcome_alone {ms : Methods} {reach : Nat} {errorIds : ErrorIds} {alone : List UInt8}
    {v : Json} {outcome : Except Fault Answer} (h : Means alone (.arr [v]))
    (within : (Member.ofJson v).within reach = true)
    (dispatches : Dispatches ms reach errorIds alone outcome) :
    outcome = .ok (.ofReplies (ms.due (errorIds 0) (.ofJson v)).toList) := by
  rw [dispatches_iff.mp dispatches, outcome_dispatchWithin, ofBytes_of_means h]
  simp only [Message.ofDocument, List.map_cons, List.map_nil, Message.members, Methods.dues,
    Message.assemble, List.all_cons, List.all_nil, within, Bool.and_true, if_true]
  cases ms.due (errorIds 0) (.ofJson v) <;> rfl

theorem asAlone_due {ms : Methods} {reach : Nat} {body : List UInt8} {items : List Json}
    {v : Json} (h : Means body (.arr items)) (mem : v ∈ items)
    (within : (Member.ofJson v).within reach = true) (errorId : String) :
    AsAlone Means ms reach v (ms.due errorId (.ofJson v)) := by
  obtain ⟨cs, _, denotes⟩ := h
  obtain ⟨cs', alone⟩ := Json.denotes_singleton denotes mem
  refine ⟨⟨_, cs', rfl, alone⟩, ?_⟩
  intro alone errorIds outcome means dispatches
  exact ⟨_, outcome_alone means within dispatches, alike_due ms _ _ _⟩

theorem answers_assemble {reach : Nat} {body : List UInt8} (near : ¬ Overreaches reach body)
    (ms : Methods) (errorIds : ErrorIds) :
    Answers Means ms reach errorIds body ((Message.ofBytes body).assemble
      (ms.dues errorIds 0 (Message.ofBytes body).members)) where
  unreadable := by
    intro h
    rw [ofBytes_of_meaningless h]
    rfl
  unusable := by
    intro doc h noObject noList
    rw [ofBytes_of_means h]
    cases doc with
    | obj fields => exact absurd rfl (noObject fields)
    | arr items =>
        cases items with
        | nil => rfl
        | cons v items => exact absurd rfl (noList v items)
    | _ => rfl
  single := by
    intro fields h
    refine ⟨_, due_ofJson ms (errorIds 0) (.obj fields), ?_⟩
    rw [ofBytes_of_means h]
    simp only [Message.ofDocument, Message.members, Methods.dues, Message.assemble]
    cases ms.due (errorIds 0) (.ofJson (.obj fields)) <;> rfl
  batch := by
    intro v items h
    refine ⟨ms.dues errorIds 0 ((v :: items).map Member.ofJson), ?_, ?_, ?_⟩
    · rw [length_dues, List.length_map]
    · rw [ofBytes_of_means h]
      rfl
    · intro place w hw
      have mem := List.mem_of_getElem? hw
      have within : (Member.ofJson w).within reach = true := within_ofJson_iff.mpr fun r request =>
        Nat.not_lt.mp fun far => near ⟨_, h, w, mem, r, request, far⟩
      refine ⟨ms.due (errorIds place) (.ofJson w), ?_, due_ofJson ms _ w, asAlone_due h mem within _⟩
      rw [getElem?_dues, List.getElem?_map, hw, Nat.zero_add]
      rfl
  formed := fun r _ => formed r

/-- A message is lost if and only if it overreaches.  Any other gets the right answer, in
whatever order its methods end: the bytes are read or refused as a whole, and the
members of a list are answered in their order, each as if it had been sent alone. -/
theorem dispatchWithin_answers (ms : Methods) (reach : Nat) (errorIds : ErrorIds)
    (body : List UInt8) {outcome : Except Fault Answer}
    (h : Dispatches ms reach errorIds body outcome) :
    outcome = (ms.dispatchWithin reach errorIds body).outcome ∧
      (outcome = .error .stackExhausted ↔ Overreaches reach body) ∧
      (¬ Overreaches reach body → ∃ answer, outcome = .ok answer ∧
        Answers Means ms reach errorIds body answer) := by
  have same := dispatches_iff.mp h
  have answered (near : ¬ Overreaches reach body) :=
    outcome_dispatchWithin_of_not_overreaches near ms errorIds
  refine ⟨same, ⟨fun lost => ?_, fun far => ?_⟩, fun near => ?_⟩
  · by_contra near
    cases lost.symm.trans (same.trans (answered near))
  · rw [same, outcome_dispatchWithin_of_overreaches far]
  · exact ⟨_, same.trans (answered near), answers_assemble near ms errorIds⟩

/-! ## Two members, and many levels -/

/-- A method that gives an empty object. -/
def pings : Methods := [("ping", fun _ => .done (.obj []))]

/-- A list of a number and a request. -/
def twoMembers : List UInt8 :=
  Utf8.encode "[1,\x7b\"jsonrpc\":\"2.0\",\"method\":\"ping\",\"id\":7\x7d]".toList

theorem ofBytes_twoMembers :
    Message.ofBytes twoMembers =
      .batch [.refused none, .request ⟨"ping", .absent, some (.int 7)⟩] := by
  have means : Means twoMembers (.arr [.int 1, .record [("jsonrpc", .ofString "2.0"),
      ("method", .ofString "ping"), ("id", .int 7)]]) :=
    document?_eq_some_iff.mp (by decide +kernel)
  have request : Member.ofJson (.record [("jsonrpc", .ofString "2.0"),
      ("method", .ofString "ping"), ("id", .int 7)]) =
        .request ⟨"ping", .absent, some (.int 7)⟩ :=
    ofJson_eq_request_iff.mpr ⟨_, rfl, by decide +kernel, by decide +kernel, by decide +kernel,
      .missing, by decide +kernel⟩
  rw [ofBytes_of_means means, Message.ofDocument]
  · simp only [List.map_cons, List.map_nil, request]
    rfl
  · rintro ⟨⟩

theorem near_twoMembers : ¬ Overreaches 0 twoMembers := by
  rw [← all_within_iff, ofBytes_twoMembers]
  rfl

/-- The method of the second member ends first. -/
theorem dispatchWithin_answers_two_members :
    Dispatches pings 0 (fun _ => "") twoMembers
        (.ok (.many [⟨none, .error .refused⟩, ⟨some (.int 7), .ok (.obj [])⟩])) ∧
      ∃ answer, (pings.dispatchWithin 0 (fun _ => "") twoMembers).outcome = .ok answer ∧
        Answers Means pings 0 (fun _ => "") twoMembers answer := by
  have run : Dispatches pings 0 (fun _ => "") twoMembers
      (.ok (.many [⟨none, .error .refused⟩, ⟨some (.int 7), .ok (.obj [])⟩])) := by
    have h := @Dispatches.intro pings 0 (fun _ => "") twoMembers
    rw [ofBytes_twoMembers] at h
    exact h (.tail (.tail .refl (@Completes.member _ _ _ _ _ 1 _ rfl rfl))
      (@Completes.member _ _ _ _ _ 0 _ rfl rfl)) rfl
  obtain ⟨same, _, answered⟩ := dispatchWithin_answers pings 0 (fun _ => "") twoMembers run
  obtain ⟨answer, eq, answers⟩ := answered near_twoMembers
  exact ⟨run, answer, same ▸ eq, answers⟩

/-- A request that nests six hundred levels deep in its parameters. -/
def deepText : List Char :=
  "\x7b\"jsonrpc\":\"2.0\",\"method\":\"ping\",\"params\":\x7b\"a\":".toList ++
    Json.levels 600 ++ "\x7d,\"id\":1\x7d".toList

def plainText : List Char := "\x7b\"jsonrpc\":\"2.0\",\"method\":\"ping\",\"id\":2\x7d".toList

/-- A list of both. -/
def deepAndPlain : List UInt8 :=
  Utf8.encode (['['] ++ deepText ++ [','] ++ plainText ++ [']'])

def deepDocument : Json :=
  .record [("jsonrpc", .ofString "2.0"), ("method", .ofString "ping"),
    ("params", .record [("a", Json.nested 599)]), ("id", .int 1)]

def plainDocument : Json :=
  .record [("jsonrpc", .ofString "2.0"), ("method", .ofString "ping"), ("id", .int 2)]

/-- The second request is answered when it is sent alone, but in a list with the first
neither of the two is. -/
theorem deepAndPlain_unanswered :
    Means deepAndPlain (.arr [deepDocument, plainDocument]) ∧
      (pings.dispatchWithin auditReach (fun _ => "")
        (Utf8.encode (['['] ++ plainText ++ [']']))).outcome =
          .ok (.many [⟨some (.int 2), .ok (.obj [])⟩]) ∧
      (pings.dispatchWithin auditReach (fun _ => "") deepAndPlain).outcome =
        .error .stackExhausted := by
  have means : Means deepAndPlain (.arr [deepDocument, plainDocument]) :=
    document?_eq_some_iff.mp (by decide +kernel)
  have alone : Means (Utf8.encode (['['] ++ plainText ++ [']'])) (.arr [plainDocument]) :=
    document?_eq_some_iff.mp (by decide +kernel)
  have plain : Member.ofJson plainDocument = .request ⟨"ping", .absent, some (.int 2)⟩ :=
    ofJson_eq_request_iff.mpr ⟨_, rfl, rfl, rfl, rfl, .missing, rfl⟩
  have deep : IsRequest deepDocument
      ⟨"ping", .named [("a", Json.nested 599)], some (.int 1)⟩ :=
    ⟨_, rfl, rfl, rfl, rfl, .named, rfl⟩
  refine ⟨means, ?_, ?_⟩
  · have within : (Member.ofJson plainDocument).within auditReach = true := by rw [plain]; rfl
    rw [outcome_alone alone within (dispatches_iff.mpr rfl), plain]
    rfl
  · exact outcome_dispatchWithin_of_overreaches
      ⟨_, means, _, List.mem_cons_self, _, deep, by decide +kernel⟩ _ _

/-- Five thousand levels are JSON, but they are answered as what is none. -/
theorem deep_list_unread (ms : Methods) (reach : Nat) (errorIds : ErrorIds) :
    InJson (Utf8.encode (Json.levels 5000)) (.arr [Json.nested 4998]) ∧
      (ms.dispatchWithin reach errorIds (Utf8.encode (Json.levels 5000))).outcome =
        .ok (.one ⟨none, .error ⟨-32700, "Parse error", none⟩⟩) := by
  have unread : ∀ doc, ¬ Means (Utf8.encode (Json.levels 5000)) doc := by
    rintro doc ⟨cs, same, denotes⟩
    have decoded := Utf8.decode?_eq_some_iff.mpr same
    rw [Utf8.decode?_eq_some_iff.mpr rfl] at decoded
    cases Option.some.inj decoded
    exact Json.not_denotes_levels (by decide) doc denotes
  refine ⟨⟨_, 0, 5000, rfl, Json.denotes_levels rfl⟩, ?_⟩
  rw [outcome_dispatchWithin, ofBytes_of_meaningless unread]
  rfl

end HostMonitor.Rpc
