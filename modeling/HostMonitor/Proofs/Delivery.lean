import HostMonitor.Proofs.Dispatch
import HostMonitor.Proofs.Renderable

/-!
# Which messages are answered

A message that is let in is answered with a document, or acknowledged when there
is nothing to answer.  It is lost as a whole when the parameters of a member nest deeper
than redaction reaches, or when one of its replies cannot be sent, and in no other way.

The id of a member comes back in its reply, so an infinite number or a broken
text as the id of one member loses the replies of all.  Parameters can come back
in the details of an error.  Nothing else that a client sends comes back.  What the host
tells comes back as well, and it may be that a text of its journal cannot be sent.
-/

namespace HostMonitor

open Number Text

/-! ## Replies -/

namespace Rpc

/-- The id cannot be sent: it is no finite number, a text with a surrogate that has no
partner, or an integer with more digits than are written. -/
def Unsendable (id : Option RequestId) : Prop :=
  (∃ x : Binary64, id = some (.float x) ∧ x.isFinite = false) ∨
    (∃ text : WireText, id = some (.text text) ∧ text.chars? = none) ∨
      ∃ n, id = some (.int n) ∧ digitLimit < Json.digitCount n

theorem unsendable_iff {id : Option RequestId} :
    Unsendable id ↔ (idDocument id).isRenderable = false := by
  constructor
  · rintro (⟨x, rfl, h⟩ | ⟨text, rfl, none⟩ | ⟨n, rfl, long⟩)
    · exact h
    · cases text with
      | chars s => cases none
      | broken points lone => rfl
    · exact Bool.eq_false_iff.mpr fun h =>
        absurd (Json.isRenderable_int_iff.mp h) (Nat.not_le.mpr long)
  · intro h
    cases id with
    | none => cases h
    | some id =>
        cases id with
        | text t =>
            cases t with
            | chars s => cases h
            | broken points lone => exact .inr (.inl ⟨_, rfl, rfl⟩)
        | int n =>
            refine .inr (.inr ⟨n, rfl, Nat.not_le.mp fun short => ?_⟩)
            exact Bool.eq_false_iff.mp h (Json.isRenderable_int_iff.mpr short)
        | float x => exact .inl ⟨x, rfl, h⟩

/-- What the reply tells besides its id. -/
def Reply.content (r : Reply) : Json :=
  match r.outcome with
  | .ok value => value
  | .error e => e.document

theorem isRenderable_reply (r : Reply) :
    r.document.isRenderable = ((idDocument r.id).isRenderable && r.content.isRenderable) := by
  obtain ⟨id, outcome⟩ := r
  cases outcome with
  | ok value => simp [Reply.document, Reply.content]
  | error e => simp [Reply.document, Reply.content]

@[simp] theorem isRenderable_number (kind : ReportKind) :
    (Json.int kind.number).isRenderable = true :=
  Json.isRenderable_small (by cases kind <;> decide)

theorem isRenderable_toldError (errorId : String) {f : Fault} (h : f.Tellable) :
    (toldError errorId f).document.isRenderable = true := by
  rw [toldError]
  cases e : f.public? with
  | some report =>
      have told : report.document.isRenderable = true := h report e
      simp [ErrorReply.ofReport, ErrorReply.document, told]
  | none => simp [ErrorReply.hidden, ErrorReply.document]

/-- What a client is told of an outcome can be sent when the outcome can. -/
theorem isRenderable_content (id : Option RequestId) (errorId : String)
    {outcome : Except Fault Json}
    (h : Ends (fun result => result.isRenderable = true) Fault.Tellable outcome) :
    (Reply.content ⟨id, told errorId outcome⟩).isRenderable = true := by
  cases outcome with
  | ok value => exact h
  | error f => exact isRenderable_toldError errorId h

end Rpc

namespace Gateway

open Rpc

/-- What the member sends and can get back can be sent: its id and its
parameters. -/
structure Harmless (w : Json) : Prop where
  id : ¬ Unsendable (idOf w)
  params : ∀ r, IsRequest w r → r.params.document.isRenderable = true

/-- A member with an id is answered under it. -/
theorem id_of_due {ms : Methods} {errorId : String} {w : Json} {o : Option Reply}
    (due : Due ms errorId w o) {id : RequestId} (h : idOf w = some id) :
    ∃ reply, o = some reply ∧ reply.id = some id := by
  cases due with
  | refused _ => exact ⟨_, rfl, h⟩
  | notified request e =>
      rw [idOf_eq_of_isRequest request, e] at h
      cases h
  | answered request e =>
      rw [idOf_eq_of_isRequest request, e] at h
      exact ⟨_, rfl, h⟩

/-- The reply to a harmless member can be sent. -/
theorem isRenderable_due {s : Settings} {around : Surroundings}
    (host : Presentable (sources s around.machine around.charNames)) {errorId : String} {w : Json}
    (h : Harmless w) {reply : Reply}
    (due : Due (methodsFor s around) errorId w (some reply)) :
    reply.document.isRenderable = true := by
  have id : (idDocument (idOf w)).isRenderable = true := by
    cases e : (idDocument (idOf w)).isRenderable with
    | true => rfl
    | false => exact absurd (unsendable_iff.mpr e) h.id
  rw [isRenderable_reply, Bool.and_eq_true]
  cases due with
  | refused _ => exact ⟨id, rfl⟩
  | answered request e =>
      rw [idOf_eq_of_isRequest request, e] at id
      exact ⟨id, isRenderable_content _ _ (ends_call host (h.params _ request))⟩

/-! ## Responses -/

/-- The response delivers the answer, or it is the failure of the whole request
because one of the replies cannot be sent. -/
inductive Delivers : Answer → HttpResponse → Prop where
  /-- Nothing to answer is acknowledged without a body. -/
  | nothing : Delivers .nothing (.bare 202)
  /-- One reply is the document. -/
  | one {reply : Reply} : reply.document.isRenderable = true →
      Delivers (.one reply) (.of 200 reply.document)
  /-- Replies to a list are a list, and there is at least one. -/
  | many {replies : List Reply} : replies ≠ [] →
      (∀ reply ∈ replies, reply.document.isRenderable = true) →
      Delivers (.many replies) (.of 200 (.arr (replies.map Reply.document)))
  /-- One reply that cannot be sent loses all of them. -/
  | lost {answer : Answer} {reply : Reply} : reply ∈ answer.replies →
      reply.document.isRenderable = false → Delivers answer .failure

theorem failure_iff {answer : Answer} {response : HttpResponse} (h : Delivers answer response) :
    response = .failure ↔ ∃ reply ∈ answer.replies, reply.document.isRenderable = false := by
  constructor
  · rintro rfl
    cases h with
    | lost mem lost => exact ⟨_, mem, lost⟩
  · rintro ⟨reply, mem, lost⟩
    cases h with
    | nothing => cases mem
    | one sent =>
        cases List.mem_singleton.mp mem
        rw [sent] at lost
        cases lost
    | many _ sent =>
        rw [sent reply mem] at lost
        cases lost
    | lost _ _ => rfl

theorem delivers_responseOf {answer : Answer} (filled : answer ≠ .many []) :
    Delivers answer (responseOf (.ok answer)) := by
  cases answer with
  | nothing => exact .nothing
  | one reply =>
      rw [responseOf, Answer.document?]
      dsimp only
      rw [written]
      split
      · next h => exact .one h
      · next h => exact .lost (List.mem_singleton.mpr rfl) (Bool.eq_false_iff.mpr h)
  | many replies =>
      rw [responseOf, Answer.document?]
      dsimp only
      rw [written, Json.isRenderable_arr]
      split
      · next h =>
          rw [List.all_map, List.all_eq_true] at h
          exact .many (fun e => filled (by rw [e])) h
      · next h =>
          rw [Bool.not_eq_true, List.all_map, List.all_eq_false] at h
          obtain ⟨reply, mem, h⟩ := h
          exact .lost mem (Bool.eq_false_iff.mpr h)

theorem assemble_filled (m : Message) (dues : List (Option Reply)) :
    m.assemble dues ≠ .many [] := by
  intro e
  cases m with
  | single m =>
      rw [Message.assemble] at e
      split at e <;> cases e
  | batch ms =>
      rw [Message.assemble] at e
      split at e
      · cases e
      · next filled =>
          injection e with e
          exact filled (by rw [e]; rfl)
  | _ => cases e

theorem outcome_noteResponse (around : Surroundings) (r : HttpRequest) (response : HttpResponse) :
    (noteResponse around r response).outcome = .ok () := by
  rw [noteResponse]
  split
  · rfl
  · split
    · rfl
    · rfl

/-- A message that is let in is answered by what becomes of it. -/
theorem outcome_respond {ms : Methods} {reach : Nat} {s : Settings} {around : Surroundings}
    {r : HttpRequest} (post : r.method = "POST") (path : r.path = endpoint)
    {client : Option Net.Address} (admitted : Access.decide s r.peer r.headers = .ok client) :
    (respondWithin ms reach s around r).outcome =
      .ok (responseOf (ms.dispatchWithin reach around.errorIds r.body).outcome) := by
  have authenticated : ∀ context,
      (Access.authenticate s r.peer r.headers context).outcome = .ok (.ok client) := by
    intro context
    rw [Access.authenticate, admitted]
    rfl
  have message : (messageWithin ms reach s around r).outcome =
      .ok (responseOf (ms.dispatchWithin reach around.errorIds r.body).outcome) := by
    rw [messageWithin, Run.outcome_bind_of_ok (authenticated _),
      Run.outcome_bind_of_ok (Run.outcome_attempt _)]
    rfl
  have routed : (routeWithin ms reach s around r).outcome =
      .ok (responseOf (ms.dispatchWithin reach around.errorIds r.body).outcome) := by
    rw [routeWithin, path, show routes.lookup endpoint = some "POST" from rfl]
    dsimp only
    rw [if_neg (by simp [post]), if_pos rfl]
    exact message
  rw [respondWithin, Run.outcome_bind_of_ok routed,
    Run.outcome_bind_of_ok (outcome_noteResponse around r _)]
  rfl

/-! ## The whole of a message -/

theorem mem_replies {replies : List Reply} {reply : Reply} :
    reply ∈ (Answer.ofReplies replies).replies ↔ reply ∈ replies := by
  cases replies with
  | nil => exact Iff.rfl
  | cons _ _ => exact Iff.rfl

/-- A reply is due to a member, or the bytes are refused as a whole. -/
theorem due_of_mem {ms : Methods} {reach : Nat} {errorIds : ErrorIds} {body : List UInt8}
    {answer : Answer} (answers : Answers Means ms reach errorIds body answer) {reply : Reply}
    (mem : reply ∈ answer.replies) :
    (reply.id = none ∧ reply.content.isRenderable = true) ∨
      ∃ doc, Means body doc ∧ ∃ w ∈ membersOf doc, ∃ errorId, Due ms errorId w (some reply) := by
  by_cases meaningless : ∀ doc, ¬ Means body doc
  · rw [answers.unreadable meaningless] at mem
    cases List.mem_singleton.mp mem
    exact .inl ⟨rfl, rfl⟩
  · obtain ⟨doc, means⟩ := not_forall_not.mp meaningless
    have refused : (∀ fields, doc ≠ .obj fields) → (∀ v items, doc ≠ .arr (v :: items)) →
        reply.id = none ∧ reply.content.isRenderable = true := by
      intro noObject noList
      rw [answers.unusable doc means noObject noList] at mem
      cases List.mem_singleton.mp mem
      exact ⟨rfl, rfl⟩
    cases doc with
    | obj fields =>
        obtain ⟨o, due, rfl⟩ := answers.single fields means
        cases o with
        | none => cases mem
        | some reply' =>
            cases List.mem_singleton.mp mem
            exact .inr ⟨_, means, _, List.mem_singleton.mpr rfl, _, due⟩
    | arr items =>
        cases items with
        | nil => exact .inl (refused (by rintro _ ⟨⟩) (by rintro _ _ ⟨⟩))
        | cons v items =>
            obtain ⟨dues, length, rfl, each⟩ := answers.batch v items means
            obtain ⟨o, member, rfl⟩ := List.mem_filterMap.mp (mem_replies.mp mem)
            obtain ⟨place, inside, e⟩ := List.getElem_of_mem member
            obtain ⟨o, e', due, _⟩ :=
              each place _ (List.getElem?_eq_getElem (length ▸ inside))
            rw [List.getElem?_eq_getElem inside, e] at e'
            cases e'
            exact .inr ⟨_, means, _, List.getElem_mem _, _, due⟩
    | _ => exact .inl (refused (by rintro _ ⟨⟩) (by rintro _ _ ⟨⟩))

/-- What is due to a member is a reply of the answer. -/
theorem mem_of_due {ms : Methods} {reach : Nat} {errorIds : ErrorIds} {body : List UInt8}
    {answer : Answer} (answers : Answers Means ms reach errorIds body answer) {doc : Json}
    (means : Means body doc)
    {w : Json} (member : w ∈ membersOf doc) :
    ∃ errorId o, Due ms errorId w o ∧ ∀ reply, o = some reply → reply ∈ answer.replies := by
  cases doc with
  | obj fields =>
      cases List.mem_singleton.mp member
      obtain ⟨o, due, rfl⟩ := answers.single fields means
      refine ⟨_, o, due, ?_⟩
      rintro reply rfl
      exact List.mem_singleton.mpr rfl
  | arr items =>
      cases items with
      | nil => cases member
      | cons v items =>
          obtain ⟨dues, _, rfl, each⟩ := answers.batch v items means
          obtain ⟨place, inside, e⟩ := List.getElem_of_mem member
          obtain ⟨o, e', due, _⟩ := each place w (List.getElem?_eq_some_iff.mpr ⟨inside, e⟩)
          refine ⟨_, o, due, ?_⟩
          rintro reply rfl
          exact mem_replies.mpr (List.mem_filterMap.mpr ⟨_, List.mem_of_getElem? e', rfl⟩)
  | _ => cases member

/-- Every message that is let in is answered.  One that overreaches is lost, and the right
answer to any other is delivered if and only if all of its replies can be sent.  An id
that cannot be sent loses a message.  Nothing else does, when what the host tells can be
sent, unless a member sends parameters that cannot be sent. -/
theorem respond_delivers {reach : Nat} {s : Settings} {around : Surroundings} {r : HttpRequest}
    (post : r.method = "POST") (path : r.path = endpoint) {client : Option Net.Address}
    (admitted : Access.decide s r.peer r.headers = .ok client) :
    ∃ response, (respond reach s around r).outcome = .ok response ∧
      (Overreaches reach r.body → response = .failure) ∧
      (¬ Overreaches reach r.body → ∃ answer,
        Answers Means (methodsFor s around) reach around.errorIds r.body answer ∧
          Delivers answer response ∧
          (response = .failure ↔
            ∃ reply ∈ answer.replies, reply.document.isRenderable = false)) ∧
      (∀ doc, Means r.body doc → ∀ w ∈ membersOf doc,
        Unsendable (idOf w) → response = .failure) ∧
      (Presentable (sources s around.machine around.charNames) → ¬ Overreaches reach r.body →
        (∀ doc, Means r.body doc → ∀ w ∈ membersOf doc, Harmless w) → response ≠ .failure) := by
  refine ⟨_, outcome_respond post path admitted, ?_⟩
  by_cases far : Overreaches reach r.body
  · have lost := outcome_dispatchWithin_of_overreaches far (methodsFor s around) around.errorIds
    rw [lost]
    exact ⟨fun _ => rfl, fun near => absurd far near, fun _ _ _ _ _ => rfl,
      fun _ near => absurd far near⟩
  · have answers := answers_assemble far (methodsFor s around) around.errorIds
    have delivers := delivers_responseOf (assemble_filled (Message.ofBytes r.body)
      ((methodsFor s around).dues around.errorIds 0 (Message.ofBytes r.body).members))
    rw [outcome_dispatchWithin_of_not_overreaches far]
    refine ⟨fun lost => absurd lost far, fun _ => ⟨_, answers, delivers, failure_iff delivers⟩,
      ?_, ?_⟩
    · intro doc means w member unsendable
      obtain ⟨errorId, o, due, sent⟩ := mem_of_due answers means member
      obtain ⟨id, some⟩ : ∃ id, idOf w = some id := by
        rcases unsendable with ⟨x, e, _⟩ | ⟨text, e, _⟩ | ⟨n, e, _⟩
        · exact ⟨_, e⟩
        · exact ⟨_, e⟩
        · exact ⟨_, e⟩
      obtain ⟨reply, rfl, same⟩ := id_of_due due some
      refine (failure_iff delivers).mpr ⟨reply, sent reply rfl, ?_⟩
      rw [isRenderable_reply, same, ← some, unsendable_iff.mp unsendable, Bool.false_and]
    · intro host _ harmless failed
      obtain ⟨reply, mem, lost⟩ := (failure_iff delivers).mp failed
      have sent : reply.document.isRenderable = true := by
        rcases due_of_mem answers mem with ⟨id, content⟩ | ⟨doc, means, w, member, errorId, due⟩
        · rw [isRenderable_reply, id, content]
          rfl
        · exact isRenderable_due host (harmless doc means w member) due
      rw [sent] at lost
      cases lost

/-! ## Two requests, and an infinite id -/

/-- A list of a request under an infinite id and a request under another one. -/
def infiniteId : List UInt8 :=
  Utf8.encode ("[\x7b\"jsonrpc\":\"2.0\",\"method\":\"ping\",\"id\":1e400\x7d," ++
    "\x7b\"jsonrpc\":\"2.0\",\"method\":\"ping\",\"id\":2\x7d]").toList

/-- A request for an empty object. -/
def pingUnder (id : Json) : Json :=
  .record [("jsonrpc", .ofString "2.0"), ("method", .ofString "ping"), ("id", id)]

theorem means_infiniteId :
    Means infiniteId (.arr [pingUnder (.float (.infinite false)), pingUnder (.int 2)]) :=
  document?_eq_some_iff.mp (by decide +kernel)

/-- Settings without a limit on where requests come from. -/
def openSettings : Settings :=
  ⟨"token", "127.0.0.1", 8080, none, [], .ofInt 10, 10000, "INFO"⟩

/-- A request that carries the token. -/
def posted (body : List UInt8) : HttpRequest :=
  ⟨"POST", "/mcp", none, [("authorization", "Bearer token")], body⟩

/-- A host without commands. -/
def bareHost : Surroundings :=
  ⟨fun _ => .unstartable "", ⟨0⟩, fun _ => none, fun _ => "", ""⟩

/-- The infinite id of the first request loses the reply to the second. -/
theorem respond_delivers_infinite_id :
    (posted infiniteId).method = "POST" ∧ (posted infiniteId).path = endpoint ∧
      Access.decide openSettings none (posted infiniteId).headers = .ok none ∧
      (respond Audit.auditReach openSettings bareHost (posted infiniteId)).outcome =
        .ok .failure := by
  have admitted : Access.decide openSettings (posted infiniteId).peer (posted infiniteId).headers =
      .ok none := by
    decide +kernel
  obtain ⟨response, outcome, _, _, lost, _⟩ :=
    @respond_delivers Audit.auditReach openSettings bareHost (posted infiniteId) rfl rfl none admitted
  refine ⟨rfl, rfl, admitted, ?_⟩
  rw [outcome, lost _ means_infiniteId _ List.mem_cons_self (.inl ⟨_, rfl, rfl⟩)]

end Gateway

end HostMonitor
