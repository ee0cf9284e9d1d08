import HostMonitor.Proofs.Envelope
import HostMonitor.Rpc.Dispatch

/-!
# Which values are requests

The grammar of requests is said of a value by itself: which fields it must have, and
what may stand in those that it may have.  A value is taken for a request if and only if
it is in the grammar.  The request holds what the value holds, and any other value is
refused under its id, if that could be the id of a request.

`RequestFields` speaks of four keys and of no others, and a member depends on nothing
else.
-/

namespace HostMonitor.Rpc

open Number Text

/-! ## The grammar -/

/-- Values that can be ids: texts, and numbers of both kinds. -/
inductive IsId : Json → Prop
  | text (t : WireText) : IsId (.str t)
  | int (n : Int) : IsId (.int n)
  | float (x : Binary64) : IsId (.float x)

/-- Values that can be parameters. -/
inductive IsParams : Json → Prop
  | null : IsParams .null
  | named (fields : Json.Fields) : IsParams (.obj fields)
  | listed (items : List Json) : IsParams (.arr items)

/-- The fields of a request. -/
structure RequestFields (fields : Json.Fields) : Prop where
  version : fields.get? "jsonrpc" = some (.ofString "2.0")
  /-- The method is a text with something in it besides blanks. -/
  method : ∃ name, fields.get? "method" = some (.ofString name) ∧
    ∃ c ∈ name.toList, isBlank c = false
  params : ∀ v, fields.get? "params" = some v → IsParams v
  id : ∀ v, fields.get? "id" = some v → IsId v

/-- The value is an object with the fields of a request. -/
inductive InGrammar : Json → Prop
  | obj {fields : Json.Fields} : RequestFields fields → InGrammar (.obj fields)

/-- The request holds what stands in the fields. -/
structure Request.Carries (r : Request) (fields : Json.Fields) : Prop where
  method : fields.get? "method" = some (.ofString r.method)
  params : r.params.document = (fields.get? "params").getD .null
  id : r.id.map RequestId.document = fields.get? "id"
  notification : r.isNotification = true ↔ fields.get? "id" = none

/-- The id in the reply to a value that is refused. -/
inductive EchoesId : Json → Json → Prop
  | given {fields : Json.Fields} {id : Json} : fields.get? "id" = some id → IsId id →
      EchoesId (.obj fields) id
  | none {v : Json} : (∀ (fields : Json.Fields) (id : Json), v = .obj fields →
      fields.get? "id" = some id → ¬ IsId id) → EchoesId v .null

/-! ## Fields one by one -/

theorem isId_iff {v : Json} : IsId v ↔ ∃ id, RequestId.ofJson? v = some id := by
  constructor
  · intro h
    cases h with
    | text t => exact ⟨.text t, rfl⟩
    | int n => exact ⟨.int n, rfl⟩
    | float x => exact ⟨.float x, rfl⟩
  · rintro ⟨id, h⟩
    rw [ofJson?_eq_some_iff.mp h]
    cases id with
    | text t => exact .text t
    | int n => exact .int n
    | float x => exact .float x

theorem exists_givesParams_iff {v : Option Json} :
    (∃ params, GivesParams v params) ↔ ∀ w, v = some w → IsParams w := by
  constructor
  · rintro ⟨params, h⟩ w rfl
    cases h with
    | null => exact .null
    | named => exact .named _
    | listed => exact .listed _
  · intro each
    cases v with
    | none => exact ⟨_, .missing⟩
    | some w =>
        cases each w rfl with
        | null => exact ⟨_, .null⟩
        | named fields => exact ⟨_, .named⟩
        | listed items => exact ⟨_, .listed⟩

theorem exists_id_iff {v : Option Json} :
    (∃ id : Option RequestId, v = id.map RequestId.document) ↔ ∀ w, v = some w → IsId w := by
  constructor
  · rintro ⟨id, rfl⟩ w same
    cases id with
    | none => cases same
    | some id =>
        cases same
        exact isId_iff.mpr ⟨id, ofJson?_eq_some_iff.mpr rfl⟩
  · intro each
    cases v with
    | none => exact ⟨none, rfl⟩
    | some w =>
        obtain ⟨id, found⟩ := isId_iff.mp (each w rfl)
        exact ⟨some id, congrArg some (ofJson?_eq_some_iff.mp found)⟩

theorem blank_eq_false_iff {s : String} :
    blank s = false ↔ ∃ c ∈ s.toList, isBlank c = false := by
  rw [blank, List.all_eq_false]
  simp only [Bool.not_eq_true]

/-! ## Values -/

theorem inGrammar_iff {v : Json} : InGrammar v ↔ ∃ r, IsRequest v r := by
  constructor
  · rintro ⟨version, ⟨name, method, filled⟩, params, id⟩
    obtain ⟨ps, gives⟩ := exists_givesParams_iff.mpr params
    obtain ⟨id', same⟩ := exists_id_iff.mpr id
    exact ⟨⟨name, ps, id'⟩, _, rfl, version, method, blank_eq_false_iff.mpr filled, gives, same⟩
  · rintro ⟨r, fields, rfl, envelope⟩
    exact .obj ⟨envelope.version, ⟨r.method, envelope.method, blank_eq_false_iff.mp envelope.named⟩,
      exists_givesParams_iff.mp ⟨_, envelope.params⟩, exists_id_iff.mp ⟨_, envelope.id⟩⟩

theorem carries_of_envelope {fields : Json.Fields} {r : Request} (h : Envelope fields r) :
    r.Carries fields where
  method := h.method
  params := document_of_givesParams h.params
  id := h.id.symm
  notification := by
    rw [Request.isNotification, h.id, Option.isNone_iff_eq_none, Option.map_eq_none_iff]

/-- A value that is refused has the id of its field, or none. -/
theorem echoesId_idOf (v : Json) : EchoesId v (idDocument (idOf v)) := by
  by_cases given : ∃ (fields : Json.Fields) (id : Json),
      v = .obj fields ∧ fields.get? "id" = some id ∧ IsId id
  · obtain ⟨fields, id, rfl, found, isId⟩ := given
    obtain ⟨id', read⟩ := isId_iff.mp isId
    rw [idOf, found, Option.bind_some, read, idDocument, ← ofJson?_eq_some_iff.mp read]
    exact .given found isId
  · have none : idOf v = none := by
      rw [Option.eq_none_iff_forall_ne_some]
      intro id' named
      cases v with
      | obj fields =>
          obtain ⟨id, found, read⟩ := Option.bind_eq_some_iff.mp named
          exact given ⟨fields, id, rfl, found, isId_iff.mpr ⟨id', read⟩⟩
      | _ => cases named
    rw [none]
    exact .none fun fields id same found isId => given ⟨fields, id, same, found, isId⟩

/-- A member depends on four fields and on no others. -/
theorem ofJson_congr {fields fields' : Json.Fields}
    (same : ∀ key ∈ ["jsonrpc", "method", "params", "id"],
      fields.get? (.chars key) = fields'.get? (.chars key)) :
    Member.ofJson (.obj fields) = Member.ofJson (.obj fields') := by
  simp only [List.forall_mem_cons] at same
  obtain ⟨version, method, params, id, -⟩ := same
  have request : ∀ id, requestOf? fields id = requestOf? fields' id := fun id => by
    rw [requestOf?, requestOf?, version, method, params]
  simp only [Member.ofJson, Member.ofJson.ofFields, id, request]

/-- A value is taken for a request if and only if it is in the grammar, and the request
carries what its fields hold.  Any other value is refused: the reply says so under the id
of the value, or under null.  Fields with other keys do not matter. -/
theorem ofJson_grammar (v : Json) :
    ((∃ r, Member.ofJson v = .request r) ↔ InGrammar v) ∧
      (∀ r, Member.ofJson v = .request r → ∃ fields, v = .obj fields ∧ r.Carries fields) ∧
      (¬ InGrammar v → ∃ id reply, Member.ofJson v = .refused id ∧ EchoesId v (idDocument id) ∧
        reply.document = .record [("jsonrpc", .ofString "2.0"), ("id", idDocument id),
          ("error", .record [("code", .int (-32600)), ("message", .ofString "Invalid Request")])] ∧
        ∀ (ms : Methods) (reach : Nat) (errorId : String),
          ms.replyWithin reach errorId (.ofJson v) = .done (some reply)) ∧
      ∀ fields fields' : Json.Fields, v = .obj fields →
        (∀ key ∈ ["jsonrpc", "method", "params", "id"],
          fields.get? (.chars key) = fields'.get? (.chars key)) →
        Member.ofJson (.obj fields') = Member.ofJson v := by
  refine ⟨?_, ?_, ?_, ?_⟩
  · simp only [inGrammar_iff, ofJson_eq_request_iff]
  · intro r taken
    obtain ⟨fields, same, envelope⟩ := ofJson_eq_request_iff.mp taken
    exact ⟨fields, same, carries_of_envelope envelope⟩
  · intro outside
    have refused := ofJson_eq_refused fun r is => outside (inGrammar_iff.mpr ⟨r, is⟩)
    refine ⟨idOf v, ⟨idOf v, .error .refused⟩, refused, echoesId_idOf v, rfl, ?_⟩
    intro ms reach errorId
    rw [refused]
    rfl
  · rintro fields fields' rfl same
    exact (ofJson_congr same).symm

end HostMonitor.Rpc
