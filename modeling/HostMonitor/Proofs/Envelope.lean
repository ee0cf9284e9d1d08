import HostMonitor.Proofs.Documents
import HostMonitor.Proofs.Utf8
import HostMonitor.Rpc.Envelope

/-!
# What bytes and values are requests

Bytes mean a document when they spell, in UTF-8, a text that denotes it within
the limits of messages.  `InJson` is the same without the limits.  A value is a
call of a method when its fields are those of an envelope.  All this is said here
by itself, and the readers of messages are shown to keep to it.
-/

namespace HostMonitor.Rpc

open Number Text

/-! ## Documents in bytes -/

/-- The bytes are the document in UTF-8, within the limits of messages. -/
def Means (body : List UInt8) (doc : Json) : Prop :=
  ∃ cs, body = Utf8.encode cs ∧ Json.Denotes messageLimits cs doc

/-- The bytes are the document in UTF-8, within no limits. -/
def InJson (body : List UInt8) (doc : Json) : Prop :=
  ∃ cs digits depth, body = Utf8.encode cs ∧ Json.Denotes ⟨digits, depth, false⟩ cs doc

theorem document?_eq_some_iff {body : List UInt8} {doc : Json} :
    document? body = some doc ↔ Means body doc := by
  rw [document?, Option.bind_eq_some_iff]
  constructor
  · rintro ⟨cs, decoded, found⟩
    refine ⟨cs, Utf8.decode?_eq_some_iff.mp decoded, Json.read_eq_ok_iff.mp ?_⟩
    cases e : Json.read messageLimits cs with
    | ok doc' =>
        rw [e] at found
        cases found
        rfl
    | error _ =>
        rw [e] at found
        cases found
  · rintro ⟨cs, rfl, denotes⟩
    refine ⟨cs, Utf8.decode?_eq_some_iff.mpr rfl, ?_⟩
    rw [Json.read_eq_ok_iff.mpr denotes]
    rfl

theorem Means.unique {body : List UInt8} {doc doc' : Json} (means : Means body doc)
    (means' : Means body doc') : doc = doc' := by
  rw [← document?_eq_some_iff] at means means'
  exact Option.some.inj (means.symm.trans means')

/-! ## Requests -/

/-- The parameters that a field of an envelope gives. -/
inductive GivesParams : Option Json → Params → Prop where
  | missing : GivesParams none .absent
  | null : GivesParams (some .null) .absent
  | named {fields : Json.Fields} : GivesParams (some (.obj fields)) (.named fields)
  | listed {items : List Json} : GivesParams (some (.arr items)) (.listed items)

/-- Parameters are the value that gives them, and null when there is none. -/
theorem document_of_givesParams {value? : Option Json} {params : Params}
    (h : GivesParams value? params) : params.document = value?.getD .null := by
  cases h <;> rfl

/-- The fields are the envelope of the request. -/
structure Envelope (fields : Json.Fields) (r : Request) : Prop where
  version : fields.get? "jsonrpc" = some (.ofString "2.0")
  method : fields.get? "method" = some (.ofString r.method)
  named : blank r.method = false
  params : GivesParams (fields.get? "params") r.params
  id : fields.get? "id" = r.id.map RequestId.document

/-- The value is the request. -/
def IsRequest (v : Json) (r : Request) : Prop := ∃ fields, v = .obj fields ∧ Envelope fields r

/-- The id of a value that a reply can have. -/
def idOf : Json → Option RequestId
  | .obj fields => (Json.Fields.get? "id" fields).bind RequestId.ofJson?
  | _ => none

theorem ofJson?_eq_some_iff {v : Json} {id : RequestId} :
    RequestId.ofJson? v = some id ↔ v = id.document := by
  constructor
  · intro h
    cases v with
    | str t =>
        cases h
        rfl
    | int n =>
        cases h
        rfl
    | float x =>
        cases h
        rfl
    | _ => cases h
  · rintro rfl
    cases id <;> rfl

theorem params_ofJson?_eq_some_iff {v : Option Json} {params : Params} :
    Params.ofJson? v = some params ↔ GivesParams v params := by
  constructor
  · intro h
    cases v with
    | none =>
        cases h
        exact .missing
    | some v =>
        cases v with
        | null =>
            cases h
            exact .null
        | obj fields =>
            cases h
            exact .named
        | arr items =>
            cases h
            exact .listed
        | _ => cases h
  · intro h
    cases h <;> rfl

theorem methodName?_eq_some_iff {v : Option Json} {name : String} :
    methodName? v = some name ↔ v = some (.ofString name) ∧ blank name = false := by
  constructor
  · intro h
    unfold methodName? at h
    split at h
    · split at h
      · cases h
      · next filled =>
          cases h
          exact ⟨rfl, Bool.eq_false_iff.mpr filled⟩
    · cases h
  · rintro ⟨rfl, filled⟩
    simp [methodName?, Json.ofString, filled]

theorem requestOf?_eq_some_iff {fields : Json.Fields} {id : Option RequestId} {r : Request} :
    requestOf? fields id = some r ↔
      fields.get? "jsonrpc" = some (.ofString "2.0") ∧
        (fields.get? "method" = some (.ofString r.method) ∧ blank r.method = false) ∧
        GivesParams (fields.get? "params") r.params ∧ r.id = id := by
  simp only [← methodName?_eq_some_iff, ← params_ofJson?_eq_some_iff]
  obtain ⟨method, params, id'⟩ := r
  have guarded : ∀ {p : Prop} [Decidable p] {u : Unit}, guard p = some u ↔ p := by
    intro p _ u
    by_cases hp : p <;> simp [guard, hp]
  simp only [requestOf?, version, beq_iff_eq, Option.bind_eq_bind, Option.bind_eq_some_iff,
    Option.pure_def, guarded, Option.some.injEq, Request.mk.injEq]
  constructor
  · rintro ⟨_, versioned, method', hm, params', hp, rfl, rfl, rfl⟩
    exact ⟨versioned, hm, hp, rfl⟩
  · rintro ⟨versioned, hm, hp, rfl⟩
    exact ⟨(), versioned, method, hm, params, hp, rfl, rfl, rfl⟩

theorem envelope_iff {fields : Json.Fields} {r : Request} :
    Envelope fields r ↔
      requestOf? fields r.id = some r ∧ fields.get? "id" = r.id.map RequestId.document := by
  rw [requestOf?_eq_some_iff]
  constructor
  · rintro ⟨hv, hm, hn, hp, hid⟩
    exact ⟨⟨hv, ⟨hm, hn⟩, hp, rfl⟩, hid⟩
  · rintro ⟨⟨hv, ⟨hm, hn⟩, hp, _⟩, hid⟩
    exact ⟨hv, hm, hn, hp, hid⟩

/-- The id of a request is that of its value. -/
theorem idOf_eq_of_isRequest {v : Json} {r : Request} (h : IsRequest v r) : idOf v = r.id := by
  obtain ⟨fields, rfl, envelope⟩ := h
  rw [idOf, envelope.id]
  cases r.id with
  | none => rfl
  | some id => exact ofJson?_eq_some_iff.mpr rfl

/-- A value is taken for a request exactly when it is one. -/
theorem ofJson_eq_request_iff {v : Json} {r : Request} :
    Member.ofJson v = .request r ↔ IsRequest v r := by
  have ofFields : ∀ {fields : Json.Fields} {id : Option RequestId},
      Member.ofJson.ofFields fields id = .request r ↔ requestOf? fields id = some r := by
    intro fields id
    rw [Member.ofJson.ofFields]
    cases requestOf? fields id <;> simp
  have id_of : ∀ {fields : Json.Fields} {id : Option RequestId},
      requestOf? fields id = some r → r.id = id :=
    fun h => (requestOf?_eq_some_iff.mp h).2.2.2
  constructor
  · intro h
    cases v with
    | obj fields =>
        refine ⟨fields, rfl, ?_⟩
        rw [envelope_iff]
        rw [Member.ofJson] at h
        split at h
        · next absent =>
            have found := ofFields.mp h
            rw [id_of found]
            exact ⟨found, absent⟩
        · next value present =>
            split at h
            · next id hid =>
                have found := ofFields.mp h
                rw [id_of found, present, ofJson?_eq_some_iff.mp hid]
                exact ⟨found, rfl⟩
            · cases h
    | _ => cases h
  · rintro ⟨fields, rfl, envelope⟩
    obtain ⟨found, hid⟩ := envelope_iff.mp envelope
    rw [Member.ofJson, hid]
    cases e : r.id with
    | none =>
        rw [e] at found
        exact ofFields.mpr found
    | some id =>
        rw [e] at found
        dsimp only [Option.map_some]
        rw [ofJson?_eq_some_iff.mpr rfl]
        exact ofFields.mpr found

/-- Any other value is refused, under its id if it has one. -/
theorem ofJson_eq_refused {v : Json} (h : ∀ r, ¬ IsRequest v r) :
    Member.ofJson v = .refused (idOf v) := by
  cases e : Member.ofJson v with
  | request r => exact absurd (ofJson_eq_request_iff.mp e) (h r)
  | refused id =>
      have ofFields : ∀ {fields : Json.Fields} {id' : Option RequestId},
          Member.ofJson.ofFields fields id' = .refused id → id' = id := by
        intro fields id' h
        rw [Member.ofJson.ofFields] at h
        cases found : requestOf? fields id' with
        | none =>
            rw [found] at h
            cases h
            rfl
        | some r =>
            rw [found] at h
            cases h
      cases v with
      | obj fields =>
          rw [Member.ofJson] at e
          rw [idOf]
          split at e
          · next absent =>
              rw [absent, ← ofFields e]
              rfl
          · next value present =>
              rw [present, Option.bind_some]
              split at e
              · next id' hid => rw [hid, ofFields e]
              · next none =>
                  cases e
                  rw [none]
      | _ =>
          cases e
          rfl

end HostMonitor.Rpc
