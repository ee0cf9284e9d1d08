import HostMonitor.Proofs.Delivery
import HostMonitor.Proofs.ScanCap
import HostMonitor.Proofs.Signatures
import HostMonitor.Proofs.Timestamps

/-!
# Results and the schemas of results

`Conforms` says when a document conforms to a schema, keyword by keyword.  A keyword
that is not among those of the published schemas of results conforms to nothing.
`Filled` says that no declared property is left out.

The result of a tool has all properties that its schema declares, and every one of
them is of the declared type.  Two things can go wrong.  A time in a year before 1000
is written without leading zeros, and then it is no date.  The priority of an entry
is whatever number the journal has, and it may be beyond the last one that the schema
admits.  `callTool_conforms` says that nothing else goes wrong.
-/

namespace HostMonitor.Tool

open Text

/-! ## Schemas -/

/-- The value is of the type that has the name. -/
inductive OfType : String → Json → Prop where
  | null : OfType "null" .null
  | boolean {b : Bool} : OfType "boolean" (.bool b)
  | integer {n : Int} : OfType "integer" (.int n)
  | number {x : Number.Binary64} : OfType "number" (.float x)
  | whole {n : Int} : OfType "number" (.int n)
  | string {t : WireText} : OfType "string" (.str t)
  | array {items : List Json} : OfType "array" (.arr items)
  | object {fields : Json.Fields} : OfType "object" (.obj fields)

/-- The value is of the type, or of one of the types. -/
def HasType : Json → Json → Prop
  | .str (.chars name), value => OfType name value
  | .arr names, value => ∃ name, .ofString name ∈ names ∧ OfType name value
  | _, _ => False

/-- An object has all properties of the names. -/
def HasAll : Json → Json → Prop
  | .arr names, .obj fields => ∀ name, .str name ∈ names → (Json.Fields.get? name fields).isSome
  | .arr _, _ => True
  | _, _ => False

/-- An object has no properties but the declared ones, unless it may. -/
def HasOnly (properties : Option Json) : Json → Json → Prop
  | .bool false, .obj fields =>
    ∀ f ∈ fields, ∃ declared, properties = some (.obj declared) ∧ f.1 ∈ declared.map Prod.fst
  | .bool _, _ => True
  | _, _ => False

/-- A number is not below the bound.  Only integers are compared. -/
def IsAtLeast : Json → Json → Prop
  | .int least, .int n => least ≤ n
  | .int _, .float _ => False
  | .int _, _ => True
  | _, _ => False

/-- A number is not above the bound. -/
def IsAtMost : Json → Json → Prop
  | .int most, .int n => n ≤ most
  | .int _, .float _ => False
  | .int _, _ => True
  | _, _ => False

/-- A text has the format.  There is one format, that of dates and times. -/
def HasFormat : Json → Json → Prop
  | .str (.chars "date-time"), .str (.chars s) => Time.DateTime s.toList
  | .str (.chars "date-time"), .str (.broken ..) => False
  | .str (.chars "date-time"), _ => True
  | _, _ => False

/-- The value is as the keyword demands that has the argument in the schema. -/
def Demands (schema : Json.Fields) (argument value : Json) : WireText → Prop
  | .chars "type" => HasType argument value
  | .chars "required" => HasAll argument value
  | .chars "additionalProperties" => HasOnly (schema.get? "properties") argument value
  | .chars "minimum" => IsAtLeast argument value
  | .chars "maximum" => IsAtMost argument value
  | .chars "format" => HasFormat argument value
  | .chars "description" => True
  | .chars "default" => True
  | _ => False

mutual

/-- The value conforms to the schema. -/
def Conforms : Json → Json → Prop
  | .obj schema, value => ConformsAll schema schema value
  | _, _ => False

/-- The value is as all of the keywords demand, which are those of the schema or some
of them. -/
def ConformsAll (schema : Json.Fields) : Json.Fields → Json → Prop
  | [], _ => True
  | (keyword, argument) :: more, value =>
    (if keyword = .chars "properties" then
        ∀ fields, value = .obj fields → ConformsProperties argument fields
      else if keyword = .chars "items" then
        ∀ items, value = .arr items → ∀ v ∈ items, Conforms argument v
      else Demands schema argument value keyword) ∧ ConformsAll schema more value

/-- The fields conform to the schemas of the properties. -/
def ConformsProperties : Json → Json.Fields → Prop
  | .obj properties, fields => ConformsEach properties fields
  | _, _ => False

def ConformsEach : Json.Fields → Json.Fields → Prop
  | [], _ => True
  | (name, schema) :: more, fields =>
    (∀ v, fields.get? name = some v → Conforms schema v) ∧ ConformsEach more fields

end

/-- The member of an object. -/
def member? (v : Json) (name : String) : Option Json :=
  match v with
  | .obj fields => Json.Fields.get? name fields
  | _ => none

/-- The value has all properties that the schema declares, in their order, and so have
its parts. -/
inductive Filled : Json → Json → Prop where
  | scalar {schema v : Json} : v.isScalar = true → Filled schema v
  | list {schema item : Json} {items : List Json} : member? schema "items" = some item →
      (∀ v ∈ items, Filled item v) → Filled schema (.arr items)
  | object {schema : Json} {properties fields : Json.Fields} :
      member? schema "properties" = some (.obj properties) →
      properties.map Prod.fst = fields.map Prod.fst →
      (∀ (i : Nat) (name : WireText) (property v : Json), properties[i]? = some (name, property) →
        fields[i]? = some (name, v) → Filled property v) →
      Filled schema (.obj fields)

/-! ## Keywords -/

section

variable {schema more fields properties : Json.Fields} {keyword name : WireText}
  {argument property value : Json}

@[simp] theorem conforms_obj : Conforms (.obj schema) value ↔ ConformsAll schema schema value := by
  rw [Conforms]

@[simp] theorem conformsAll_nil : ConformsAll schema [] value := by
  rw [ConformsAll]
  trivial

@[simp] theorem conformsAll_cons :
    ConformsAll schema ((keyword, argument) :: more) value ↔
      (if keyword = .chars "properties" then
          ∀ fields, value = .obj fields → ConformsProperties argument fields
        else if keyword = .chars "items" then
          ∀ items, value = .arr items → ∀ v ∈ items, Conforms argument v
        else Demands schema argument value keyword) ∧ ConformsAll schema more value := by
  rw [ConformsAll]

@[simp] theorem conformsProperties_obj :
    ConformsProperties (.obj properties) fields ↔ ConformsEach properties fields := by
  rw [ConformsProperties]

@[simp] theorem conformsEach_nil : ConformsEach [] fields := by
  rw [ConformsEach]
  trivial

@[simp] theorem conformsEach_cons :
    ConformsEach ((name, property) :: properties) fields ↔
      (∀ v, fields.get? name = some v → Conforms property v) ∧ ConformsEach properties fields := by
  rw [ConformsEach]

@[simp] theorem demands_type :
    Demands schema argument value (.chars "type") ↔ HasType argument value := .rfl

@[simp] theorem demands_required :
    Demands schema argument value (.chars "required") ↔ HasAll argument value := .rfl

@[simp] theorem demands_additionalProperties :
    Demands schema argument value (.chars "additionalProperties") ↔
      HasOnly (schema.get? "properties") argument value := .rfl

@[simp] theorem demands_minimum :
    Demands schema argument value (.chars "minimum") ↔ IsAtLeast argument value := .rfl

@[simp] theorem demands_maximum :
    Demands schema argument value (.chars "maximum") ↔ IsAtMost argument value := .rfl

@[simp] theorem demands_format :
    Demands schema argument value (.chars "format") ↔ HasFormat argument value := .rfl

@[simp] theorem hasType_ofString {name : String} :
    HasType (.ofString name) value ↔ OfType name value := .rfl

end

/-! ## Schemas of values -/

theorem ofType_null_iff {v : Json} : OfType "null" v ↔ v = .null := by
  constructor
  · intro h
    generalize e : "null" = name at h
    cases h with
    | null => rfl
    | _ => simp at e
  · rintro rfl
    exact .null

theorem conforms_ofType_iff {name : String} {v : Json} :
    Conforms (ofType name []) v ↔ OfType name v := by
  simp [ofType, Json.record]

/-- The value is of the type, or it is null. -/
theorem hasType_orNull_iff {name : String} {v : Json} :
    HasType (.ofStrings [name, "null"]) v ↔ OfType name v ∨ v = .null := by
  rw [← ofType_null_iff]
  constructor
  · rintro ⟨_, mem, type⟩
    simp only [List.map_cons, List.map_nil, List.mem_cons, List.not_mem_nil, or_false, Json.ofString,
      Json.str.injEq, WireText.chars.injEq] at mem
    rcases mem with rfl | rfl
    · exact .inl type
    · exact .inr type
  · rintro (type | type)
    · exact ⟨_, List.mem_cons_self, type⟩
    · exact ⟨_, List.mem_cons_of_mem _ List.mem_cons_self, type⟩

theorem conforms_orNull_iff {name : String} {v : Json} :
    Conforms (orNull name []) v ↔ OfType name v ∨ v = .null := by
  simp [orNull, Json.record, hasType_orNull_iff]

theorem conforms_listOf_iff {item : Json} {items : List Json} :
    Conforms (listOf item []) (.arr items) ↔ ∀ v ∈ items, Conforms item v := by
  simp [listOf, ofType, Json.record, OfType.array]

theorem conforms_count (n : Nat) : Conforms count (.ofNat n) := by
  simp [count, ofType, Json.record, Json.ofNat, OfType.integer, IsAtLeast]

theorem conforms_formatted_iff {s : String} :
    Conforms (formatted "date-time") (.ofString s) ↔ Time.DateTime s.toList := by
  have text : OfType "string" (.ofString s) := .string
  have format : HasFormat (.ofString "date-time") (.ofString s) ↔ Time.DateTime s.toList := .rfl
  simp [formatted, ofType, Json.record, text, format]

theorem conforms_ofString (s : String) : Conforms (ofType "string" []) (.ofString s) :=
  conforms_ofType_iff.mpr .string

theorem conforms_bool (b : Bool) : Conforms (ofType "boolean" []) (.bool b) :=
  conforms_ofType_iff.mpr .boolean

theorem conforms_ofString? (s? : Option String) : Conforms (orNull "string" []) (.ofString? s?) := by
  cases s? with
  | none => exact conforms_orNull_iff.mpr (.inr rfl)
  | some s => exact conforms_orNull_iff.mpr (.inl .string)

theorem conforms_ofText? (t? : Option WireText) : Conforms (orNull "string" []) (.ofText? t?) := by
  cases t? with
  | none => exact conforms_orNull_iff.mpr (.inr rfl)
  | some t => exact conforms_orNull_iff.mpr (.inl .string)

theorem conforms_ofInt? (n? : Option Int) : Conforms (orNull "integer" []) (.ofInt? n?) := by
  cases n? with
  | none => exact conforms_orNull_iff.mpr (.inr rfl)
  | some n => exact conforms_orNull_iff.mpr (.inl .integer)

/-- A number within bounds, or none. -/
theorem conforms_bounded_iff {least most : Int} {n? : Option Int} :
    Conforms (orNull "integer" [("minimum", .int least), ("maximum", .int most)]) (.ofInt? n?) ↔
      ∀ n, n? = some n → least ≤ n ∧ n ≤ most := by
  cases n? with
  | none => simp [orNull, Json.record, Json.ofInt?, hasType_orNull_iff, IsAtLeast, IsAtMost]
  | some n =>
      simp [orNull, Json.record, Json.ofInt?, hasType_orNull_iff, OfType.integer, IsAtLeast, IsAtMost]

theorem filled_ofString (schema : Json) (s : String) : Filled schema (.ofString s) := .scalar rfl

theorem filled_bool (schema : Json) (b : Bool) : Filled schema (.bool b) := .scalar rfl

theorem filled_ofNat (schema : Json) (n : Nat) : Filled schema (.ofNat n) := .scalar rfl

theorem filled_ofString? (schema : Json) (s? : Option String) : Filled schema (.ofString? s?) := by
  cases s? with
  | none => exact .scalar rfl
  | some s => exact .scalar rfl

theorem filled_ofText? (schema : Json) (t? : Option WireText) : Filled schema (.ofText? t?) := by
  cases t? with
  | none => exact .scalar rfl
  | some t => exact .scalar rfl

theorem filled_ofInt? (schema : Json) (n? : Option Int) : Filled schema (.ofInt? n?) := by
  cases n? with
  | none => exact .scalar rfl
  | some n => exact .scalar rfl

/-! ## Schemas of objects -/

section

variable {properties fields : List (String × Json)}

/-- The fields of an object with keys of characters. -/
def keyed (fields : List (String × Json)) : Json.Fields :=
  fields.map fun (k, v) => (WireText.chars k, v)

theorem keyed_nil : keyed [] = [] := rfl

theorem keyed_cons (key : String) (v : Json) :
    keyed ((key, v) :: fields) = (.chars key, v) :: keyed fields := rfl

theorem get?_keyed_self (key : String) (v : Json) :
    (keyed ((key, v) :: fields)).get? key = some v := by
  rw [keyed_cons, Json.Fields.get?, if_pos rfl]

theorem get?_keyed_of_ne {key name : String} (v : Json) (h : key ≠ name) :
    (keyed ((key, v) :: fields)).get? name = (keyed fields).get? name := by
  rw [keyed_cons, Json.Fields.get?, if_neg fun e => h (WireText.chars.inj e)]

theorem isSome_get?_keyed {key : String} (h : key ∈ fields.map Prod.fst) :
    ((keyed fields).get? key).isSome := by
  induction fields with
  | nil => cases h
  | cons f fields ih =>
      obtain ⟨name, v⟩ := f
      by_cases here : name = key
      · rw [here, get?_keyed_self]
        rfl
      · rw [get?_keyed_of_ne v here]
        exact ih ((List.mem_cons.mp h).resolve_left fun e => here e.symm)

theorem keys_keyed (fields : List (String × Json)) :
    (keyed fields).map Prod.fst = (fields.map Prod.fst).map WireText.chars := by
  rw [keyed, List.map_map, List.map_map]
  rfl

/-- A field with another key does not matter. -/
theorem conformsEach_of_not_mem {key : String} {v : Json} (h : key ∉ properties.map Prod.fst) :
    ConformsEach (keyed properties) (keyed ((key, v) :: fields)) ↔
      ConformsEach (keyed properties) (keyed fields) := by
  induction properties with
  | nil => simp [keyed_nil]
  | cons p properties ih =>
      obtain ⟨name, property⟩ := p
      rw [List.map_cons, List.mem_cons, not_or] at h
      rw [keyed_cons name, conformsEach_cons, conformsEach_cons, get?_keyed_of_ne v h.1, ih h.2]

/-- Fields with the keys of the properties conform one by one. -/
theorem conformsEach_iff (keys : properties.map Prod.fst = fields.map Prod.fst)
    (once : (properties.map Prod.fst).Nodup) :
    ConformsEach (keyed properties) (keyed fields) ↔
      List.Forall₂ (fun p f => Conforms p.2 f.2) properties fields := by
  induction properties generalizing fields with
  | nil =>
      cases fields with
      | nil => simp [keyed_nil]
      | cons f fields => cases keys
  | cons p properties ih =>
      cases fields with
      | nil => cases keys
      | cons f fields =>
          obtain ⟨name, property⟩ := p
          obtain ⟨name', v⟩ := f
          rw [List.map_cons, List.map_cons, List.cons.injEq] at keys
          rw [List.map_cons, List.nodup_cons] at once
          obtain ⟨rfl, keys⟩ := keys
          rw [keyed_cons name property, conformsEach_cons, get?_keyed_self,
            conformsEach_of_not_mem once.1,
            ih keys once.2, List.forall₂_cons]
          simp

/-- An object with the declared keys conforms when its fields do. -/
theorem conforms_closedObject_iff {required : List String}
    (keys : properties.map Prod.fst = fields.map Prod.fst)
    (once : (properties.map Prod.fst).Nodup)
    (known : ∀ name ∈ required, name ∈ properties.map Prod.fst) :
    Conforms (closedObject properties required) (.record fields) ↔
      List.Forall₂ (fun p f => Conforms p.2 f.2) properties fields := by
  have all : HasAll (.ofStrings required) (.obj (keyed fields)) := by
    intro name named
    obtain ⟨key, mem, same⟩ := List.mem_map.mp named
    cases same
    exact isSome_get?_keyed (keys ▸ known key mem)
  have only : HasOnly (some (.obj (keyed properties))) (.bool false) (.obj (keyed fields)) := by
    intro f mem
    refine ⟨_, rfl, ?_⟩
    rw [keys_keyed, keys, ← keys_keyed]
    exact List.mem_map_of_mem mem
  rw [← conformsEach_iff keys once]
  show Conforms (.obj (keyed [("type", .ofString "object"), ("properties", .obj (keyed properties)),
    ("required", .ofStrings required), ("additionalProperties", .bool false)]))
    (.obj (keyed fields)) ↔ _
  simp [keyed_cons, keyed_nil, Json.Fields.get?, OfType.object, all, only]

/-- An object with the declared keys is filled when its fields are. -/
theorem filled_closedObject {required : List String}
    (keys : properties.map Prod.fst = fields.map Prod.fst)
    (each : List.Forall₂ (fun p f => Filled p.2 f.2) properties fields) :
    Filled (closedObject properties required) (.record fields) := by
  have same : (keyed properties).map Prod.fst = (keyed fields).map Prod.fst := by
    rw [keys_keyed, keys, ← keys_keyed]
  refine @Filled.object _ (keyed properties) (keyed fields) rfl same ?_
  intro i name property v hp hv
  simp only [keyed, List.getElem?_map, Option.map_eq_some_iff, Prod.mk.injEq] at hp hv
  obtain ⟨p, hp, _, rfl⟩ := hp
  obtain ⟨f, hv, _, rfl⟩ := hv
  obtain ⟨hi, rfl⟩ := List.getElem?_eq_some_iff.mp hp
  obtain ⟨hi', rfl⟩ := List.getElem?_eq_some_iff.mp hv
  exact each.get hi hi'

theorem filled_listOf {item : Json} {items : List Json} (each : ∀ v ∈ items, Filled item v) :
    Filled (listOf item []) (.arr items) := .list rfl each

end

end HostMonitor.Tool

namespace HostMonitor.Query

open Journal Number Service Text Time Tool

/-! ## Lists of services -/

theorem conforms_serviceUnit (u : ServiceUnit) : Conforms serviceSchema u.document := by
  rw [serviceSchema, ServiceUnit.document,
    conforms_closedObject_iff (by rfl) (by decide) (by decide)]
  simp [List.forall₂_cons, conforms_ofString, conforms_ofString?, conforms_ofInt?]

/-- A list of services conforms when the time at which it was made can be written. -/
theorem conforms_servicesPage_iff (page : ServicesPage) :
    Conforms servicesOutput page.document ↔ DateTime page.generatedAt.timestamp.toList := by
  rw [servicesOutput, ServicesPage.document,
    conforms_closedObject_iff (by rfl) (by decide) (by decide)]
  simp [List.forall₂_cons, conforms_listOf_iff, conforms_serviceUnit, conforms_count, conforms_bool,
    conforms_formatted_iff]

/-! ## Lists of entries -/

theorem conforms_entry_iff (e : Entry) :
    Conforms entrySchema e.document ↔
      DateTime e.time.timestamp.toList ∧ ∀ n, e.priority = some n → 0 ≤ n ∧ n ≤ 7 := by
  rw [entrySchema, Entry.document, conforms_closedObject_iff (by rfl) (by decide) (by decide)]
  simp [List.forall₂_cons, conforms_formatted_iff, conforms_ofText?, conforms_ofInt?,
    conforms_bounded_iff]

theorem conforms_window_iff (w : Window) :
    Conforms windowSchema (.record [("start_utc", .ofString w.start.timestamp),
        ("end_utc", .ofString w.stop.timestamp)]) ↔
      DateTime w.start.timestamp.toList ∧ DateTime w.stop.timestamp.toList := by
  rw [windowSchema, conforms_closedObject_iff (by rfl) (by decide) (by decide)]
  simp [List.forall₂_cons, conforms_formatted_iff]

/-- A list of entries conforms when its times can be written and no priority is
beyond the last one. -/
theorem conforms_logsPage_iff (page : LogsPage) :
    Conforms logsOutput page.document ↔
      (∀ e ∈ page.entries, DateTime e.time.timestamp.toList ∧
        ∀ n, e.priority = some n → 0 ≤ n ∧ n ≤ 7) ∧
      DateTime page.generatedAt.timestamp.toList ∧
      DateTime page.window.start.timestamp.toList ∧
      DateTime page.window.stop.timestamp.toList := by
  rw [logsOutput, LogsPage.document, conforms_closedObject_iff (by rfl) (by decide) (by decide)]
  simp [List.forall₂_cons, conforms_listOf_iff, conforms_entry_iff, conforms_count, conforms_bool,
    conforms_formatted_iff, conforms_window_iff]

/-! ## Lists are filled -/

theorem filled_serviceUnit (u : ServiceUnit) : Filled serviceSchema u.document := by
  refine filled_closedObject (by rfl) ?_
  simp [filled_ofString, filled_ofString?, filled_ofInt?]

theorem filled_servicesPage (page : ServicesPage) : Filled servicesOutput page.document := by
  have services : Filled (listOf serviceSchema []) (.arr (page.services.map ServiceUnit.document)) :=
    filled_listOf (List.forall_mem_map.mpr fun u _ => filled_serviceUnit u)
  refine filled_closedObject (by rfl) ?_
  simp [services, filled_ofNat, filled_bool, filled_ofString]

theorem filled_entry (e : Entry) : Filled entrySchema e.document := by
  refine filled_closedObject (by rfl) ?_
  simp [filled_ofString, filled_ofText?, filled_ofInt?]

theorem filled_logsPage (page : LogsPage) : Filled logsOutput page.document := by
  have entries : Filled (listOf entrySchema []) (.arr (page.entries.map Entry.document)) :=
    filled_listOf (List.forall_mem_map.mpr fun e _ => filled_entry e)
  have window : Filled windowSchema (.record [("start_utc", .ofString page.window.start.timestamp),
      ("end_utc", .ofString page.window.stop.timestamp)]) := by
    refine filled_closedObject (by rfl) ?_
    simp [filled_ofString]
  refine filled_closedObject (by rfl) ?_
  simp [entries, window, filled_ofNat, filled_bool, filled_ofString]

/-! ## What is known of lists -/

/-- A number in digits is not negative. -/
theorem nonneg_of_int? {cs : List Char} {n : Int} (digits : ∀ c ∈ cs, isDigitLike c = true)
    (h : int? cs = some n) : 0 ≤ n := by
  have hyphen : isDigitLike '-' = false := rfl
  -- No sign stands in front, since what is left without blanks is digits as well.
  have inside : ∀ c ∈ trimBy isNumberBlank cs, isDigitLike c = true :=
    fun c mem => digits c ((trimBy_sublist _ _).subset mem)
  have unsigned : (takeSign (trimBy isNumberBlank cs)).1 = false := by
    unfold takeSign
    split
    · next rest same =>
        have bad := inside '-' (by rw [same]; exact List.mem_cons_self)
        rw [hyphen] at bad
        cases bad
    · rfl
    · rfl
  simp only [int?, unsigned, Option.bind_eq_bind, Option.bind_eq_some_iff] at h
  obtain ⟨ds, _, h⟩ := h
  split at h
  · cases h
  · cases h
    exact Int.natCast_nonneg _

/-- The priorities of rows are not negative. -/
theorem priority_nonneg {output : String} {rows : List Entry} (h : ofOutput output = .ok rows)
    {e : Entry} (mem : e ∈ rows) {n : Int} (given : e.priority = some n) : 0 ≤ n := by
  obtain ⟨_, priority, _⟩ := numbers_of_mem h mem
  rw [given] at priority
  cases priority with
  | number _ numeric read => exact nonneg_of_int? numeric.2 read

/-- The entries of a list are rows that fit, apart from their messages. -/
theorem exists_row_of_mem {q : LogsQuery} {now : Instant} {cap : Option Int} {rows : List Entry}
    {e : Entry} (h : e ∈ (q.page now cap rows).entries) :
    ∃ row ∈ rows, q.fits row = true ∧ e.time = row.time ∧ e.priority = row.priority := by
  obtain ⟨row, mem, fits, rfl⟩ := LogsQuery.exists_of_mem_page h
  exact ⟨row, mem, fits, rfl, rfl⟩

/-- A list of services was made now. -/
theorem generatedAt_of_listServices {s : Sources} {now : Instant} {r : ServicesRequest}
    {page : ServicesPage} (h : (listServices s now r).outcome = .ok page) :
    page.generatedAt = now := by
  obtain ⟨q, _, h⟩ := Run.exists_of_outcome_bind h
  obtain ⟨units, _, h⟩ := Run.exists_of_outcome_bind h
  cases h
  rfl

/-- A list of entries from the journal conforms unless it was made before the year
1000, its window starts before that year, or the priority of an entry is beyond the
last one. -/
theorem conforms_listLogs_iff {s : Sources} {machine : Host.Machine} {allowance : Host.Allowance}
    {most : Int} (reads : s.logs = Journal.read machine allowance most) {now : Instant}
    (clock : now ≤ Instant.last) {r : LogsRequest} {page : LogsPage}
    (h : (listLogs s now r).outcome = .ok page) :
    Conforms logsOutput page.document ↔
      fourDigits ≤ now ∧ fourDigits ≤ page.window.start ∧
        ∀ e ∈ page.entries, ∀ n, e.priority = some n → n ≤ 7 := by
  obtain ⟨q, rows, accepted, read, rfl⟩ := exists_of_listLogs h
  obtain ⟨start, stop, before⟩ := window_eq_ok (LogsRequest.query_eq_ok accepted).1
  obtain ⟨_, stop⟩ := timestamp_of_instant stop
  have last := le_last_of_timestamp stop
  rw [reads] at read
  obtain ⟨output, _, read⟩ := Run.exists_of_outcome_bind read
  rw [conforms_logsPage_iff]
  simp only [dateTime_timestamp_iff]
  constructor
  · rintro ⟨entries, made, first, _⟩
    exact ⟨made.1, first.1, fun e mem n given => ((entries e mem).2 n given).2⟩
  · rintro ⟨made, first, urgent⟩
    have start_le : q.window.start ≤ Instant.last := Int.le_trans (Int.le_of_lt before) last
    have le_stop : fourDigits ≤ q.window.stop := Int.le_trans first (Int.le_of_lt before)
    refine ⟨fun e mem => ?_, ⟨made, clock⟩, ⟨first, start_le⟩, le_stop, last⟩
    obtain ⟨row, given, fits, time, priority⟩ := exists_row_of_mem mem
    -- The entry lies in the window, so its year has four digits as well.
    have inside := ((LogsQuery.fits_iff accepted row).mp fits).inWindow _
      (LogsRequest.query_eq_ok accepted).1
    rw [← time] at inside
    refine ⟨⟨Int.le_trans first inside.1, Int.le_trans inside.2 last⟩, fun n number => ?_⟩
    exact ⟨priority_nonneg read given (priority ▸ number), urgent e mem n number⟩

end HostMonitor.Query

namespace HostMonitor.Gateway

open Host Query Rpc Settings Text Time Tool

/-! ## Results of tools -/

/-- The list of tools gives the schema for the results of the tool with the name. -/
def Publishes (ms : Methods) (name : WireText) (schema : Json) : Prop :=
  ∃ listing tools tool, (ms.call ⟨"tools/list", .absent, none⟩).outcome = .ok listing ∧
    member? listing "tools" = some (.arr tools) ∧ tool ∈ tools ∧
    member? tool "name" = some (.str name) ∧ member? tool "outputSchema" = some schema

theorem publishes_of_mem {c : Catalog} {t : ToolEntry} (h : t ∈ c.tools) :
    Publishes (methods c) t.name t.outputSchema :=
  ⟨_, _, t.document, rfl, rfl, List.mem_map_of_mem h, rfl, rfl⟩

/-- What a tool is run for is what it gives for arguments that fit. -/
theorem exists_of_execute {c : Catalog} {name : WireText} {arguments : Json.Fields} {value : Json}
    (h : (c.execute name arguments).outcome = .ok value) :
    ∃ t ∈ c.tools, name = .chars t.name ∧ ∃ given, t.signature.check arguments = .ok given ∧
      (t.handler given).outcome = .ok value := by
  rw [Catalog.execute] at h
  split at h
  · cases h
  · next t found =>
      obtain ⟨given, fits, handled⟩ := Run.exists_of_outcome_bind h
      have same := List.find?_some found
      refine ⟨t, List.mem_of_find?_eq_some found, by simpa using same, given, ?_, handled⟩
      cases checked : t.signature.check arguments with
      | ok given' =>
          rw [checked] at fits
          cases fits
          rfl
      | error report =>
          rw [checked] at fits
          cases fits

theorem get?_of_filledText? {params : Json.Fields} {name : String} {t : WireText}
    (h : filledText? params name = some t) : params.get? name = some (.str t) := by
  rw [filledText?] at h
  split at h
  · next found =>
      split at h
      · cases h
      · cases h
        exact found
  · cases h

/-- The arguments that a tool is called with. -/
def argumentsOf (params : Json.Fields) : Json.Fields :=
  match params.get? "arguments" with
  | some (.obj arguments) => arguments
  | _ => []

/-- A call that ends well has the result of a tool. -/
theorem exists_of_callTool {c : Catalog} {params : Json.Fields} {result : Json}
    (h : (callTool c params).outcome = .ok result) :
    ∃ t ∈ c.tools, ∃ given value, params.get? "name" = some (.ofString t.name) ∧
      t.signature.check (argumentsOf params) = .ok given ∧
      (t.handler given).outcome = .ok value ∧ member? result "structuredContent" = some value := by
  have called : ∃ name, filledText? params "name" = some name ∧
      (c.callTool name (argumentsOf params)).outcome = .ok result := by
    rw [argumentsOf]
    rw [callTool] at h
    split at h
    · cases h
    · next name filled =>
        refine ⟨name, filled, ?_⟩
        split at h
        · next none => rwa [none]
        · next null => rwa [null]
        · next arguments given => rwa [given]
        · cases h
  obtain ⟨name, filled, h⟩ := called
  obtain ⟨value, executed, h⟩ := Run.exists_of_outcome_bind h
  obtain ⟨t, mem, rfl, given, checked, handled⟩ := exists_of_execute executed
  obtain ⟨text, _, made⟩ := Run.exists_of_outcome_bind h
  cases made
  exact ⟨t, mem, given, value, get?_of_filledText? filled, checked, handled, rfl⟩

/-- The result of a tool that ends well conforms to the published schema and leaves no
declared property out, with these exceptions: a clock before the year 1000, a window
that starts before that year, and an entry with a priority beyond the last one. -/
theorem callTool_conforms (s : Settings) (around : Surroundings)
    (clock : around.now.inRange = true) {params : Json.Fields} {id : Option RequestId}
    {result : Json}
    (h : ((methodsFor s around).call ⟨"tools/call", .named params, id⟩).outcome = .ok result) :
    ∃ name schema value, params.get? "name" = some (.ofString name) ∧
      Publishes (methodsFor s around) name schema ∧
      member? result "structuredContent" = some value ∧ Filled schema value ∧
      ((name = "list_services" ∧ (Conforms schema value ↔ fourDigits ≤ around.now)) ∨
        name = "list_logs" ∧ ∃ given page, logsSignature.check (argumentsOf params) = .ok given ∧
          (listLogs (sources s around.machine around.charNames) around.now
            (logsRequest given)).outcome = .ok page ∧
          value = page.document ∧
          (Conforms schema value ↔ fourDigits ≤ around.now ∧ fourDigits ≤ page.window.start ∧
            ∀ e ∈ page.entries, ∀ n, e.priority = some n → n ≤ 7)) := by
  obtain ⟨t, mem, given, value, named, checked, handled, content⟩ := exists_of_callTool h
  have last := (Journal.inRange_iff.mp clock).2
  refine ⟨t.name, t.outputSchema, value, named, publishes_of_mem mem, content, ?_⟩
  simp only [catalog, List.mem_cons, List.not_mem_nil, or_false] at mem
  rcases mem with rfl | rfl
  · obtain ⟨page, listed, made⟩ := Run.exists_of_outcome_bind handled
    cases made
    refine ⟨filled_servicesPage page, .inl ⟨rfl, ?_⟩⟩
    show Conforms servicesOutput page.document ↔ _
    rw [conforms_servicesPage_iff, dateTime_timestamp_iff, generatedAt_of_listServices listed]
    exact ⟨And.left, fun made => ⟨made, last⟩⟩
  · obtain ⟨page, listed, made⟩ := Run.exists_of_outcome_bind handled
    cases made
    exact ⟨filled_logsPage page, .inr ⟨rfl, given, page, checked, listed, rfl,
      conforms_listLogs_iff rfl last listed⟩⟩

/-! ## An hour with one entry -/

/-- A record with a priority, as it is printed. -/
def graded (priority : String) : String :=
  "\x7b\"__REALTIME_TIMESTAMP\":\"1772150400000001\",\"PRIORITY\":\"" ++ priority ++ "\"\x7d"

/-- Its entry. -/
def gradedEntry (priority : Int) : Journal.Entry :=
  ⟨⟨1772150400000001⟩, none, some priority, none, none, none, none⟩

/-- A host that prints one text, with a clock. -/
def printingHost (text : String) : Surroundings :=
  ⟨printing text, ⟨1772154000000000⟩, fun _ => none, fun _ => "", ""⟩

def hourArguments : Json.Fields :=
  keyed [("start_utc", .ofString "2026-02-27T00:00:00Z"),
    ("end_utc", .ofString "2026-02-27T01:00:00Z")]

/-- The parameters of a call for the entries of an hour. -/
def hourParams : Json.Fields :=
  keyed [("name", .ofString "list_logs"), ("arguments", .obj hourArguments)]

/-- The query that it is for. -/
def hourQuery : LogsQuery :=
  ⟨⟨⟨1772150400000000⟩, ⟨1772154000000000⟩⟩, none, none, [], .descending, none, standardEntries⟩

/-- The list that is made of the rows of the hour. -/
def hourPage (rows : List Journal.Entry) : LogsPage :=
  hourQuery.page ⟨1772154000000000⟩ (some openSettings.journalMost) rows

theorem check_hourArguments : logsSignature.check hourArguments = .ok hourArguments := by
  have known : ∀ key ∈ ["start_utc", "end_utc"], key ∈ logsSignature.map Argument.name := by decide
  refine check_eq_ok_iff.mpr ⟨fun key mem => ?_, rfl, rfl⟩
  obtain ⟨name, here, rfl⟩ : ∃ name ∈ ["start_utc", "end_utc"], WireText.chars name = key :=
    List.mem_map.mp mem
  exact ⟨name, known name here, rfl⟩

theorem outcome_hour {text : String} {rows : List Journal.Entry}
    (read : Journal.ofOutput text = .ok rows) :
    (listLogs (sources openSettings (printing text) fun _ => none) ⟨1772154000000000⟩
      (logsRequest hourArguments)).outcome = .ok (hourPage rows) := by
  have ask : logsRequest hourArguments =
      .within "2026-02-27T00:00:00Z" "2026-02-27T01:00:00Z" := rfl
  rw [ask]
  exact outcome_listLogs (LogsRequest.query_within window_hour)
    ((Run.outcome_bind_of_ok (outcome_run_printing rfl text _) _).trans read)

/-- A tool gives what it makes of arguments that fit. -/
theorem outcome_execute {c : Catalog} {name : WireText} {t : ToolEntry}
    {arguments given : Json.Fields} {value : Json} (found : c.tool? name = some t)
    (fits : t.signature.check arguments = .ok given)
    (handled : (t.handler given).outcome = .ok value) :
    (c.execute name arguments).outcome = .ok value := by
  rw [Catalog.execute, found]
  exact (Run.outcome_bind_of_ok (by rw [fits]; rfl) _).trans handled

theorem outcome_hourCall {text : String} {rows : List Journal.Entry}
    (read : Journal.ofOutput text = .ok rows) :
    ∃ result, ((methodsFor openSettings (printingHost text)).call
        ⟨"tools/call", .named hourParams, none⟩).outcome = .ok result ∧
      member? result "structuredContent" = some (hourPage rows).document := by
  have handled : ((logsTool (sources openSettings (printing text) fun _ => none)
      ⟨1772154000000000⟩).handler hourArguments).outcome = .ok (hourPage rows).document :=
    Run.outcome_bind_of_ok (outcome_hour read) _
  have executed := @outcome_execute (catalog (sources openSettings (printing text) fun _ => none)
    ⟨1772154000000000⟩) (.chars "list_logs") _ _ _ _ rfl check_hourArguments handled
  exact ⟨_, Catalog.outcome_callTool executed, rfl⟩

/-- The records are read as they are printed. -/
theorem ofOutput_graded : Journal.ofOutput (graded "3") = .ok [gradedEntry 3] ∧
    Journal.ofOutput (graded "9") = .ok [gradedEntry 9] := by
  have read : ∀ {priority : String} {fields : Json.Fields} {n : Int},
      Text.lines (graded priority).toList = [(graded priority).toList] →
      Json.read Journal.lineLimits (graded priority).toList = .ok (.obj fields) →
      Journal.ofRecord fields = .ok (some (gradedEntry n)) →
      Journal.ofOutput (graded priority) = .ok [gradedEntry n] := by
    intro priority fields n whole reads gives
    rw [Journal.ofOutput_eq, whole, Journal.entriesOf, List.mapM_cons,
      Journal.ofLine_of_denotes (Json.read_eq_ok_iff.mp reads), gives]
    rfl
  have three : Json.read Journal.lineLimits (graded "3").toList =
      .ok (.obj (keyed [("__REALTIME_TIMESTAMP", .ofString "1772150400000001"),
        ("PRIORITY", .ofString "3")])) := by
    decide +kernel
  have nine : Json.read Journal.lineLimits (graded "9").toList =
      .ok (.obj (keyed [("__REALTIME_TIMESTAMP", .ofString "1772150400000001"),
        ("PRIORITY", .ofString "9")])) := by
    decide +kernel
  exact ⟨read (by decide +kernel) three rfl, read (by decide +kernel) nine rfl⟩

/-- A priority that the schema admits. -/
theorem callTool_conforms_hour :
    (printingHost (graded "3")).now.inRange = true ∧
      ∃ result schema value, ((methodsFor openSettings (printingHost (graded "3"))).call
          ⟨"tools/call", .named hourParams, none⟩).outcome = .ok result ∧
        Publishes (methodsFor openSettings (printingHost (graded "3"))) "list_logs" schema ∧
        member? result "structuredContent" = some value ∧ Filled schema value ∧
        Conforms schema value := by
  obtain ⟨result, ends, -⟩ := outcome_hourCall ofOutput_graded.1
  have clock : (printingHost (graded "3")).now.inRange = true := rfl
  obtain ⟨name, schema, value, named, published, content, filled, about⟩ :=
    callTool_conforms openSettings (printingHost (graded "3")) clock ends
  have same : name = "list_logs" := by
    have found : hourParams.get? "name" = some (.ofString "list_logs") := rfl
    rw [found] at named
    simpa [Json.ofString] using named.symm
  subst same
  rcases about with ⟨other, _⟩ | ⟨_, given, page, checked, listed, _, conforms⟩
  · exact absurd other (by decide)
  · have arguments : argumentsOf hourParams = hourArguments := rfl
    rw [arguments, check_hourArguments] at checked
    cases checked
    rw [show (printingHost (graded "3")).machine = printing (graded "3") from rfl] at listed
    cases (outcome_hour ofOutput_graded.1).symm.trans listed
    refine ⟨clock, result, schema, value, ends, published, content, filled, conforms.mpr ?_⟩
    refine ⟨by decide, by decide, fun e mem n urgent => ?_⟩
    obtain ⟨row, given, _, _, priority⟩ := exists_row_of_mem mem
    rw [List.mem_singleton] at given
    rw [priority, given] at urgent
    cases urgent
    decide

/-- A priority that the schema does not admit. -/
theorem hourCall_beyond_last :
    ∃ result value, ((methodsFor openSettings (printingHost (graded "9"))).call
        ⟨"tools/call", .named hourParams, none⟩).outcome = .ok result ∧
      Publishes (methodsFor openSettings (printingHost (graded "9"))) "list_logs" logsOutput ∧
      member? result "structuredContent" = some value ∧ ¬ Conforms logsOutput value := by
  obtain ⟨result, ends, content⟩ := outcome_hourCall ofOutput_graded.2
  have offered : logsTool (sources openSettings (printing (graded "9")) fun _ => none)
      ⟨1772154000000000⟩ ∈ (catalog (sources openSettings (printing (graded "9")) fun _ => none)
        ⟨1772154000000000⟩).tools :=
    List.mem_cons_of_mem _ List.mem_cons_self
  refine ⟨result, _, ends, publishes_of_mem offered, content, fun conforms => ?_⟩
  rw [conforms_logsPage_iff] at conforms
  have listed : (hourPage [gradedEntry 9]).entries = [gradedEntry 9] := by
    show (([gradedEntry 9].filterMap _).mergeSort _).take _ = _
    have selected : [gradedEntry 9].filterMap hourQuery.select = [gradedEntry 9] := rfl
    rw [selected, List.mergeSort_singleton]
    rfl
  exact absurd ((conforms.1 _ (listed ▸ List.mem_cons_self)).2 9 rfl).2 (by decide)

end HostMonitor.Gateway
