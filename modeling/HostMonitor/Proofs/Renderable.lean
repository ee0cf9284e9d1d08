import HostMonitor.Gateway.Http
import HostMonitor.Proofs.Hidden
import HostMonitor.Proofs.HostNumbers
import HostMonitor.Proofs.Selection

/-!
# What the gateway says can be sent

A reply can carry whatever is made of strings, short integers, truth values and what a
client or the host has said, as long as that can be sent itself.  This is followed from
the parts of documents through the arguments of queries to the tools, the resources and
the methods.

The units of the host can be sent, and so can the entries of its journal that hold no
broken text, unless there are so many that their number is too long.  The failures of
the host are kept from clients, so nothing depends on them.
-/

namespace HostMonitor

open Number Text

/-! ## Parts of documents -/

namespace Json

theorem areRenderable_eq_all : ∀ items : List Json, areRenderable items = items.all isRenderable
  | [] => rfl
  | item :: more => by rw [areRenderable, List.all_cons, areRenderable_eq_all more]

theorem fieldsRenderable_eq_all :
    ∀ fields : Fields, fieldsRenderable fields = fields.all fun f => sendable f.1 && isRenderable f.2
  | [] => rfl
  | (key, value) :: more => by rw [fieldsRenderable, List.all_cons, fieldsRenderable_eq_all more]

@[simp] theorem sendable_chars (s : String) : sendable (.chars s) = true := rfl

@[simp] theorem isRenderable_ofString (s : String) : isRenderable (ofString s) = true := rfl

theorem isRenderable_int_iff {n : Int} :
    isRenderable (.int n) = true ↔ digitCount n ≤ digitLimit := by
  rw [isRenderable, decide_eq_true_eq]

@[simp] theorem isRenderable_small {n : Int} (small : n.natAbs < 10 ^ 9) :
    isRenderable (.int n) = true :=
  isRenderable_int_iff.mpr
    (((@digitCount_le_iff n 9 (by decide)).mpr small).trans (by decide))

/-- A number that is not further from zero than one that can be sent can be sent. -/
theorem isRenderable_of_le {m n : Nat} (le : m ≤ n) (h : isRenderable (ofNat n) = true) :
    isRenderable (ofNat m) = true :=
  isRenderable_int_iff.mpr ((@digitCount_le m n le).trans (isRenderable_int_iff.mp h))

@[simp] theorem isRenderable_bool (b : Bool) : isRenderable (.bool b) = true := rfl

@[simp] theorem isRenderable_null : isRenderable .null = true := rfl

@[simp] theorem isRenderable_str (t : WireText) : isRenderable (.str t) = sendable t := rfl

@[simp] theorem isRenderable_ofString? (s : Option String) : isRenderable (ofString? s) = true := by
  cases s <;> rfl

theorem isRenderable_ofText?_iff {t : Option WireText} :
    isRenderable (ofText? t) = true ↔ ∀ text, t = some text → sendable text = true := by
  cases t with
  | none => exact ⟨fun _ => nofun, fun _ => rfl⟩
  | some text => exact ⟨fun h _ e => Option.some.inj e ▸ h, fun h => h text rfl⟩

theorem isRenderable_ofInt?_iff {n : Option Int} :
    isRenderable (ofInt? n) = true ↔ ∀ m, n = some m → digitCount m ≤ digitLimit := by
  cases n with
  | none => exact ⟨fun _ => nofun, fun _ => rfl⟩
  | some m =>
      exact ⟨fun h _ e => Option.some.inj e ▸ isRenderable_int_iff.mp h,
        fun h => isRenderable_int_iff.mpr (h m rfl)⟩

@[simp] theorem isRenderable_arr (items : List Json) :
    isRenderable (.arr items) = items.all isRenderable := areRenderable_eq_all items

@[simp] theorem isRenderable_obj (fields : Fields) :
    isRenderable (.obj fields) = fields.all fun f => sendable f.1 && isRenderable f.2 :=
  fieldsRenderable_eq_all fields

@[simp] theorem isRenderable_ofStrings (items : List String) :
    isRenderable (ofStrings items) = true := by
  simp [ofStrings]

@[simp] theorem isRenderable_record (fields : List (String × Json)) :
    isRenderable (record fields) = fields.all fun f => isRenderable f.2 := by
  simp only [record, isRenderable_obj, List.all_map]
  rfl

/-- The value of a field of an object that can be sent can be sent. -/
theorem isRenderable_of_get? {fields : Fields}
    (h : isRenderable (.obj fields) = true) {key : WireText}
    {value : Json} (found : fields.get? key = some value) : isRenderable value = true := by
  induction fields with
  | nil => cases found
  | cons field rest ih =>
      obtain ⟨k, v⟩ := field
      simp only [isRenderable_obj, List.all_cons, Bool.and_eq_true] at h ih
      rw [Fields.get?] at found
      split at found
      · cases found
        exact h.1.2
      · exact ih h.2 found

/-- The documents of a list can be sent, and so can their number. -/
structure SendableRows (rows : List Json) : Prop where
  each : ∀ row ∈ rows, isRenderable row = true
  count : isRenderable (ofNat rows.length) = true

/-- A text can be sent if and only if all of its code points are characters. -/
theorem sendable_iff {t : WireText} : sendable t = true ↔ ∀ p ∈ t.points, p.isValidChar := by
  cases t with
  | chars s =>
      refine iff_of_true rfl fun p mem => ?_
      obtain ⟨c, _, rfl⟩ := List.mem_map.mp mem
      exact c.valid
  | broken points lone =>
      refine iff_of_false Bool.false_ne_true fun valid => ?_
      have whole := List.all_eq_true.mpr fun p mem => decide_eq_true (valid p mem)
      exact Bool.false_ne_true (lone.symm.trans whole)

end Json

/-- No text of the entry is broken. -/
def Journal.Entry.Unbroken (e : Journal.Entry) : Prop :=
  ∀ text, some text ∈ [e.unit, e.hostname, e.message, e.cursor] → Json.sendable text = true

/-! ## Faults -/

/-- What a client is told about the fault can be sent. -/
def Fault.Tellable (f : Fault) : Prop :=
  ∀ report, f.public? = some report → report.document.isRenderable = true

/-- The report can be sent. -/
def Report.Tellable (r : Report) : Prop := r.document.isRenderable = true

theorem Report.tellable_of {kind : ReportKind} {message code : String} {details : Json.Fields}
    (h : Json.isRenderable (.obj details) = true) :
    (Report.of kind message code details).Tellable := by
  simp only [Tellable, document, Json.isRenderable_record, List.all_cons, List.all_nil,
    Json.isRenderable_ofString, Bool.and_true, Bool.true_and]
  exact h

theorem Fault.tellable_reported {r : Report} (h : r.Tellable) : (Fault.reported r).Tellable := by
  intro report e
  rw [public?] at e
  split at e
  · cases e
  · cases e
    exact h

/-- A fault that is kept from clients tells nothing. -/
theorem Fault.tellable_of_hidden {f : Fault} (h : f.public? = none) : f.Tellable := by
  intro report e
  rw [h] at e
  cases e

theorem Run.ends_ofChecked {α : Type} {P : α → Prop} {c : Checked α}
    (h : Ends P Report.Tellable c) : Ends P Fault.Tellable (ofChecked c).outcome := by
  cases c with
  | ok a => exact h
  | error r => exact Fault.tellable_reported h

/-! ## Arguments of queries -/

namespace Query

/-- The text can be sent, if there is one. -/
def SendableText (given : Option WireText) : Prop :=
  ∀ text, given = some text → Json.sendable text = true

theorem tellable_argument {message code : String} {details : Json.Fields}
    (h : Json.isRenderable (.obj details) = true) :
    (Report.argument message code details).Tellable :=
  Report.tellable_of h

theorem ends_limit {given : Json} (h : given.isRenderable = true) (standard most : Int) :
    Ends Whatever Report.Tellable (limit given standard most) := by
  have refused : Ends Whatever Report.Tellable (limit.refused given most) :=
    tellable_argument (by simp [h])
  unfold limit
  split
  · trivial
  · split
    · trivial
    · exact refused
  · exact refused

theorem ends_serviceState {given : Option WireText} (h : SendableText given) :
    Ends Whatever Report.Tellable (serviceState given) := by
  unfold serviceState
  split
  · trivial
  · next text =>
      have refused : Ends Whatever Report.Tellable (serviceState.refused text) :=
        tellable_argument (by simp [h text rfl])
      split
      · split
        · trivial
        · exact refused
      · exact refused

theorem ends_threshold {given : Json} (h : given.isRenderable = true) :
    Ends Whatever Report.Tellable (threshold given) := by
  have refused : Ends Whatever Report.Tellable (threshold.refused given) :=
    tellable_argument (by simp [h])
  unfold threshold
  split
  · trivial
  · split
    · trivial
    · exact refused
  · split
    · trivial
    · exact refused
  · exact refused

theorem ends_unitName {given : WireText} (h : Json.sendable given = true) :
    Ends Whatever Report.Tellable (unitName given) := by
  have refused : Ends Whatever Report.Tellable (unitName.refused given) :=
    tellable_argument (by simp [h])
  unfold unitName
  split
  · split
    · trivial
    · exact refused
  · exact refused

theorem ends_unitFilter {given : Option WireText} (h : SendableText given) :
    Ends Whatever Report.Tellable (unitFilter given) := by
  unfold unitFilter
  split
  · trivial
  · next text => exact (ends_unitName (h text rfl)).map fun _ _ => trivial

theorem ends_order {given : Option WireText} (h : SendableText given) :
    Ends Whatever Report.Tellable (order given) := by
  unfold order
  split
  · trivial
  · split
    · trivial
    · trivial
    · refine tellable_argument ?_
      cases given with
      | none => rfl
      | some text => simp [h text rfl]

theorem ends_instant {given : Option WireText} (h : SendableText given) :
    Ends Whatever Report.Tellable (instant given) := by
  unfold instant
  split
  · trivial
  · next text =>
      split
      · trivial
      · split
        · trivial
        · exact tellable_argument (by simp [h text rfl])

theorem isRenderable_echo {given : Option WireText} (h : SendableText given) :
    (echo given).isRenderable = true := by
  cases given with
  | none => rfl
  | some text => exact h text rfl

theorem ends_window {start stop : Option WireText} (first : SendableText start)
    (last : SendableText stop) (large : Bool) :
    Ends Whatever Report.Tellable (window start stop large) := by
  rw [window]
  refine (ends_instant first).bind fun a _ => (ends_instant last).bind fun b _ => ?_
  split
  · split
    · exact tellable_argument (by simp [isRenderable_echo first, isRenderable_echo last])
    · split
      · exact tellable_argument rfl
      · trivial
  · exact tellable_argument rfl

theorem ends_matcher (names : Pattern.CharNames) {given : Option WireText}
    (h : SendableText given) : Ends Whatever Fault.Tellable (matcher names given) := by
  unfold matcher
  split
  · trivial
  · next text =>
      dsimp only
      split
      · trivial
      · split
        · trivial
        · split
          · trivial
          · exact Fault.tellable_reported (tellable_argument (by simp [h text rfl]))
          · exact Fault.tellable_of_hidden rfl

/-! ## Queries -/

/-- The request holds only what can be sent. -/
structure LogsRequest.Sendable (r : LogsRequest) : Prop where
  start : SendableText r.start
  stop : SendableText r.stop
  priority : r.priority.isRenderable = true
  unit : SendableText r.unit
  grep : SendableText r.grep
  excludeUnits : ∀ text ∈ r.excludeUnits, Json.sendable text = true
  order : SendableText r.order
  limit : r.limit.isRenderable = true

/-- The request holds only what can be sent. -/
structure ServicesRequest.Sendable (r : ServicesRequest) : Prop where
  state : SendableText r.state
  limit : r.limit.isRenderable = true

theorem sendableText_none : SendableText none := fun _ h => nomatch h

theorem sendableText_chars (s : String) : SendableText (some (.chars s)) := by
  rintro text ⟨⟩
  rfl

theorem sendable_within (start stop : String) : (LogsRequest.within start stop).Sendable where
  start := sendableText_chars start
  stop := sendableText_chars stop
  priority := rfl
  unit := sendableText_none
  grep := sendableText_none
  excludeUnits := fun _ h => nomatch h
  order := sendableText_none
  limit := rfl

theorem ends_servicesQuery {r : ServicesRequest} (h : r.Sendable) :
    Ends Whatever Report.Tellable r.query := by
  rw [ServicesRequest.query]
  exact (ends_serviceState h.state).bind fun _ _ =>
    (ends_limit h.limit _ _).bind fun _ _ => trivial

theorem ends_logsQuery (names : Pattern.CharNames) {r : LogsRequest} (h : r.Sendable) :
    Ends Whatever Fault.Tellable (r.query names) := by
  have checked : ∀ {α : Type} {c : Checked α}, Ends Whatever Report.Tellable c →
      Ends Whatever Fault.Tellable (LogsRequest.query.checked c) :=
    fun h => h.mapError fun _ => Fault.tellable_reported
  have excluded : Ends Whatever Report.Tellable (r.excludeUnits.mapM unitName) :=
    (Ends.mapM fun text mem => ends_unitName (h.excludeUnits text mem)).imp
      (fun _ _ => trivial) fun _ h => h
  rw [LogsRequest.query]
  refine (checked (ends_window h.start h.stop _)).bind fun _ _ => ?_
  refine (checked (ends_threshold h.priority)).bind fun _ _ => ?_
  refine (checked (ends_unitFilter h.unit)).bind fun _ _ => ?_
  refine (checked excluded).bind fun _ _ => ?_
  refine (checked (ends_order h.order)).bind fun _ _ => ?_
  refine (ends_matcher names h.grep).bind fun _ _ => ?_
  exact (checked (ends_limit h.limit _ _)).bind fun _ _ => trivial

/-- What the sources tell can be sent. -/
structure Sources.Tellable (s : Sources) : Prop where
  units : Ends (fun units => Json.SendableRows (units.map Service.ServiceUnit.document))
    Fault.Tellable s.units.outcome
  logs : ∀ w threshold unit, Ends (fun rows => Json.SendableRows (rows.map Journal.Entry.document))
    Fault.Tellable (s.logs w threshold unit).outcome

theorem isRenderable_servicesPage (q : ServicesQuery) (now : Time.Instant)
    {units : List Service.ServiceUnit}
    (rows : Json.SendableRows (units.map Service.ServiceUnit.document)) :
    (q.page now units).document.isRenderable = true := by
  have each : ∀ u ∈ (q.page now units).services, u.document.isRenderable = true := by
    intro u mem
    have selected := List.mem_mergeSort.mp (List.mem_of_mem_take mem)
    exact rows.each _ (List.mem_map_of_mem (List.mem_of_mem_filter selected))
  have selected : (q.page now units).total ≤ units.length := by
    rw [ServicesQuery.page, List.length_mergeSort]
    exact List.length_filter_le _ _
  have returned : (q.page now units).returned ≤ (q.page now units).total :=
    List.length_take_le' _ _
  have count := rows.count
  rw [List.length_map] at count
  have total := Json.isRenderable_of_le selected count
  simpa [ServicesPage.document, total, Json.isRenderable_of_le returned total] using each

/-- A message in clean form can be sent when the message can. -/
theorem sendable_cleaned {message text : WireText} (h : Json.sendable message = true)
    (clean : cleaned message = some text) : Json.sendable text = true := by
  rw [cleaned] at clean
  split at clean
  · cases clean
  · cases clean
    rw [Json.sendable_iff, WireText.points_ofPoints]
    intro p mem
    obtain ⟨point, there, rfl⟩ := List.mem_map.mp ((trimBy_sublist _ _).subset mem)
    split
    · exact .inl (by decide)
    · exact Json.sendable_iff.mp h point there

theorem isRenderable_withCleanMessage {e : Journal.Entry} (h : e.document.isRenderable = true) :
    (withCleanMessage e).document.isRenderable = true := by
  simp only [Journal.Entry.document, Json.isRenderable_record, List.all_cons, List.all_nil,
    Bool.and_true, Bool.and_eq_true, withCleanMessage] at h ⊢
  obtain ⟨time, unit, priority, hostname, pid, told, cursor⟩ := h
  refine ⟨time, unit, priority, hostname, pid, ?_, cursor⟩
  rw [Json.isRenderable_ofText?_iff] at told ⊢
  intro text clean
  obtain ⟨message, given, clean⟩ := Option.bind_eq_some_iff.mp clean
  exact sendable_cleaned (told message given) clean

theorem isRenderable_logsPage (q : LogsQuery) (now : Time.Instant) (cap : Option Int)
    {rows : List Journal.Entry} (told : Json.SendableRows (rows.map Journal.Entry.document)) :
    (q.page now cap rows).document.isRenderable = true := by
  have each : ∀ e ∈ (q.page now cap rows).entries, e.document.isRenderable = true := by
    intro e mem
    obtain ⟨row, given, _, rfl⟩ := LogsQuery.exists_of_mem_page mem
    exact isRenderable_withCleanMessage (told.each _ (List.mem_map_of_mem given))
  have count := told.count
  rw [List.length_map] at count
  have returned : (q.page now cap rows).returned ≤ rows.length := by
    refine (List.length_take_le' _ _).trans ?_
    rw [List.length_mergeSort]
    exact List.length_filterMap_le _ _
  have scanned : (q.page now cap rows).scanned = rows.length := rfl
  simpa [LogsPage.document, scanned, count, Json.isRenderable_of_le returned count] using each

theorem ends_listServices {s : Sources} (hs : s.Tellable) (now : Time.Instant)
    {r : ServicesRequest} (h : r.Sendable) :
    Ends (fun page => page.document.isRenderable = true) Fault.Tellable
      (listServices s now r).outcome := by
  have asked : Ends (fun units => Json.SendableRows (units.map Service.ServiceUnit.document))
      Fault.Tellable s.askUnits.outcome := by
    rw [Sources.askUnits, Run.outcome_bind_of_ok (Run.outcome_cause _)]
    exact hs.units
  rw [listServices]
  exact (Run.ends_ofChecked (ends_servicesQuery h)).andThen fun q _ =>
    asked.andThen fun _ rows => isRenderable_servicesPage q now rows

theorem ends_listLogs {s : Sources} (hs : s.Tellable) (now : Time.Instant)
    {r : LogsRequest} (h : r.Sendable) :
    Ends (fun page => page.document.isRenderable = true) Fault.Tellable
      (listLogs s now r).outcome := by
  have asked : ∀ w threshold unit,
      Ends (fun rows => Json.SendableRows (rows.map Journal.Entry.document)) Fault.Tellable
        (s.askLogs w threshold unit).outcome := by
    intro w threshold unit
    rw [Sources.askLogs, Run.outcome_bind_of_ok (Run.outcome_cause _)]
    exact hs.logs w threshold unit
  rw [listLogs]
  refine (ends_logsQuery _ h).andThen fun q _ => (asked _ _ _).andThen fun rows told => ?_
  rw [Run.outcome_bind_of_ok (outcome_noteScanLimit _ _)]
  exact isRenderable_logsPage q now s.scanLimit told

theorem ends_recentLogs {s : Sources} (hs : s.Tellable) (now : Time.Instant) :
    Ends (fun page => page.document.isRenderable = true) Fault.Tellable
      (recentLogs s now).outcome := by
  rw [recentLogs]
  split
  · next start _ =>
      have sendable := sendable_within start.timestamp now.timestamp
      -- With the request left open, its query is not run when the two types are compared.
      generalize LogsRequest.within start.timestamp now.timestamp = r at sendable ⊢
      exact ends_listLogs hs now sendable
  · exact Fault.tellable_of_hidden rfl

end Query

/-! ## Tools and resources -/

namespace Tool

@[simp] theorem isRenderable_ofType (name : String) (more : List (String × Json)) :
    (ofType name more).isRenderable = more.all fun f => f.2.isRenderable := by
  simp [ofType]

@[simp] theorem isRenderable_orNull (name : String) (more : List (String × Json)) :
    (orNull name more).isRenderable = more.all fun f => f.2.isRenderable := by
  simp [orNull]

@[simp] theorem isRenderable_closedObject (properties : List (String × Json))
    (required : List String) :
    (closedObject properties required).isRenderable =
      properties.all fun f => f.2.isRenderable := by
  simp [closedObject]

@[simp] theorem isRenderable_described (text : String) : (described text).2.isRenderable = true :=
  rfl

theorem isRenderable_of_given? {a : Argument} {fields : Json.Fields} {value : Json}
    (h : Json.isRenderable (.obj fields) = true) (given : given? a fields = some value) :
    value.isRenderable = true := by
  rw [given?] at given
  split at given
  · cases given
  · cases given
  · next found =>
      cases given
      exact Json.isRenderable_of_get? h found

/-- The arguments that pass a check can be sent when all arguments can. -/
theorem ends_check (s : Signature) {fields : Json.Fields}
    (h : Json.isRenderable (.obj fields) = true) :
    Ends (fun given => Json.isRenderable (.obj given) = true) Report.Tellable
      (s.check fields) := by
  rw [Signature.check]
  split
  · exact Report.tellable_of rfl
  · dsimp only
    split
    · exact Report.tellable_of (by simp)
    · split
      · next report wrong =>
          obtain ⟨a, _, e⟩ := List.exists_of_findSome?_eq_some wrong
          obtain ⟨value, _, e⟩ := Option.bind_eq_some_iff.mp e
          obtain ⟨objection, _, rfl⟩ := Option.map_eq_some_iff.mp e
          exact Report.tellable_of (by simp)
      · show Json.isRenderable (.obj (givenValues s fields)) = true
        rw [Json.isRenderable_obj, List.all_eq_true]
        intro field mem
        obtain ⟨a, _, e⟩ := List.mem_filterMap.mp mem
        obtain ⟨value, given, rfl⟩ := Option.map_eq_some_iff.mp e
        simp [isRenderable_of_given? h given]

/-- The tool tells what can be sent about arguments that can be sent. -/
def ToolEntry.Tellable (t : ToolEntry) : Prop :=
  ∀ given : Json.Fields, Json.isRenderable (.obj given) = true →
    Ends (fun result => result.isRenderable = true) Fault.Tellable (t.handler given).outcome

/-- What the catalog tells can be sent. -/
structure Catalog.Tellable (c : Catalog) : Prop where
  tools : ∀ t ∈ c.tools, t.Tellable
  resources : ∀ r ∈ c.resources,
    Ends (fun result => result.isRenderable = true) Fault.Tellable r.reader.outcome
  schemas : ∀ t ∈ c.tools, t.inputSchema.isRenderable = true ∧ t.outputSchema.isRenderable = true

/-- A document without a text is kept from clients. -/
theorem ends_dumped (document : Json) : Ends Whatever Fault.Tellable (dumped document) := by
  rw [dumped]
  split
  · trivial
  · exact Fault.tellable_of_hidden rfl

theorem ends_resultText (summary : Option (Json → String)) (result : Json) :
    Ends Whatever Fault.Tellable (resultText summary result) := by
  cases summary with
  | some summary => trivial
  | none => exact ends_dumped result

theorem ends_callTool {c : Catalog} (hc : c.Tellable) {name : WireText}
    (hn : Json.sendable name = true) {arguments : Json.Fields}
    (h : Json.isRenderable (.obj arguments) = true) :
    Ends (fun result => result.isRenderable = true) Fault.Tellable
      (c.callTool name arguments).outcome := by
  have executed : Ends (fun result => result.isRenderable = true) Fault.Tellable
      (c.execute name arguments).outcome := by
    rw [Catalog.execute]
    split
    · exact Fault.tellable_reported (Report.tellable_of (by simp [hn]))
    · next t found =>
        exact (Run.ends_ofChecked (ends_check _ h)).andThen fun given hg =>
          hc.tools t (List.mem_of_find?_eq_some found) given hg
  rw [Catalog.callTool]
  refine executed.andThen fun result hr => (ends_resultText _ _).andThen fun text _ => ?_
  show Json.isRenderable _ = true
  simp [toolResult, hr]

theorem ends_readResource {c : Catalog} (hc : c.Tellable) {uri : WireText}
    (hu : Json.sendable uri = true) :
    Ends (fun result => result.isRenderable = true) Fault.Tellable
      (c.readResource uri).outcome := by
  rw [Catalog.readResource]
  split
  · exact Fault.tellable_reported (Report.tellable_of (by simp [hu]))
  · next r found =>
      refine (hc.resources r (List.mem_of_find?_eq_some found)).andThen fun document _ =>
        (ends_dumped document).andThen fun text _ => ?_
      show Json.isRenderable _ = true
      simp [resourceResult, hu]

theorem isRenderable_toolDocument {c : Catalog} (hc : c.Tellable) :
    c.toolDocument.isRenderable = true := by
  rw [Catalog.toolDocument, Json.isRenderable_arr, List.all_map, List.all_eq_true]
  intro t mem
  simp [ToolEntry.document, ToolEntry.card, ToolCard.document, hc.schemas t mem]

theorem isRenderable_resourceDocument (c : Catalog) : c.resourceDocument.isRenderable = true := by
  simp [Catalog.resourceDocument, ResourceEntry.document, ResourceEntry.card,
    ResourceCard.document]

end Tool

/-! ## Methods -/

namespace Gateway

open Query Rpc Tool

theorem sendable_textArgument {given : Json.Fields} (h : Json.isRenderable (.obj given) = true)
    (name : String) : SendableText (textArgument name given) := by
  intro text e
  rw [textArgument] at e
  split at e
  · next found =>
      cases e
      exact Json.isRenderable_of_get? h found
  · cases e

theorem isRenderable_valueArgument {given : Json.Fields}
    (h : Json.isRenderable (.obj given) = true) (name : String) :
    (valueArgument name given).isRenderable = true := by
  rw [valueArgument]
  cases found : Json.Fields.get? name given with
  | none => rfl
  | some value => exact Json.isRenderable_of_get? h found

theorem sendable_textsArgument {given : Json.Fields}
    (h : Json.isRenderable (.obj given) = true) (name : String) :
    ∀ text ∈ textsArgument name given, Json.sendable text = true := by
  intro text mem
  rw [textsArgument] at mem
  split at mem
  · next items found =>
      have all := Json.isRenderable_of_get? h found
      rw [Json.isRenderable_arr, List.all_eq_true] at all
      obtain ⟨item, inside, e⟩ := List.mem_filterMap.mp mem
      split at e
      · cases e
        exact all _ inside
      · cases e
  · cases mem

theorem sendable_servicesRequest {given : Json.Fields}
    (h : Json.isRenderable (.obj given) = true) : (servicesRequest given).Sendable where
  state := sendable_textArgument h _
  limit := isRenderable_valueArgument h _

theorem sendable_logsRequest {given : Json.Fields}
    (h : Json.isRenderable (.obj given) = true) : (logsRequest given).Sendable where
  start := sendable_textArgument h _
  stop := sendable_textArgument h _
  priority := isRenderable_valueArgument h _
  unit := sendable_textArgument h _
  grep := sendable_textArgument h _
  excludeUnits := sendable_textsArgument h _
  order := sendable_textArgument h _
  limit := isRenderable_valueArgument h _

theorem tellable_servicesTool {s : Sources} (hs : s.Tellable) (now : Time.Instant) :
    (servicesTool s now).Tellable := fun _ h =>
  (ends_listServices hs now (sendable_servicesRequest h)).andThen fun _ h => h

theorem tellable_logsTool {s : Sources} (hs : s.Tellable) (now : Time.Instant) :
    (logsTool s now).Tellable := fun _ h =>
  (ends_listLogs hs now (sendable_logsRequest h)).andThen fun _ h => h

theorem isRenderable_schemas (s : Sources) (now : Time.Instant) :
    ∀ t ∈ [servicesTool s now, logsTool s now],
      t.inputSchema.isRenderable = true ∧ t.outputSchema.isRenderable = true := by
  simp [servicesTool, servicesInput, servicesOutput, serviceSchema, logsTool, logsInput, logsOutput,
    entrySchema, windowSchema, limitSchema, boundSchema, formatted, listOf, count, mostServices,
    standardServices, mostEntries, standardEntries]

theorem tellable_catalog {s : Sources} (hs : s.Tellable) (now : Time.Instant) :
    (catalog s now).Tellable where
  tools := by
    intro t mem
    simp only [catalog, List.mem_cons, List.not_mem_nil, or_false] at mem
    rcases mem with rfl | rfl
    · exact tellable_servicesTool hs now
    · exact tellable_logsTool hs now
  resources := by
    intro r mem
    simp only [catalog, List.mem_cons, List.not_mem_nil, or_false] at mem
    rcases mem with rfl | rfl | rfl
    · exact (ends_listServices hs now ⟨sendableText_none, rfl⟩).andThen fun _ h => h
    · exact (ends_listServices hs now ⟨sendableText_chars _, rfl⟩).andThen fun _ h => h
    · exact (ends_recentLogs hs now).andThen fun _ h => h
  schemas := isRenderable_schemas s now

/-- What the method tells about parameters that can be sent can be sent. -/
def TellableMethod (m : Method) : Prop :=
  ∀ params : Json.Fields, Json.isRenderable (.obj params) = true →
    Ends (fun result => result.isRenderable = true) Fault.Tellable (m params).outcome

theorem tellable_greet : TellableMethod greet := by
  intro params _
  rw [greet]
  dsimp only
  split
  · exact Fault.tellable_reported (Report.tellable_of (by simp))
  · show Json.isRenderable _ = true
    simp [capabilities]

theorem sendable_filledText? {params : Json.Fields} (h : Json.isRenderable (.obj params) = true)
    {name : String} {text : WireText} (found : filledText? params name = some text) :
    Json.sendable text = true := by
  rw [filledText?] at found
  split at found
  · next value =>
      split at found
      · cases found
      · cases found
        exact Json.isRenderable_of_get? h value
  · cases found

theorem tellable_missingText (message name : String) : (missingText message name).Tellable :=
  Fault.tellable_reported (Report.tellable_of (by simp))

theorem tellable_callTool {c : Catalog} (hc : c.Tellable) : TellableMethod (callTool c) := by
  intro params h
  rw [callTool]
  split
  · exact tellable_missingText _ _
  · next name found =>
      have hn := sendable_filledText? h found
      split
      · exact ends_callTool hc hn rfl
      · exact ends_callTool hc hn rfl
      · next arguments given => exact ends_callTool hc hn (Json.isRenderable_of_get? h given)
      · exact Fault.tellable_reported (Report.tellable_of rfl)

theorem tellable_readResource {c : Catalog} (hc : c.Tellable) :
    TellableMethod (readResource c) := by
  intro params h
  rw [readResource]
  split
  · exact tellable_missingText _ _
  · next uri found => exact ends_readResource hc (sendable_filledText? h found)

/-- Every method of the gateway tells what can be sent. -/
theorem tellable_methods {c : Catalog} (hc : c.Tellable) :
    ∀ m ∈ methods c, TellableMethod m.2 := by
  intro m mem
  simp only [methods, List.mem_cons, List.not_mem_nil, or_false] at mem
  have acknowledged : TellableMethod acknowledge := fun _ _ => rfl
  rcases mem with rfl | rfl | rfl | rfl | rfl | rfl | rfl | rfl
  · exact tellable_greet
  · exact acknowledged
  · exact acknowledged
  · exact acknowledged
  · intro params _
    show Json.isRenderable _ = true
    simp [isRenderable_toolDocument hc]
  · exact tellable_callTool hc
  · intro params _
    show Json.isRenderable _ = true
    simp [isRenderable_resourceDocument c]
  · exact tellable_readResource hc

/-- What the host tells can be sent: no entry of the journal holds a broken text, and no
list has so many rows that their number is too long. -/
structure Presentable (s : Sources) : Prop where
  units : ∀ units, s.units.outcome = .ok units → Json.digitCount units.length ≤ digitLimit
  rows : ∀ w threshold unit rows, (s.logs w threshold unit).outcome = .ok rows →
    Json.digitCount rows.length ≤ digitLimit
  texts : ∀ w threshold unit rows, (s.logs w threshold unit).outcome = .ok rows →
    ∀ e ∈ rows, e.Unbroken

theorem tellable_sources {s : Settings} {machine : Host.Machine} {names : Pattern.CharNames}
    (h : Presentable (sources s machine names)) : (sources s machine names).Tellable where
  units := by
    cases listed : (sources s machine names).units.outcome with
    | error f => exact Fault.tellable_of_hidden ((listed ▸ Service.ends_list _ _ :))
    | ok units =>
        refine ⟨List.forall_mem_map.mpr fun u mem => ?_, ?_⟩
        · have numbers := fun n => @Service.digitCount_of_mem_list machine _ _ listed u mem n
          simp only [Service.ServiceUnit.document, Json.isRenderable_record, List.all_cons,
            List.all_nil, Json.isRenderable_ofString, Json.isRenderable_ofString?, Bool.true_and,
            Bool.and_true, Bool.and_eq_true]
          rw [Json.isRenderable_ofInt?_iff, Json.isRenderable_ofInt?_iff]
          exact ⟨fun n told => numbers n (.inl told), fun n told => numbers n (.inr told)⟩
        · rw [List.length_map]
          exact Json.isRenderable_int_iff.mpr (h.units units listed)
  logs := by
    intro w threshold unit
    cases read : ((sources s machine names).logs w threshold unit).outcome with
    | error f => exact Fault.tellable_of_hidden ((read ▸ Journal.ends_read _ _ _ _ _ _ :))
    | ok rows =>
        obtain ⟨output, _, taken⟩ := Run.exists_of_outcome_bind read
        refine ⟨List.forall_mem_map.mpr fun e mem => ?_, ?_⟩
        · have numbers := fun n => @Journal.digitCount_of_mem_read output rows taken e mem n
          have texts := h.texts w threshold unit rows read e mem
          simp only [Journal.Entry.document, Json.isRenderable_record, List.all_cons, List.all_nil,
            Json.isRenderable_ofString, Bool.true_and, Bool.and_true, Bool.and_eq_true,
            Json.isRenderable_ofInt?_iff, Json.isRenderable_ofText?_iff]
          simp only [Journal.Entry.Unbroken, List.mem_cons, List.not_mem_nil, or_false] at texts
          exact ⟨fun t told => texts t (.inl told.symm), fun n told => numbers n (.inl told),
            fun t told => texts t (.inr (.inl told.symm)), fun n told => numbers n (.inr told),
            fun t told => texts t (.inr (.inr (.inl told.symm))),
            fun t told => texts t (.inr (.inr (.inr told.symm)))⟩
        · rw [List.length_map]
          exact Json.isRenderable_int_iff.mpr (h.rows w threshold unit rows read)

theorem mem_of_lookup {ms : Methods} {name : String} {m : Method}
    (h : ms.lookup name = some m) : (name, m) ∈ ms := by
  obtain ⟨before, after, rfl, _⟩ := List.lookup_eq_some_iff.mp h
  simp

/-- Calling a method with parameters that can be sent ends with what can be
sent. -/
theorem ends_call {s : Settings} {around : Surroundings}
    (host : Presentable (sources s around.machine around.charNames)) {r : Request}
    (h : r.params.document.isRenderable = true) :
    Ends (fun result => result.isRenderable = true) Fault.Tellable
      ((methodsFor s around).call r).outcome := by
  have tellable := tellable_methods (tellable_catalog (tellable_sources host) around.now)
  rw [Methods.call]
  split
  · exact Fault.tellable_reported (Report.tellable_of rfl)
  · exact Fault.tellable_reported (Report.tellable_of rfl)
  · next method fields found params =>
      rw [params] at h
      exact tellable _ (mem_of_lookup found) fields h
  · next method found _ => exact tellable _ (mem_of_lookup found) [] rfl

end Gateway

end HostMonitor
