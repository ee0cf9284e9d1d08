import HostMonitor.Proofs.Conformance
import HostMonitor.Proofs.Dates
import HostMonitor.Proofs.Services
import HostMonitor.Proofs.Written

/-!
# Resources and tools

A resource is read as a text, and a tool gives a document.  The three resources show
what the tools show for certain arguments: the text of the resource is read back as
the document of the tool, the same is asked of the host, and if the host fails, both
fail with the same fault.  Only a document with an integer of more than `digitLimit`
digits is told apart: the tool gives it, and there is no text of it to be read.

The entries of the last hour are asked for by two timestamps.  A timestamp keeps
milliseconds and is only read in years with four digits, so the hour has to start in
such a year.
-/

namespace HostMonitor

open Number Text Time

/-! ## What is written comes back -/

namespace Json

section

variable {P : WireText → Prop}

theorem plain_ofString (s : String) : Plain P (.ofString s) := .str s

theorem plain_ofString? : ∀ s? : Option String, Plain P (.ofString? s?)
  | some s => .str s
  | none => .null

theorem plain_ofText? : ∀ {t? : Option WireText}, (∀ t, some t = t? → P t) → Plain P (.ofText? t?)
  | some t, h => .text (h t rfl)
  | none, _ => .null

theorem plain_ofInt? : ∀ n? : Option Int, Plain P (.ofInt? n?)
  | some n => .int n
  | none => .null

theorem plain_record {fields : List (String × Json)} (once : (fields.map Prod.fst).Nodup)
    (values : ∀ f ∈ fields, Plain P f.2) : Plain P (.record fields) := by
  refine .obj ?_ ?_ ?_
  · rw [← Tool.keyed, Tool.keys_keyed]
    exact once.map fun _ _ same => WireText.chars.inj same
  · rintro _ mem
    obtain ⟨f, _, rfl⟩ := List.mem_map.mp mem
    exact ⟨f.1, rfl⟩
  · rintro _ mem
    obtain ⟨f, inside, rfl⟩ := List.mem_map.mp mem
    exact values f inside

theorem plain_map {α : Type} {document : α → Json} {items : List α}
    (each : ∀ a ∈ items, Plain P (document a)) : Plain P (.arr (items.map document)) :=
  .arr (List.forall_mem_map.mpr each)

end

theorem depth_record_le {fields : List (String × Json)} {n : Nat}
    (values : ∀ f ∈ fields, f.2.depth ≤ n) : (record fields).depth ≤ n + 1 :=
  Nat.succ_le_succ (depthOfFields_le_iff.mpr (List.forall_mem_map.mpr values))

theorem depth_map_le {α : Type} {document : α → Json} {n : Nat}
    (each : ∀ a, (document a).depth ≤ n) (items : List α) :
    (Json.arr (items.map document)).depth ≤ n + 1 :=
  Nat.succ_le_succ (depthOfItems_le_iff.mpr (List.forall_mem_map.mpr fun a _ => each a))

@[simp] theorem depth_ofString (s : String) : (ofString s).depth = 0 := rfl

@[simp] theorem depth_ofNat (n : Nat) : (ofNat n).depth = 0 := rfl

@[simp] theorem depth_bool (b : Bool) : (Json.bool b).depth = 0 := rfl

@[simp] theorem depth_ofText? (t? : Option WireText) : (ofText? t?).depth = 0 := by
  cases t? <;> rfl

@[simp] theorem depth_ofString? (s? : Option String) : (ofString? s?).depth = 0 := by
  cases s? <;> rfl

@[simp] theorem depth_ofInt? (n? : Option Int) : (ofInt? n?).depth = 0 := by
  cases n? <;> rfl

end Json

open Json

variable {P : WireText → Prop}

theorem Service.plain_document (u : Service.ServiceUnit) : Plain P u.document := by
  refine plain_record (by simp) ?_
  simp only [List.mem_cons, List.not_mem_nil, or_false, forall_eq_or_imp, forall_eq,
    plain_ofString, plain_ofString?, plain_ofInt?, and_self]

theorem Service.depth_document_le (u : Service.ServiceUnit) : u.document.depth ≤ 1 :=
  depth_record_le (by simp)

theorem Journal.plain_document {e : Journal.Entry}
    (texts : ∀ t, some t ∈ [e.unit, e.hostname, e.message, e.cursor] → P t) :
    Json.Plain P e.document := by
  simp only [List.mem_cons, List.not_mem_nil, or_false] at texts
  refine plain_record (by simp) ?_
  simp only [List.mem_cons, List.not_mem_nil, or_false, forall_eq_or_imp, forall_eq]
  exact ⟨plain_ofString _, plain_ofText? fun t told => texts t (.inl told), plain_ofInt? _,
    plain_ofText? fun t told => texts t (.inr (.inl told)), plain_ofInt? _,
    plain_ofText? fun t told => texts t (.inr (.inr (.inl told))),
    plain_ofText? fun t told => texts t (.inr (.inr (.inr told)))⟩

theorem Journal.depth_document_le (e : Journal.Entry) : e.document.depth ≤ 1 :=
  depth_record_le (by simp)

namespace Query

theorem ServicesPage.plain_document (p : ServicesPage) : Plain P p.document := by
  refine plain_record (by simp) ?_
  simp only [List.mem_cons, List.not_mem_nil, or_false, forall_eq_or_imp, forall_eq]
  exact ⟨plain_map fun u _ => Service.plain_document u, .int _, .int _, .bool _, plain_ofString _⟩

/-- The document of a page holds the numbers of the processes of its units. -/
theorem ServicesPage.digitCount_le {p : ServicesPage} {u : Service.ServiceUnit} {n : Int}
    (mem : u ∈ p.services) (pid : u.mainPid = some n) : digitCount n ≤ p.document.digits := by
  have rows := digitsOfFields_le_iff.mp (Nat.le_refl p.document.digits)
    ("services", .arr (p.services.map Service.ServiceUnit.document)) List.mem_cons_self
  have row := digitsOfItems_le_iff.mp rows u.document (List.mem_map_of_mem mem)
  have number := digitsOfFields_le_iff.mp row ("main_pid", .ofInt? u.mainPid) (by simp)
  rwa [pid] at number

theorem ServicesPage.depth_document_le (p : ServicesPage) : p.document.depth ≤ 3 := by
  have rows := depth_map_le Service.depth_document_le p.services
  exact depth_record_le (by simpa using rows)

theorem LogsPage.plain_document {p : LogsPage}
    (texts : ∀ e ∈ p.entries, ∀ t, some t ∈ [e.unit, e.hostname, e.message, e.cursor] → P t) :
    Plain P p.document := by
  have window : Plain P (.record [("start_utc", .ofString p.window.start.timestamp),
      ("end_utc", .ofString p.window.stop.timestamp)]) := by
    refine plain_record (by simp) ?_
    simp only [List.mem_cons, List.not_mem_nil, or_false, forall_eq_or_imp, forall_eq,
      plain_ofString, and_self]
  refine plain_record (by simp) ?_
  simp only [List.mem_cons, List.not_mem_nil, or_false, forall_eq_or_imp, forall_eq]
  exact ⟨plain_map fun e mem => Journal.plain_document (texts e mem), .int _, .int _, .bool _,
    plain_ofString _, window⟩

theorem LogsPage.depth_document_le (p : LogsPage) : p.document.depth ≤ 3 := by
  have rows := depth_map_le Journal.depth_document_le p.entries
  have window : (record [("start_utc", .ofString p.window.start.timestamp),
      ("end_utc", .ofString p.window.stop.timestamp)]).depth ≤ 1 := depth_record_le (by simp)
  exact depth_record_le (by simpa using ⟨rows, window.trans (by decide)⟩)

/-! ## The last hour -/

/-- The window of the last hour, by its timestamps. -/
theorem window_lastHour {now start : Instant} (clock : now.inRange = true)
    (earlier : now.later? (-hourMicros) = some start) (year : fourDigits ≤ start) :
    window (some start.timestamp) (some now.timestamp) false =
      .ok ⟨start.toMillis, now.toMillis⟩ := by
  have hour : start.micros = now.micros - 3600000000 := by
    rw [Instant.later?] at earlier
    split at earlier
    · cases earlier
      rfl
    · cases earlier
  have last : now ≤ Instant.last := (Journal.inRange_iff.mp clock).2
  have year' : fourDigits.micros ≤ start.micros := year
  have last' : now.micros ≤ Instant.last.micros := last
  have before : ¬ now.toMillis ≤ start.toMillis := by
    show ¬ now.micros - now.micros % 1000 ≤ start.micros - start.micros % 1000
    omega
  have short : ¬ now.toMillis.micros - start.toMillis.micros > widestDays * Instant.dayMicros := by
    simp only [Instant.toMillis, widestDays, Instant.dayMicros]
    omega
  rw [window, instant_timestamp year (show start.micros ≤ Instant.last.micros by omega),
    instant_timestamp (show fourDigits.micros ≤ now.micros by omega) last]
  show (if now.toMillis ≤ start.toMillis then _ else if !false && decide _ then _ else _) = _
  rw [if_neg before, if_neg (by simpa using short)]

end Query

namespace Gateway

open Query Rpc Tool

/-! ## Runs of resources and tools -/

/-- What a resource is read as. -/
def contents (uri text : String) : Json :=
  .record [("contents", .arr [.record [("uri", .ofString uri), ("mimeType", .ofString mimeType),
    ("text", .ofString text)]])]

/-- The parameters name a tool and hold arguments for it.  No arguments may also be
left out. -/
structure Asks (params : Json.Fields) (tool : String) (arguments : Json.Fields) : Prop where
  named : params.get? "name" = some (.ofString tool)
  given : arguments = [] ∧ (params.get? "arguments" = none ∨ params.get? "arguments" = some .null) ∨
    ∃ fields, params.get? "arguments" = some (.obj fields) ∧
      ∀ key, Fields.get? key fields = Fields.get? key arguments

theorem filledText?_eq_some {params : Json.Fields} {name text : String} (filled : text ≠ "")
    (found : params.get? name = some (.ofString text)) :
    filledText? params name = some (.chars text) := by
  have some : (WireText.chars text).isEmpty = false := by
    rw [WireText.isEmpty, WireText.points, List.isEmpty_map, List.isEmpty_eq_false_iff]
    exact fun none => filled (String.toList_eq_nil_iff.mp none)
  simp only [filledText?, found, Json.ofString, some, Bool.false_eq_true, if_false]

/-- A tool with a summary that is asked for with arguments that fit is run on what is given. -/
theorem callTool_of_asks {c : Catalog} {t : ToolEntry} {tool : String}
    {params arguments given : Json.Fields} {summary : Json → String}
    (asks : Asks params tool arguments) (filled : tool ≠ "") (found : c.tool? tool = some t)
    (summarised : t.summary = some summary) (fits : t.signature.check arguments = .ok given) :
    callTool c params =
      t.handler given >>= fun value => pure (toolResult (summary value) value) := by
  have run : ∀ fields, t.signature.check fields = .ok given →
      c.execute tool fields = t.handler given := fun fields fits => by
    rw [Catalog.execute, found]
    dsimp only
    rw [fits]
    exact Run.bind_of_ok rfl _
  have call : ∀ fields, t.signature.check fields = .ok given → c.callTool tool fields =
      t.handler given >>= fun value => pure (toolResult (summary value) value) :=
    fun fields fits => by
      rw [Catalog.callTool, run fields fits, found, Option.bind_some, summarised]
      rfl
  rw [callTool, filledText?_eq_some filled asks.named]
  rcases asks.given with ⟨rfl, none | null⟩ | ⟨fields, object, same⟩
  · rw [none]
    exact call [] fits
  · rw [null]
    exact call [] fits
  · rw [object]
    exact call fields (check_congr same fits)

theorem readResource_of_uri {c : Catalog} {r : ResourceEntry} {uri : String}
    {params : Json.Fields} (asked : params.get? "uri" = some (.ofString uri)) (filled : uri ≠ "")
    (found : c.resource? uri = some r) :
    readResource c params =
      r.reader >>= fun v => .ofExcept ((dumped v).map (contents uri)) := by
  rw [readResource, filledText?_eq_some filled asked]
  dsimp only
  rw [Catalog.readResource, found]
  refine congrArg (r.reader >>= ·) (funext fun v => ?_)
  cases dumped v with
  | ok text => rfl
  | error f => rfl

/-- A unit whose process has a number of one digit more than can be written. -/
def longNumber : Service.ServiceUnit :=
  ⟨"a.service", "", "loaded", "active", "running", none, none, some (10 ^ digitLimit : Nat), none,
    none⟩

/-- The number is given by the tool, and there is no text to be read. -/
theorem longNumber_unreadable :
    ∃ s : Sources, s.units.outcome = .ok [longNumber] ∧ ∃ result document,
      ((methods (catalog s ⟨0⟩)).call ⟨"tools/call", .named
        [("name", .ofString "list_services")], none⟩).outcome = .ok result ∧
      member? result "structuredContent" = some document ∧
      ((methods (catalog s ⟨0⟩)).call ⟨"resources/read", .named
        [("uri", .ofString "resource://services/snapshot")], none⟩).outcome =
        .error .unwritable := by
  let s : Sources := ⟨.done [longNumber], fun _ _ _ => .done [], none, fun _ => none⟩
  obtain ⟨p, page, mem⟩ : ∃ p, (listServices s ⟨0⟩ .all).outcome = .ok p ∧
      longNumber ∈ p.services :=
    ⟨_, outcome_listServices_eq s ⟨0⟩ (r := .all) rfl, by
      simp [ServicesQuery.page, ServicesQuery.selects, ServicesRequest.all, nameFragment,
        standardServices]⟩
  have called := @callTool_of_asks (catalog s ⟨0⟩) _ "list_services"
    [("name", .ofString "list_services")] [] _ _ ⟨rfl, .inl ⟨rfl, .inl rfl⟩⟩ (by decide) rfl rfl
    (check_eq_ok_iff.mpr ⟨by simp, rfl, rfl⟩)
  have read := @readResource_of_uri (catalog s ⟨0⟩) _ "resource://services/snapshot"
    [("uri", .ofString "resource://services/snapshot")] rfl (by decide) rfl
  have unwritable : ¬ p.document.Writable := by
    intro writable
    have long := (ServicesPage.digitCount_le mem rfl).trans writable.1
    rw [digitCount_le_iff (by decide), Int.natAbs_natCast] at long
    exact Nat.lt_irrefl _ long
  refine ⟨s, rfl, toolResult (servicesSummary p.document) p.document, p.document, ?_, rfl, ?_⟩
  · refine (congrArg Run.outcome called).trans ?_
    exact Run.outcome_bind_of_ok (Run.outcome_bind_of_ok page _) _
  · refine (congrArg Run.outcome read).trans ?_
    refine (Run.outcome_bind_of_ok (Run.outcome_bind_of_ok page _) _).trans ?_
    rw [dumped_of_not_writable unwritable]
    rfl

end Gateway

end HostMonitor
