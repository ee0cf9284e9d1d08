import HostMonitor.Proofs.ScanCap

/-!
# What a source may leave out

A source is asked for a window, a priority and a unit.  It may leave out rows that
are not asked for, some of them or all, and it may give them anyway.  The list does
not show which: every row is tested again, and a row that is left out moves no
other row.

`Thins` says that one source gives the rows of another without some that are not
asked for.  `listLogs_thinned` says that the two lists differ in the number of rows
alone, as long as neither read comes to its limit.
-/

namespace HostMonitor.Query

open Journal Text Time

/-! ## Rows that are left out -/

/-- A source is asked for the entry: it lies in the window, it is urgent enough, and
it is of the unit. -/
structure LogsRequest.Fetches (r : LogsRequest) (e : Entry) : Prop where
  inWindow : ∀ w, Query.window r.start r.stop r.allowLargeWindow = .ok w →
    w.start ≤ e.time ∧ e.time ≤ w.stop
  urgent : ∀ most, Query.threshold r.priority = .ok (some most) →
    ∃ n, e.priority = some n ∧ n ≤ most
  ofUnit : ∀ name, unitFilter r.unit = .ok (some name) →
    e.unit = some (.chars name)

/-- The second rows are the first without some that a source is not asked for. -/
inductive Thins (r : LogsRequest) : List Entry → List Entry → Prop where
  | nil : Thins r [] []
  | kept {e : Entry} {rows fewer : List Entry} :
      Thins r rows fewer → Thins r (e :: rows) (e :: fewer)
  | dropped {e : Entry} {rows fewer : List Entry} :
      ¬ r.Fetches e → Thins r rows fewer → Thins r (e :: rows) fewer

theorem LogsRequest.Asks.fetches {names : Pattern.CharNames} {r : LogsRequest} {e : Entry}
    (h : r.Asks names e) : r.Fetches e :=
  ⟨h.inWindow, h.urgent, h.ofUnit⟩

section

variable {names : Pattern.CharNames} {r : LogsRequest} {q : LogsQuery} {rows fewer : List Entry}

/-- A row that no source is asked for is not selected. -/
theorem LogsQuery.select_eq_none (accepted : r.query names = .ok q) {e : Entry}
    (h : ¬ r.Fetches e) : q.select e = none := by
  have unfit : ¬ q.fits e = true := fun fits => h ((LogsQuery.fits_iff accepted e).mp fits).fetches
  rw [select_eq, if_neg unfit]

/-- The selected rows are the same, in the same order. -/
theorem Thins.filterMap_select (h : Thins r rows fewer)
    (accepted : r.query names = .ok q) : fewer.filterMap q.select = rows.filterMap q.select := by
  induction h with
  | nil => rfl
  | kept _ ih => rw [List.filterMap_cons, List.filterMap_cons, ih]
  | dropped unasked _ ih =>
      rw [List.filterMap_cons, LogsQuery.select_eq_none accepted unasked, ih]

/-! ## Lists -/

theorem isScanCapped_eq_false {cap : Option Int} {n : Nat}
    (below : ∀ most, cap = some most → (n : Int) < most) : isScanCapped cap n = false := by
  rw [Bool.eq_false_iff, Ne, isScanCapped_iff]
  rintro ⟨most, given, reached⟩
  exact absurd (below most given) (Int.not_lt.mpr reached)

/-- A page does not show which rows were left out, but for their number. -/
theorem Thins.page_eq (h : Thins r rows fewer) (accepted : r.query names = .ok q)
    (now : Instant) {cap cap' : Option Int}
    (below : ∀ most, cap = some most → (rows.length : Int) < most)
    (below' : ∀ most, cap' = some most → (fewer.length : Int) < most) :
    q.page now cap' fewer = { q.page now cap rows with scanned := fewer.length } := by
  rw [LogsQuery.page, LogsQuery.page, h.filterMap_select accepted, isScanCapped_eq_false below,
    isScanCapped_eq_false below']

/-- Two sources, one of which leaves out rows that are not asked for, give the same
list: the same entries in the same order, the same mark of completeness and the same
window.  Only the number of rows differs. -/
theorem listLogs_thinned {s s' : Sources} {now : Instant}
    (named : s'.charNames = s.charNames) (accepted : r.query s.charNames = .ok q)
    (read : (s.logs q.window q.threshold q.unit).outcome = .ok rows)
    (read' : (s'.logs q.window q.threshold q.unit).outcome = .ok fewer)
    (thins : Thins r rows fewer)
    (below : ∀ most, s.scanLimit = some most → (rows.length : Int) < most)
    (below' : ∀ most, s'.scanLimit = some most → (fewer.length : Int) < most) :
    ∃ page, (listLogs s now r).outcome = .ok page ∧ page.scanned = rows.length ∧
      (listLogs s' now r).outcome = .ok { page with scanned := fewer.length } := by
  refine ⟨q.page now s.scanLimit rows, outcome_listLogs accepted read, rfl, ?_⟩
  rw [outcome_listLogs (named ▸ accepted) read', thins.page_eq accepted now below below']

end

/-! ## One row of four -/

/-- Errors of one unit in an hour. -/
def errorsOfUnit : LogsRequest :=
  { LogsRequest.within "2026-02-27T00:00:00Z" "2026-02-27T01:00:00Z" with
    priority := .int 3, unit := some "a.service" }

/-- An entry with a unit and a priority. -/
def entryOf (micros : Int) (unit : String) (priority : Int) : Entry :=
  ⟨⟨micros⟩, some unit, some priority, none, none, none, none⟩

/-- A row that is asked for, one after the window, one that is not urgent, and one of
another unit. -/
def fourRows : List Entry :=
  [entryOf 1772150400000001 "a.service" 3, entryOf 1772154000000001 "a.service" 3,
    entryOf 1772150400000001 "a.service" 5, entryOf 1772150400000001 "b.service" 3]

/-- The same without the second row and the last. -/
def twoRows : List Entry :=
  [entryOf 1772150400000001 "a.service" 3, entryOf 1772150400000001 "a.service" 5]

theorem listLogs_thinned_two_rows :
    ∃ page, (listLogs ⟨.done [], fun _ _ _ => .done fourRows, none, fun _ => none⟩ ⟨0⟩
        errorsOfUnit).outcome = .ok page ∧ page.scanned = 4 ∧
      (listLogs ⟨.done [], fun _ _ _ => .done twoRows, some 3, fun _ => none⟩ ⟨0⟩
        errorsOfUnit).outcome = .ok { page with scanned := 2 } := by
  have window : Query.window errorsOfUnit.start errorsOfUnit.stop errorsOfUnit.allowLargeWindow =
      .ok ⟨⟨1772150400000000⟩, ⟨1772154000000000⟩⟩ := window_hour
  have accepted : errorsOfUnit.query (fun _ => none) =
      .ok ⟨⟨⟨1772150400000000⟩, ⟨1772154000000000⟩⟩, some 3, some "a.service", [], .descending, none,
        standardEntries⟩ := by
    rw [LogsRequest.query, window]
    rfl
  have late : ¬ errorsOfUnit.Fetches (entryOf 1772154000000001 "a.service" 3) := fun h =>
    absurd (h.inWindow _ window).2 (by decide)
  have other : ¬ errorsOfUnit.Fetches (entryOf 1772150400000001 "b.service" 3) := fun h =>
    absurd (h.ofUnit "a.service" rfl) (by decide)
  have thins : Thins errorsOfUnit fourRows twoRows :=
    .kept (.dropped late (.kept (.dropped other .nil)))
  refine @listLogs_thinned _ _ _ _ ⟨.done [], fun _ _ _ => .done fourRows, none, fun _ => none⟩
    ⟨.done [], fun _ _ _ => .done twoRows, some 3, fun _ => none⟩ ⟨0⟩ rfl accepted rfl rfl thins ?_ ?_
  · intro most unlimited
    cases unlimited
  · intro most limited
    cases limited
    decide

end HostMonitor.Query
