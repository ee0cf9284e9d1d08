import HostMonitor.Proofs.Outcomes
import HostMonitor.Proofs.Ranks
import HostMonitor.Query.Logs

/-!
# Selecting entries of the journal

What a list of entries holds is said of the rows of the source and of the
arguments as they were given, without the sort and the filter that make it.

A *row* is an entry with its place in what the source gave.  `LogsRequest.Asks`
says of an entry that every argument admits it.  `Order.Puts` says that one row
comes before another: by time first, and by place when the times are equal.
Going down in time does not turn the places around.  A `Ranking` lists each row
that is asked for once, in that order.

`listLogs_exact` says that the list is the start of the ranking, with clean
messages, and that its counts and its mark of completeness are those of the
ranking.
-/

namespace HostMonitor.Query

open Journal Text Time

/-! ## What a request asks for -/

/-- Every argument of the request admits the entry. -/
structure LogsRequest.Asks (names : Pattern.CharNames) (r : LogsRequest) (e : Entry) : Prop where
  /-- The time lies in the window, ends included. -/
  inWindow : ∀ w, Query.window r.start r.stop r.allowLargeWindow = .ok w →
    w.start ≤ e.time ∧ e.time ≤ w.stop
  /-- There is a priority, and it is urgent enough. -/
  urgent : ∀ most, Query.threshold r.priority = .ok (some most) →
    ∃ n, e.priority = some n ∧ n ≤ most
  /-- The unit is the one asked for. -/
  ofUnit : ∀ name, unitFilter r.unit = .ok (some name) → e.unit = some (.chars name)
  /-- The unit is none of those left out, whatever the case of letters. -/
  kept : ∀ given ∈ r.excludeUnits, ∀ name, unitName given = .ok name →
    ∀ unit, e.unit = some unit → unit.lower ≠ lower name
  /-- There is a clean message, and the search finds something in it. -/
  found : ∀ m, Query.matcher names r.grep = .ok (some m) →
    ∃ text, e.message.bind cleaned = some text ∧ m.chooses text = true

/-- The normal form of a request is that of its arguments, one by one. -/
theorem LogsRequest.query_eq_ok {names : Pattern.CharNames} {r : LogsRequest} {q : LogsQuery}
    (h : r.query names = .ok q) :
    Query.window r.start r.stop r.allowLargeWindow = .ok q.window ∧
      Query.threshold r.priority = .ok q.threshold ∧ unitFilter r.unit = .ok q.unit ∧
      (∃ units, r.excludeUnits.mapM unitName = .ok units ∧
        q.excluded = units.map fun name => (lower name : WireText)) ∧
      Query.order r.order = .ok q.order ∧ Query.matcher names r.grep = .ok q.matcher ∧
      Query.limit r.limit standardEntries mostEntries = .ok q.limit := by
  have checked_eq_ok : ∀ {α : Type} {c : Checked α} {a : α},
      query.checked c = .ok a → c = .ok a := by
    intro α c a hc
    cases c with
    | ok b => simpa [query.checked, Except.mapError] using hc
    | error e => simp [query.checked, Except.mapError] at hc
  simp only [query, bind_eq_ok] at h
  obtain ⟨w, hw, t, ht, u, hu, units, hn, o, ho, m, hm, n, hl, hq⟩ := h
  cases hq
  exact ⟨checked_eq_ok hw, checked_eq_ok ht, checked_eq_ok hu, ⟨units, checked_eq_ok hn, rfl⟩,
    checked_eq_ok ho, hm, checked_eq_ok hl⟩

/-! ## The tests of a query -/

theorem LogsQuery.admitsPriority_iff (q : LogsQuery) (priority : Option Int) :
    q.admitsPriority priority = true ↔
      ∀ most, q.threshold = some most → ∃ n, priority = some n ∧ n ≤ most := by
  cases ht : q.threshold with
  | none => simp [admitsPriority, ht]
  | some most =>
      cases priority with
      | none => simp [admitsPriority, ht]
      | some n => simp [admitsPriority, ht]

theorem LogsQuery.admitsUnit_iff (q : LogsQuery) (unit : Option WireText) :
    q.admitsUnit unit = true ↔ ∀ name, q.unit = some name → unit = some (.chars name) := by
  cases hu : q.unit with
  | none => simp [admitsUnit, hu]
  | some name => simp [admitsUnit, hu]

theorem LogsQuery.excludes_eq_false_iff (q : LogsQuery) (unit : Option WireText) :
    q.excludes unit = false ↔ ∀ name, unit = some name → name.lower ∉ q.excluded := by
  cases unit with
  | none => simp [excludes]
  | some name => simp [excludes]

theorem LogsQuery.admitsMessage_iff (q : LogsQuery) (message : Option WireText) :
    q.admitsMessage message = true ↔
      ∀ m, q.matcher = some m → ∃ text, message = some text ∧ m.chooses text = true := by
  cases hm : q.matcher with
  | none => simp [admitsMessage, hm]
  | some m =>
      cases message with
      | none => simp [admitsMessage, hm]
      | some text => simp [admitsMessage, hm]

/-- The tests of a query, all of them. -/
def LogsQuery.fits (q : LogsQuery) (e : Entry) : Bool :=
  q.window.contains e.time && q.admitsPriority e.priority && q.admitsUnit e.unit &&
    !q.excludes e.unit && q.admitsMessage (e.message.bind cleaned)

/-- The entry with its message in clean form. -/
def withCleanMessage (e : Entry) : Entry := { e with message := e.message.bind cleaned }

theorem LogsQuery.select_eq (q : LogsQuery) (e : Entry) :
    q.select e = if q.fits e then some (withCleanMessage e) else none := rfl

/-- The tests of the normal form are what the request asks for. -/
theorem LogsQuery.fits_iff {names : Pattern.CharNames} {r : LogsRequest} {q : LogsQuery}
    (h : r.query names = .ok q) (e : Entry) : q.fits e = true ↔ r.Asks names e := by
  obtain ⟨hw, ht, hu, ⟨units, hn, hx⟩, -, hm, -⟩ := LogsRequest.query_eq_ok h
  simp only [fits, Bool.and_eq_true, Bool.not_eq_true', Window.contains, decide_eq_true_eq,
    admitsPriority_iff, admitsUnit_iff, excludes_eq_false_iff, admitsMessage_iff, hx]
  constructor
  · rintro ⟨⟨⟨⟨hin, hp⟩, hunit⟩, hkept⟩, hfound⟩
    refine ⟨?_, ?_, ?_, ?_, ?_⟩
    · intro w hw'
      rw [hw] at hw'
      cases hw'
      exact hin
    · intro most ht'
      rw [ht] at ht'
      exact hp most (Except.ok.inj ht')
    · intro name hu'
      rw [hu] at hu'
      exact hunit name (Except.ok.inj hu')
    · intro given hg name hname unit he hl
      refine hkept unit he ?_
      rw [hl]
      exact List.mem_map_of_mem ((mem_iff_of_mapM_eq_ok hn name).mpr ⟨given, hg, hname⟩)
    · intro m hm'
      rw [hm] at hm'
      exact hfound m (Except.ok.inj hm')
  · intro ha
    refine ⟨⟨⟨⟨ha.inWindow _ hw, ?_⟩, ?_⟩, ?_⟩, ?_⟩
    · intro most hq
      exact ha.urgent most (hq ▸ ht)
    · intro name hq
      exact ha.ofUnit name (hq ▸ hu)
    · intro unit he hmem
      obtain ⟨name, hname, hl⟩ := List.mem_map.mp hmem
      obtain ⟨given, hg, hgn⟩ := (mem_iff_of_mapM_eq_ok hn name).mp hname
      exact ha.kept given hg name hgn unit he hl.symm
    · intro m hq
      exact ha.found m (hq ▸ hm)

/-! ## The order of rows -/

/-- An entry with its place in what the source gave. -/
abbrev Row := Entry × Nat

/-- The first row comes before the second: by time, and by place at one time. -/
def Order.Puts : Order → Row → Row → Prop
  | .ascending, x, y => x.1.time < y.1.time ∨ x.1.time = y.1.time ∧ x.2 < y.2
  | .descending, x, y => y.1.time < x.1.time ∨ x.1.time = y.1.time ∧ x.2 < y.2

theorem LogsQuery.before_trans (q : LogsQuery) (a b c : Entry) (hab : q.before a b = true)
    (hbc : q.before b c = true) : q.before a c = true := by
  cases ho : q.order with
  | ascending =>
      simp only [before, ho, decide_eq_true_eq] at *
      exact Int.le_trans hab hbc
  | descending =>
      simp only [before, ho, decide_eq_true_eq] at *
      exact Int.le_trans hbc hab

theorem LogsQuery.before_total (q : LogsQuery) (a b : Entry) :
    (q.before a b || q.before b a) = true := by
  cases ho : q.order with
  | ascending =>
      simp only [before, ho, Bool.or_eq_true, decide_eq_true_eq]
      exact Int.le_total _ _
  | descending =>
      simp only [before, ho, Bool.or_eq_true, decide_eq_true_eq]
      exact Int.le_total _ _

/-- Of two rows in the order of times, where equal times keep the places, the
first comes before the second. -/
theorem LogsQuery.puts_of_before {q : LogsQuery} {x y : Row} (h : q.before x.1 y.1 = true)
    (tie : q.before y.1 x.1 = true → x.2 < y.2) : q.order.Puts x y := by
  have eq_of_micros : x.1.time.micros = y.1.time.micros → x.1.time = y.1.time := by
    intro hm
    cases hx : x.1.time
    cases hy : y.1.time
    rw [hx, hy] at hm
    exact congrArg Instant.mk hm
  cases ho : q.order with
  | ascending =>
      simp only [before, ho, decide_eq_true_eq] at h tie
      rcases Int.lt_or_eq_of_le h with hlt | heq
      · exact Or.inl hlt
      · exact Or.inr ⟨eq_of_micros heq, tie (Int.le_of_eq heq.symm)⟩
  | descending =>
      simp only [before, ho, decide_eq_true_eq] at h tie
      rcases Int.lt_or_eq_of_le h with hlt | heq
      · exact Or.inl hlt
      · exact Or.inr ⟨eq_of_micros heq.symm, tie (Int.le_of_eq heq.symm)⟩

/-! ## Rankings -/

/-- The rows that a request asks for, in the order of its list. -/
structure Ranking (names : Pattern.CharNames) (r : LogsRequest) (o : Order) (rows : List Entry)
    (ranked : List Row) : Prop where
  /-- They are the rows of the source that the request asks for. -/
  mem_iff : ∀ e place, (e, place) ∈ ranked ↔ rows[place]? = some e ∧ r.Asks names e
  /-- No row is used twice. -/
  once : (ranked.map Prod.snd).Nodup
  /-- Each row comes before all that follow. -/
  ordered : ranked.Pairwise o.Puts

/-- The rows that fit a query, put in order. -/
def LogsQuery.ranked (q : LogsQuery) (rows : List Entry) : List Row :=
  rankedBy q.fits q.before rows

theorem LogsQuery.ranking {names : Pattern.CharNames} {r : LogsRequest} {q : LogsQuery}
    (h : r.query names = .ok q) (rows : List Entry) :
    Ranking names r q.order rows (q.ranked rows) where
  mem_iff := by
    intro e place
    rw [← fits_iff h]
    exact mem_rankedBy_iff
  once := nodup_rankedBy
  ordered := (pairwise_rankedBy q.before_trans q.before_total).imp fun hxy =>
    puts_of_before hxy.1 hxy.2

theorem LogsQuery.filterMap_select (q : LogsQuery) :
    ∀ (rows : List Entry) (first : Nat), rows.filterMap q.select =
      ((rows.zipIdx first).filter fun x => q.fits x.1).map fun x => withCleanMessage x.1
  | [], _ => rfl
  | e :: rows, first => by
      rw [List.zipIdx_cons, List.filterMap_cons, List.filter_cons, select_eq,
        filterMap_select q rows (first + 1)]
      cases q.fits e with
      | true => rfl
      | false => rfl

/-- Sorting clean entries is cleaning sorted ones, as the order is one of times. -/
theorem LogsQuery.mergeSort_select (q : LogsQuery) (rows : List Entry) :
    (rows.filterMap q.select).mergeSort q.before =
      (q.ranked rows).map fun x => withCleanMessage x.1 := by
  rw [q.filterMap_select rows 0, ranked, rankedBy, List.map_mergeSort]
  intro x _ y _
  rfl

/-! ## The list -/

theorem outcome_noteScanLimit (cap : Option Int) (rows : Nat) :
    (noteScanLimit cap rows).outcome = .ok () := by
  cases cap with
  | none => rfl
  | some most =>
      simp only [noteScanLimit]
      split
      · rfl
      · rfl

/-- A list is the page of its query, once the source gave rows. -/
theorem outcome_listLogs {s : Sources} {now : Instant} {r : LogsRequest} {q : LogsQuery}
    {rows : List Entry} (accepted : r.query s.charNames = .ok q)
    (read : (s.logs q.window q.threshold q.unit).outcome = .ok rows) :
    (listLogs s now r).outcome = .ok (q.page now s.scanLimit rows) := by
  have asked : (s.askLogs q.window q.threshold q.unit).outcome = .ok rows := by
    rw [Sources.askLogs, Run.outcome_bind_of_ok (Run.outcome_cause _), read]
  rw [listLogs, Run.outcome_bind_of_ok (by rw [Run.outcome_ofExcept, accepted]),
    Run.outcome_bind_of_ok asked, Run.outcome_bind_of_ok (outcome_noteScanLimit _ _),
    Run.outcome_pure]

/-- A list of entries is made of rows of the source. -/
theorem exists_of_listLogs {s : Sources} {now : Instant} {r : LogsRequest} {page : LogsPage}
    (h : (listLogs s now r).outcome = .ok page) :
    ∃ q rows, r.query s.charNames = .ok q ∧
      (s.logs q.window q.threshold q.unit).outcome = .ok rows ∧
      page = q.page now s.scanLimit rows := by
  obtain ⟨q, accepted, h⟩ := Run.exists_of_outcome_bind h
  obtain ⟨rows, asked, h⟩ := Run.exists_of_outcome_bind h
  obtain ⟨_, _, h⟩ := Run.exists_of_outcome_bind h
  obtain ⟨_, _, read⟩ := Run.exists_of_outcome_bind asked
  cases h
  exact ⟨q, rows, accepted, read, rfl⟩

/-- An entry of a page is a row that fits, with its message in clean form. -/
theorem LogsQuery.exists_of_mem_page {q : LogsQuery} {now : Instant} {cap : Option Int}
    {rows : List Entry} {e : Entry} (mem : e ∈ (q.page now cap rows).entries) :
    ∃ row ∈ rows, q.fits row = true ∧ e = withCleanMessage row := by
  have selected := List.mem_mergeSort.mp (List.mem_of_mem_take mem)
  obtain ⟨row, given, select⟩ := List.mem_filterMap.mp selected
  rw [select_eq] at select
  split at select
  · next fits => exact ⟨row, given, fits, (Option.some.inj select).symm⟩
  · cases select

theorem isScanCapped_iff (cap : Option Int) (rows : Nat) :
    isScanCapped cap rows = true ↔ ∃ most, cap = some most ∧ most ≤ rows := by
  cases cap with
  | none => simp [isScanCapped]
  | some most => simp [isScanCapped]

end HostMonitor.Query
