import HostMonitor.Journal.Record
import HostMonitor.Proofs.LineOutcomes
import HostMonitor.Proofs.Selection
import HostMonitor.Proofs.Utf8

/-!
# The limit of a read and the mark of a list

The host prints no more lines than it is asked for, one for each record.  When it
prints so many, older records may be left out, and a list made of them should say
that it is not complete.

What is compared with the limit is not the number of lines but the number of
entries on them.  A line without an entry is not counted, so one such line is
enough for a list at the limit to pass for complete.  `listLogs_over_journal` says
when a list is marked, for every output of the host.
-/

namespace HostMonitor.Query

open Host Journal Text Time

/-! ## Printed lines -/

/-- The lines that the host printed, without the blank ones.  Each ends in a line
feed. -/
def filledLines (output : String) : List (List Char) :=
  (cells '\n' output.toList).filter fun line => !line.all isBlank

/-- The entries of a printed line, which the reader may see in pieces. -/
def Yields (line : List Char) (entries : List Entry) : Prop :=
  ∃ found, List.Forall₂ (fun piece o => LineGives piece (.ok o)) (lines line) found ∧
    entries = found.filterMap id

theorem yields_iff {line : List Char} {entries : List Entry} :
    entriesOf (lines line) = .ok entries ↔ Yields line entries := entriesOf_eq_ok_iff

/-- The lines that the reader sees consist of what was printed. -/
theorem mem_of_mem_linesFrom {line : List Char} {c : Char} (inside : c ∈ line) :
    ∀ (held text : List Char), line ∈ linesFrom held text → c ∈ held ∨ c ∈ text := by
  intro held text mem
  induction held, text using linesFrom.induct with
  | case1 held empty =>
      rw [linesFrom, if_pos empty] at mem
      cases mem
  | case2 held filled =>
      rw [linesFrom, if_neg filled, List.mem_singleton] at mem
      exact .inl (List.mem_reverse.mp (mem ▸ inside))
  | case3 held text ih =>
      rw [linesFrom] at mem
      rcases List.mem_cons.mp mem with rfl | mem
      · exact .inl (List.mem_reverse.mp inside)
      · rcases ih mem with h | h
        · cases h
        · exact .inr (List.mem_cons_of_mem _ (List.mem_cons_of_mem _ h))
  | case4 held d text single ends ih =>
      rw [linesFrom.eq_3 _ _ _ single, if_pos ends] at mem
      rcases List.mem_cons.mp mem with rfl | mem
      · exact .inl (List.mem_reverse.mp inside)
      · rcases ih mem with h | h
        · cases h
        · exact .inr (List.mem_cons_of_mem _ h)
  | case5 held d text single goes ih =>
      rw [linesFrom.eq_3 _ _ _ single, if_neg goes] at mem
      rcases ih mem with h | h
      · rcases List.mem_cons.mp h with rfl | h
        · exact .inr List.mem_cons_self
        · exact .inl h
      · exact .inr (List.mem_cons_of_mem _ h)

/-- Blank lines yield nothing. -/
theorem yields_blank {line : List Char} (blank : line.all isBlank = true) {entries : List Entry}
    (yields : Yields line entries) : entries = [] := by
  refine ((entriesOf_lost fun piece mem fields denotes => ?_).mp (yields_iff.mpr yields)).1
  have filled := not_blank_of_denotes denotes
  rw [List.all_eq_false] at filled
  obtain ⟨c, inside, other⟩ := filled
  have given := (mem_of_mem_linesFrom inside [] line mem).resolve_left List.not_mem_nil
  exact absurd (List.all_eq_true.mp blank c given) other

/-- What is on the printed lines is read line by line, where `held` is the current
line so far, backwards. -/
theorem entriesOf_cellsFrom :
    ∀ held text : List Char, entriesOf (lines (held.reverse ++ text)) =
      ((cellsFrom '\n' held text).mapM fun line => entriesOf (lines line)).map List.flatten
  | held, [] => by
      rw [List.append_nil, cellsFrom, List.mapM_cons]
      cases entriesOf (lines held.reverse) with
      | error f => rfl
      | ok entries => exact congrArg Except.ok (List.append_nil entries).symm
  | held, c :: text => by
      rw [cellsFrom]
      split
      · next feed =>
          have rest := entriesOf_cellsFrom [] text
          rw [List.reverse_nil, List.nil_append] at rest
          rw [feed, entriesOf_lines_feed, rest, List.mapM_cons]
          cases entriesOf (lines held.reverse) with
          | error f => rfl
          | ok entries =>
              cases (cellsFrom '\n' [] text).mapM fun line => entriesOf (lines line) with
              | error f => rfl
              | ok given => rfl
      · have rest := entriesOf_cellsFrom (c :: held) text
        rwa [List.reverse_cons, List.append_assoc, List.singleton_append] at rest

/-- Nothing is lost with the blank lines. -/
theorem exists_yields_filter {ls : List (List Char)} {given : List (List Entry)}
    (each : List.Forall₂ Yields ls given) :
    ∃ given', List.Forall₂ Yields (ls.filter fun line => !line.all isBlank) given' ∧
      given.flatten = given'.flatten := by
  induction each with
  | nil => exact ⟨[], .nil, rfl⟩
  | @cons line entries ls given first _ ih =>
      obtain ⟨given', rest, same⟩ := ih
      rw [List.filter_cons, List.flatten_cons, same]
      split
      · exact ⟨entries :: given', .cons first rest, rfl⟩
      · next blank =>
          cases yields_blank (by simpa using blank) first
          exact ⟨given', rest, rfl⟩

/-- The entries of an output are those of its filled lines, one after the other. -/
theorem exists_yields_of_ofOutput {output : String} {rows : List Entry}
    (read : ofOutput output = .ok rows) :
    ∃ given, List.Forall₂ Yields (filledLines output) given ∧ rows = given.flatten := by
  have cellwise := entriesOf_cellsFrom [] output.toList
  rw [List.reverse_nil, List.nil_append, ← ofOutput_eq, read] at cellwise
  cases each : (cellsFrom '\n' [] output.toList).mapM fun line => entriesOf (lines line) with
  | error f =>
      rw [each] at cellwise
      cases cellwise
  | ok given =>
      rw [each] at cellwise
      cases cellwise
      exact exists_yields_filter ((mapM_eq_ok_iff.mp each).imp fun _ _ => yields_iff.mp)

/-- When no line yields two entries, the entries are as many as the lines that
yield one. -/
theorem length_flatten_add_count {given : List (List Entry)}
    (single : ∀ es ∈ given, es.length ≤ 1) :
    given.flatten.length + given.count [] = given.length := by
  induction given with
  | nil => rfl
  | cons es given ih =>
      have rest := ih fun es mem => single es (List.mem_cons_of_mem _ mem)
      have first := single es List.mem_cons_self
      rw [List.flatten_cons, List.length_append, List.length_cons]
      cases es with
      | nil =>
          rw [List.count_cons_self, List.length_nil]
          omega
      | cons e es =>
          rw [List.count_cons_of_ne (List.cons_ne_nil e es)]
          rw [List.length_cons] at first ⊢
          omega

/-! ## Lists -/

/-- A list is marked when the source gave as many rows as it may, or more rows fit
than are returned. -/
theorem LogsQuery.truncated_iff {names : Pattern.CharNames} {r : LogsRequest} {q : LogsQuery}
    (accepted : r.query names = .ok q) (now : Instant) (most : Int) (rows : List Entry) :
    (q.page now (some most) rows).truncated = true ↔
      most ≤ rows.length ∨ q.limit < (q.ranked rows).length := by
  obtain ⟨-, -, -, -, -, -, limit⟩ := LogsRequest.query_eq_ok accepted
  have bounds := limit_bounds limit (by decide) (by decide)
  have matched : ((rows.filterMap q.select).mergeSort q.before).length =
      (q.ranked rows).length := by
    rw [q.mergeSort_select rows, List.length_map]
  have returned : (((rows.filterMap q.select).mergeSort q.before).take q.limit.toNat).length =
      min q.limit.toNat (q.ranked rows).length := by
    rw [List.length_take, matched]
  rw [page]
  dsimp only
  rw [Bool.or_eq_true, decide_eq_true_eq, matched, returned, isScanCapped_iff]
  constructor
  · rintro (⟨_, ⟨⟩, capped⟩ | more)
    · exact .inl capped
    · exact .inr (by omega)
  · rintro (capped | more)
    · exact .inl ⟨most, rfl, capped⟩
    · exact .inr (by omega)

theorem LogsQuery.length_ranked_le (q : LogsQuery) (rows : List Entry) :
    (q.ranked rows).length ≤ rows.length := by
  rw [ranked, rankedBy, List.length_mergeSort]
  exact (List.length_filter_le _ _).trans_eq List.length_zipIdx

/-- A list is made of the rows of the source, if it gives any. -/
theorem outcome_listLogs_eq (s : Sources) (now : Instant) {r : LogsRequest} {q : LogsQuery}
    (accepted : r.query s.charNames = .ok q) :
    (listLogs s now r).outcome =
      (s.logs q.window q.threshold q.unit).outcome.map (q.page now s.scanLimit) := by
  cases read : (s.logs q.window q.threshold q.unit).outcome with
  | ok rows => exact outcome_listLogs accepted read
  | error f =>
      have asked : (s.askLogs q.window q.threshold q.unit).outcome = .error f := by
        rw [Sources.askLogs, Run.outcome_bind_of_ok (Run.outcome_cause _), read]
      rw [listLogs, Run.outcome_bind_of_ok (by rw [Run.outcome_ofExcept, accepted]),
        Run.outcome_bind_of_error asked]
      rfl

/-- What is made of the journal of a host.  A list says that it is not complete
when the entries on the printed lines reach the limit of the read, or more of them
fit than are returned.  So when no line holds two entries, each line without one
has to be made up for by another line. -/
theorem listLogs_over_journal {s : Sources} {machine : Machine} {allowance : Allowance}
    {most : Int} {now : Instant} {r : LogsRequest} {q : LogsQuery} {output : String}
    (reads : s.logs = Journal.read machine allowance most) (cap : s.scanLimit = some most)
    (accepted : r.query s.charNames = .ok q)
    (printed : (run machine allowance (command most q.window q.threshold q.unit)).outcome =
      .ok output) :
    (∀ f, (listLogs s now r).outcome = .error f ↔
      f = .unconvertible ∧ ∃ line ∈ lines output.toList, Spoils line) ∧
    ∀ page, (listLogs s now r).outcome = .ok page →
      ∃ (given : List (List Entry)) (o : Order) (limit : Int) (ranked : List Row),
        List.Forall₂ Yields (filledLines output) given ∧
        Query.order r.order = .ok o ∧
        Query.limit r.limit standardEntries mostEntries = .ok limit ∧
        Ranking s.charNames r o given.flatten ranked ∧
        page.scanned = given.flatten.length ∧
        (page.truncated = true ↔ most ≤ given.flatten.length ∨ limit < ranked.length) ∧
        ((∀ es ∈ given, es.length ≤ 1) →
          (page.truncated = true ↔
            most + given.count [] ≤ (filledLines output).length ∨ limit < ranked.length)) := by
  obtain ⟨-, -, -, -, order, -, limit⟩ := LogsRequest.query_eq_ok accepted
  have outcome : (listLogs s now r).outcome =
      (ofOutput output).map (q.page now s.scanLimit) := by
    rw [outcome_listLogs_eq s now accepted, reads, Journal.read,
      Run.outcome_bind_of_ok printed, Run.outcome_ofExcept]
  rw [outcome]
  constructor
  · intro f
    rw [← entriesOf_eq_error_iff, ← ofOutput_eq]
    cases ofOutput output with
    | ok rows => exact ⟨nofun, nofun⟩
    | error f' => rw [Except.map, Except.error.injEq, Except.error.injEq]
  · intro page h
    cases read : ofOutput output with
    | error f =>
        rw [read] at h
        cases h
    | ok rows =>
        rw [read] at h
        cases h
        obtain ⟨given, yields, rfl⟩ := exists_yields_of_ofOutput read
        have marked : (q.page now s.scanLimit given.flatten).truncated = true ↔
            most ≤ given.flatten.length ∨ q.limit < (q.ranked given.flatten).length := by
          rw [cap]
          exact LogsQuery.truncated_iff accepted now most given.flatten
        refine ⟨given, q.order, q.limit, q.ranked given.flatten, yields, order, limit,
          q.ranking accepted given.flatten, rfl, marked, fun single => ?_⟩
        have all := length_flatten_add_count single
        rw [marked, yields.length_eq]
        omega

/-! ## A limit of two -/

/-- A request without arguments but the window asks for all entries of the window,
the newest first. -/
theorem LogsRequest.query_within {names : Pattern.CharNames} {start stop : String} {w : Window}
    (window : Query.window (some start) (some stop) false = .ok w) :
    (LogsRequest.within start stop).query names =
      .ok ⟨w, none, none, [], .descending, none, standardEntries⟩ := by
  rw [query, within]
  dsimp only
  rw [window]
  rfl

/-- A host that prints one text, whatever it is asked. -/
def printing (text : String) : Machine := fun _ => .finished (Utf8.encode text.toList) [] 0

theorem outcome_run_printing {allowance : Allowance} (inTime : allowance.isOver = false)
    (text : String) (argv : List String) :
    (run (printing text) allowance argv).outcome = .ok text := by
  rw [outcome_run_of_success rfl inTime, textOf_encode]

/-- An hour of the journal, of which at most two entries are read. -/
def hourOf (text : String) : Run LogsPage :=
  listLogs ⟨.done [], Journal.read (printing text) (.whole 10) 2, some 2, fun _ => none⟩ ⟨0⟩
    (.within "2026-02-27T00:00:00Z" "2026-02-27T01:00:00Z")

theorem window_hour : window (some "2026-02-27T00:00:00Z") (some "2026-02-27T01:00:00Z") false =
    .ok ⟨⟨1772150400000000⟩, ⟨1772154000000000⟩⟩ := by
  have start : timestamp? (trim "2026-02-27T00:00:00Z".toList) = some ⟨1772150400000000⟩ := by
    decide +kernel
  have stop : timestamp? (trim "2026-02-27T01:00:00Z".toList) = some ⟨1772154000000000⟩ := by
    decide +kernel
  rw [window, instant_of_timestamp start, instant_of_timestamp stop]
  rfl

/-- An entry that only has a time. -/
def entryAt (micros : Int) : Entry := ⟨⟨micros⟩, none, none, none, none, none, none⟩

theorem ofLine_dated : ofLine (dated "1772150400000001").toList =
    .ok (some (entryAt 1772150400000001)) := by
  have denotes : Json.Denotes lineLimits (dated "1772150400000001").toList
      (.obj [("__REALTIME_TIMESTAMP", .ofString "1772150400000001")]) :=
    Json.read_eq_ok_iff.mp (by decide +kernel)
  exact ofLine_of_denotes denotes

/-- Two lines with an entry each. -/
def bothRead : String := dated "1772150400000001" ++ "\n" ++ dated "1772150400000001"

/-- Two lines, and one of them is no document. -/
def oneRead : String := dated "1772150400000001" ++ "\n" ++ "\x7bbad"

theorem listLogs_over_journal_both_read :
    ∃ page, (hourOf bothRead).outcome = .ok page ∧ page.truncated = true := by
  have seen : lines bothRead.toList =
      [(dated "1772150400000001").toList, (dated "1772150400000001").toList] := by
    decide +kernel
  have filled : filledLines bothRead =
      [(dated "1772150400000001").toList, (dated "1772150400000001").toList] := by
    decide +kernel
  have whole : lines (dated "1772150400000001").toList = [(dated "1772150400000001").toList] := by
    decide +kernel
  obtain ⟨errors, pages⟩ := @listLogs_over_journal
    ⟨.done [], Journal.read (printing bothRead) (.whole 10) 2, some 2, fun _ => none⟩
    (printing bothRead) (.whole 10) 2 ⟨0⟩ _ _ bothRead rfl rfl (LogsRequest.query_within window_hour)
    (outcome_run_printing rfl bothRead _)
  cases outcome : (hourOf bothRead).outcome with
  | error f =>
      obtain ⟨_, line, mem, spoils⟩ := (errors f).mp outcome
      rw [seen, List.mem_cons, List.mem_singleton, or_self] at mem
      rw [mem, Spoils, ← ofLine_iff, ofLine_dated] at spoils
      cases spoils
  | ok page =>
      obtain ⟨given, o, limit, ranked, each, -, -, -, -, marked, -⟩ := pages page outcome
      refine ⟨page, rfl, marked.mpr (.inl ?_)⟩
      have yielded : ∀ entries, Yields (dated "1772150400000001").toList entries →
          entries = [entryAt 1772150400000001] := by
        intro entries yields
        have read := yields_iff.mpr yields
        rw [whole, entriesOf, List.mapM_cons, ofLine_dated] at read
        exact (Except.ok.inj read).symm
      rw [filled] at each
      cases each with
      | cons first rest =>
          cases rest with
          | cons second rest =>
              cases rest
              rw [yielded _ first, yielded _ second]
              decide

/-- At the limit, and not marked. -/
theorem hourOf_oneRead : (filledLines oneRead).length = 2 ∧
    ∃ page, (hourOf oneRead).outcome = .ok page ∧ page.truncated = false := by
  have seen : lines oneRead.toList = [(dated "1772150400000001").toList, "\x7bbad".toList] := by
    decide +kernel
  have bad : ofLine "\x7bbad".toList = .ok none := rfl
  have rows : ofOutput oneRead = .ok [entryAt 1772150400000001] := by
    rw [ofOutput_eq, seen, entriesOf, List.mapM_cons, ofLine_dated, List.mapM_cons, bad]
    rfl
  have read : (Journal.read (printing oneRead) (.whole 10) 2
      ⟨⟨1772150400000000⟩, ⟨1772154000000000⟩⟩ none none).outcome =
        .ok [entryAt 1772150400000001] :=
    (Run.outcome_bind_of_ok (outcome_run_printing rfl oneRead _) _).trans rows
  have accepted := @LogsRequest.query_within (fun _ => none) _ _ _ window_hour
  refine ⟨by decide +kernel, _, outcome_listLogs accepted read, ?_⟩
  rw [Bool.eq_false_iff, Ne, LogsQuery.truncated_iff accepted]
  rintro (capped | more)
  · exact absurd capped (by decide)
  · have few := Int.lt_of_lt_of_le more (Int.ofNat_le.mpr (LogsQuery.length_ranked_le _ _))
    exact absurd few (by decide)

end HostMonitor.Query
