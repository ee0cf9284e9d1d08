import HostMonitor.Proofs.Meanings
import HostMonitor.Query.Logs
import HostMonitor.Query.Services

/-!
# What is wrong with a query

The arguments of a query are read one after another, and every way in which one of them
can be wrong is an item.  `Objects` says of a request which items object and what they
report.  `Normal` says that every argument means something, and what a source is asked for
then.

A request that has several things wrong with it gets the report of the first one, and no
source is asked.  A request that has nothing wrong with it asks its source once.
-/

namespace HostMonitor.Query

open Journal Text Time

/-! ## Items -/

/-- What can be wrong with a list of entries, in the order in which it is looked for. -/
inductive LogsItem
  | start
  | stop
  /-- A bound is missing. -/
  | missing
  /-- The first bound is not before the second. -/
  | sequence
  /-- The window is too wide. -/
  | width
  | priority
  | unit
  | excludeUnits
  | order
  | grep
  | limit
  deriving DecidableEq

def LogsItem.inOrder : List LogsItem :=
  [.start, .stop, .missing, .sequence, .width, .priority, .unit, .excludeUnits, .order, .grep,
   .limit]

/-- What an item has against a request. -/
inductive LogsRequest.Objects (names : Pattern.CharNames) (r : LogsRequest) :
    LogsItem → Fault → Prop
  | start {text : WireText} : r.start = some text → NoTimestamp text →
      r.Objects names .start (timestampRefusal text)
  | stop {text : WireText} : r.stop = some text → NoTimestamp text →
      r.Objects names .stop (timestampRefusal text)
  | missing : isBlankText r.start = true ∨ isBlankText r.stop = true →
      r.Objects names .missing (refusal "start_utc and end_utc are required" "missing_time_range" [])
  | sequence {first last : Instant} : GivesInstant r.start first → GivesInstant r.stop last →
      last ≤ first →
      r.Objects names .sequence (refusal "start_utc must be strictly less than end_utc"
        "invalid_time_range" [("start_utc", echo r.start), ("end_utc", echo r.stop)])
  | width {first last : Instant} : GivesInstant r.start first → GivesInstant r.stop last →
      r.allowLargeWindow = false → 7 * 86400000000 < last.micros - first.micros →
      r.Objects names .width (refusal
        "time window must not exceed 7 days unless allow_large_window is true"
        "window_too_large" [("max_days", .int 7)])
  | priority : (∀ threshold, ¬ GivesThreshold r.priority threshold) →
      r.Objects names .priority (refusal
        "priority must be one of 0-7 or: emerg, alert, crit, err, warning, notice, info, debug"
        "invalid_priority" [("priority", r.priority)])
  | unit {text : WireText} {f : Fault} :
      r.unit = some text → NoUnit text f → r.Objects names .unit f
  /-- The first text that names no unit is reported. -/
  | excludeUnits {f : Fault} : First NoUnit r.excludeUnits f → r.Objects names .excludeUnits f
  | order : (∀ o, ¬ GivesOrder r.order o) →
      r.Objects names .order (refusal "order must be one of: asc, desc" "invalid_order"
        [("order", echo r.order)])
  | grep {text : WireText} {f : Fault} :
      r.grep = some text → NoSearch names text f → r.Objects names .grep f
  | limit : (∀ n, ¬ GivesLimit 200 1000 r.limit n) →
      r.Objects names .limit (refusal "limit must be between 1 and 1000" "invalid_limit"
        [("limit", r.limit)])

/-- What can be wrong with a list of services, in the order in which it is looked for. -/
inductive ServicesItem
  | state
  | limit
  deriving DecidableEq

def ServicesItem.inOrder : List ServicesItem := [.state, .limit]

/-- What an item has against a request. -/
inductive ServicesRequest.Objects (r : ServicesRequest) : ServicesItem → Fault → Prop
  | state {text : WireText} : r.state = some text → (∀ state, ¬ GivesState r.state state) →
      r.Objects .state (refusal ("state must be one of: " ++ ", ".intercalate serviceStates)
        "invalid_state" [("state", .str text)])
  | limit : (∀ n, ¬ GivesLimit 200 1000 r.limit n) →
      r.Objects .limit (refusal "limit must be between 1 and 1000" "invalid_limit"
        [("limit", r.limit)])

/-! ## Requests with nothing wrong -/

/-- The bounds of the window are given, and it is not too wide. -/
structure LogsRequest.Spans (r : LogsRequest) (w : Window) : Prop where
  start : GivesInstant r.start w.start
  stop : GivesInstant r.stop w.stop
  forward : w.start < w.stop
  width : r.allowLargeWindow = true ∨ w.stop.micros - w.start.micros ≤ 7 * 86400000000

/-- Every argument of the request has a meaning, and this is what the source is asked for. -/
structure LogsRequest.Normal (names : Pattern.CharNames) (r : LogsRequest) (w : Window)
    (most : Option Int)
    (name : Option String) : Prop where
  spans : r.Spans w
  threshold : GivesThreshold r.priority most
  bounded : ∀ n, most = some n → 0 ≤ n ∧ n ≤ 7
  unit : GivesUnit r.unit name
  excluded : ∀ text ∈ r.excludeUnits, ∃ name, NamesUnit text name
  order : ∃ o, GivesOrder r.order o
  search : ∀ text, r.grep = some text → ∀ f, ¬ NoSearch names text f
  limit : ∃ n, GivesLimit 200 1000 r.limit n

/-- Every argument of the request has a meaning. -/
structure ServicesRequest.Normal (r : ServicesRequest) : Prop where
  state : ∃ state, GivesState r.state state
  limit : ∃ n, GivesLimit 200 1000 r.limit n

/-! ## Lists of entries -/

section

variable {names : Pattern.CharNames} {r : LogsRequest}

/-- The item is about an argument, or about two, with a meaning. -/
inductive LogsRequest.Fine (names : Pattern.CharNames) (r : LogsRequest) : LogsItem → Prop
  | start {t : Option Instant} : ReadsBound r.start t → r.Fine names .start
  | stop {t : Option Instant} : ReadsBound r.stop t → r.Fine names .stop
  | missing {first last : Instant} : GivesInstant r.start first → GivesInstant r.stop last →
      r.Fine names .missing
  | sequence {first last : Instant} : GivesInstant r.start first → GivesInstant r.stop last →
      first < last → r.Fine names .sequence
  | width {first last : Instant} : GivesInstant r.start first → GivesInstant r.stop last →
      r.allowLargeWindow = true ∨ last.micros - first.micros ≤ 7 * 86400000000 → r.Fine names .width
  | priority {most : Option Int} : GivesThreshold r.priority most → r.Fine names .priority
  | unit {name : Option String} : GivesUnit r.unit name → r.Fine names .unit
  | excludeUnits : (∀ text ∈ r.excludeUnits, ∃ name, NamesUnit text name) → r.Fine names .excludeUnits
  | order {o : Order} : GivesOrder r.order o → r.Fine names .order
  | grep : (∀ text, r.grep = some text → ∀ f, ¬ NoSearch names text f) → r.Fine names .grep
  | limit {n : Int} : GivesLimit 200 1000 r.limit n → r.Fine names .limit

/-- An item that is fine does not object. -/
theorem LogsRequest.Fine.silent {item : LogsItem} (fine : r.Fine names item) (f : Fault) :
    ¬ r.Objects names item f := by
  intro objection
  cases fine with
  | start reads => cases objection with
    | start given unread => exact (given ▸ reads).not_noTimestamp unread
  | stop reads => cases objection with
    | stop given unread => exact (given ▸ reads).not_noTimestamp unread
  | missing start stop => cases objection with
    | missing blank => simp [start.filled, stop.filled] at blank
  | sequence start stop forward => cases objection with
    | sequence start' stop' order =>
        rw [start'.unique start, stop'.unique stop] at order
        exact absurd forward (Int.not_lt.mpr order)
  | width start stop width => cases objection with
    | width start' stop' closed wide =>
        rw [start'.unique start, stop'.unique stop] at wide
        rcases width with large | narrow
        · cases closed.symm.trans large
        · exact absurd wide (Int.not_lt.mpr narrow)
  | priority gives => cases objection with
    | priority unread => exact unread _ gives
  | unit gives => cases objection with
    | unit given unnamed =>
        rw [given] at gives
        cases gives with
        | named names => exact unnamed.not_names names
  | excludeUnits named => cases objection with
    | excludeUnits first =>
        obtain ⟨text, mem, unnamed⟩ := first.exists_mem
        obtain ⟨name, names⟩ := named text mem
        exact unnamed.not_names names
  | order gives => cases objection with
    | order unread => exact unread _ gives
  | grep searches => cases objection with
    | grep given search => exact searches _ given f search
  | limit gives => cases objection with
    | limit unread => exact unread _ gives

/-- An item has one objection at most. -/
theorem LogsRequest.Objects.unique {item : LogsItem} {f g : Fault}
    (objection : r.Objects names item f)
    (objection' : r.Objects names item g) : f = g := by
  cases objection with
  | start given => cases objection' with
    | start given' => rw [Option.some.inj (given.symm.trans given')]
  | stop given => cases objection' with
    | stop given' => rw [Option.some.inj (given.symm.trans given')]
  | missing => cases objection'; rfl
  | sequence => cases objection'; rfl
  | width => cases objection'; rfl
  | priority => cases objection'; rfl
  | unit given unnamed => cases objection' with
    | unit given' unnamed' =>
        obtain rfl := Option.some.inj (given.symm.trans given')
        exact unnamed.unique unnamed'
  | excludeUnits first => cases objection' with
    | excludeUnits first' => exact First.unique (fun _ _ _ h h' => h.unique h') first first'
  | order => cases objection'; rfl
  | grep given search => cases objection' with
    | grep given' search' =>
        obtain rfl := Option.some.inj (given.symm.trans given')
        exact search.unique search'
  | limit => cases objection'; rfl

/-- There is one way to ask the source. -/
theorem LogsRequest.Normal.unique {w w' : Window} {most most' : Option Int}
    {name name' : Option String} (normal : r.Normal names w most name)
    (normal' : r.Normal names w' most' name') : w = w' ∧ most = most' ∧ name = name' := by
  have start : w.start = w'.start := normal.spans.start.unique normal'.spans.start
  have stop : w.stop = w'.stop := normal.spans.stop.unique normal'.spans.stop
  refine ⟨?_, normal.threshold.unique normal'.threshold, normal.unit.unique normal'.unit⟩
  cases w
  cases w'
  cases start
  cases stop
  rfl

theorem LogsRequest.Normal.fine {w : Window} {most : Option Int} {name : Option String}
    (normal : r.Normal names w most name) : ∀ item, r.Fine names item
  | .start => .start (.instant normal.spans.start)
  | .stop => .stop (.instant normal.spans.stop)
  | .missing => .missing normal.spans.start normal.spans.stop
  | .sequence => .sequence normal.spans.start normal.spans.stop normal.spans.forward
  | .width => .width normal.spans.start normal.spans.stop normal.spans.width
  | .priority => .priority normal.threshold
  | .unit => .unit normal.unit
  | .excludeUnits => .excludeUnits normal.excluded
  | .order => normal.order.elim fun _ => .order
  | .grep => .grep normal.search
  | .limit => normal.limit.elim fun _ => .limit

end

/-! ## Lists of services -/

section

variable {r : ServicesRequest}

theorem ServicesRequest.Objects.unique {item : ServicesItem} {f g : Fault}
    (objection : r.Objects item f) (objection' : r.Objects item g) : f = g := by
  cases objection with
  | state given => cases objection' with
    | state given' => rw [Option.some.inj (given.symm.trans given')]
  | limit => cases objection'; rfl

theorem ServicesRequest.Normal.silent (normal : r.Normal) (item : ServicesItem) (f : Fault) :
    ¬ r.Objects item f := by
  intro objection
  cases objection with
  | state _ unread => exact normal.state.elim unread
  | limit unread => exact normal.limit.elim unread

end

/-! ## Queries -/

/-- What a list of entries does with the normal form of its arguments. -/
def LogsQuery.answer (s : Sources) (now : Instant) (q : LogsQuery) : Run LogsPage := do
  let rows ← s.askLogs q.window q.threshold q.unit
  noteScanLimit s.scanLimit rows.length
  return q.page now s.scanLimit rows

end HostMonitor.Query
