import HostMonitor.Journal.Entry
import HostMonitor.Run.Report
import HostMonitor.Text.Letters
import HostMonitor.Text.Split

/-!
# Arguments of queries

Each function reads one argument and gives its normal form, or a report that
names the argument and shows it as it was given.  An argument that is left out
has a standard value or none.

A text that is no text of characters is refused wherever the argument has a
fixed form.  As a fragment of a name it is kept, and no name holds it.
-/

namespace HostMonitor.Query

open Text Time Journal

/-- The text of an argument without blanks around it, when it is one of
characters. -/
def trimmed? (given : WireText) : Option String := given.chars?.map strip

/-- The argument is left out, or it holds nothing but blanks. -/
def isBlankText : Option WireText → Bool
  | none => true
  | some (.chars s) => blank s
  | some (.broken ..) => false

/-! ## Limits -/

/-- The number of items to return: from one to `most`. -/
def limit (given : Json) (standard most : Int) : Checked Int :=
  match given with
  | .null => .ok standard
  | .int n => if 1 ≤ n ∧ n ≤ most then .ok n else refused
  | _ => refused
where
  refused : Checked Int :=
    .error (.argument ("limit must be between 1 and " ++ toString most) "invalid_limit"
      [("limit", given)])

/-- A limit lies between one and the most. -/
theorem limit_bounds {given : Json} {standard most n : Int} (h : limit given standard most = .ok n)
    (hs : 1 ≤ standard) (hm : standard ≤ most) : 1 ≤ n ∧ n ≤ most := by
  cases given with
  | null =>
      cases h
      exact ⟨hs, hm⟩
  | int k =>
      simp only [limit] at h
      split at h
      · cases h
        assumption
      · cases h
  | bool _ => cases h
  | float _ => cases h
  | str _ => cases h
  | arr _ => cases h
  | obj _ => cases h

/-- The number of services to return when none is given. -/
def standardServices : Int := 200

def mostServices : Int := 1000

/-- The number of entries to return when none is given. -/
def standardEntries : Int := 200

def mostEntries : Int := 1000

/-! ## Services -/

/-- The states that a service can be asked for. -/
def serviceStates : List String :=
  ["active", "inactive", "failed", "activating", "deactivating", "reloading"]

/-- The state to ask for, in small letters. -/
def serviceState (given : Option WireText) : Checked (Option String) :=
  match given with
  | none => .ok none
  | some text =>
    match (trimmed? text).map lower with
    | some state => if serviceStates.contains state then .ok (some state) else refused text
    | none => refused text
where
  refused (text : WireText) : Checked (Option String) :=
    .error (.argument ("state must be one of: " ++ ", ".intercalate serviceStates)
      "invalid_state" [("state", .str text)])

/-- The fragment that names have to hold; nothing when it is blank. -/
def nameFragment : Option WireText → Option WireText
  | some (.chars s) => if blank s then none else some (.chars (strip s))
  | given => given

def holdsFragment (name : String) : WireText → Bool
  | .chars fragment => holds name fragment
  | .broken .. => false

/-! ## Entries -/

def priorityWords : List (String × Int) :=
  [("emerg", 0), ("panic", 0), ("alert", 1), ("crit", 2), ("critical", 2), ("err", 3),
   ("error", 3), ("warning", 4), ("warn", 4), ("notice", 5), ("info", 6),
   ("informational", 6), ("debug", 7)]

/-- The priority that a text without blanks around it names: one digit or a
word in small letters. -/
def namedPriority? (name : String) : Option Int :=
  match name.toList with
  | [c] => if '0' ≤ c ∧ c ≤ '7' then some (c.toNat - 0x30 : Nat) else none
  | _ => priorityWords.lookup name

/-- The least urgent priority to return. -/
def threshold (given : Json) : Checked (Option Int) :=
  match given with
  | .null => .ok none
  | .int n => if 0 ≤ n ∧ n ≤ 7 then .ok (some n) else refused
  | .str (.chars s) =>
    match namedPriority? (lower (strip s)) with
    | some n => .ok (some n)
    | none => refused
  | _ => refused
where
  refused : Checked (Option Int) :=
    .error (.argument
      "priority must be one of 0-7 or: emerg, alert, crit, err, warning, notice, info, debug"
      "invalid_priority" [("priority", given)])

def isUnitChar (c : Char) : Bool :=
  c.isAlphanum || c == '.' || c == '-' || c == '_' || c == '@' || c == ':'

def isUnitName (s : String) : Bool := !s.isEmpty && s.toList.all isUnitChar

/-- The name of a unit. -/
def unitName (given : WireText) : Checked String :=
  match trimmed? given with
  | some name => if isUnitName name then .ok name else refused
  | none => refused
where
  refused : Checked String :=
    .error (.argument
      "unit must contain only alphanumeric characters, dashes, underscores, dots, @, and :"
      "invalid_unit" [("unit", .str given)])

/-- The name of a unit, if one is given. -/
def unitFilter : Option WireText → Checked (Option String)
  | none => .ok none
  | some given => (unitName given).map some

/-- In which order entries are returned. -/
inductive Order where
  | ascending
  | descending
  deriving DecidableEq, Repr

def Order.word : Order → String
  | .ascending => "asc"
  | .descending => "desc"

/-- The order to return entries in; the newest first when none is given. -/
def order (given : Option WireText) : Checked Order :=
  if isBlankText given then .ok .descending
  else
    match (given.bind trimmed?).map lower with
    | some "asc" => .ok .ascending
    | some "desc" => .ok .descending
    | _ =>
      .error (.argument "order must be one of: asc, desc" "invalid_order"
        [("order", match given with | some text => .str text | none => .null)])

/-! ## Windows -/

/-- The widest window that needs no permission, in days. -/
def widestDays : Nat := 7

/-- The instant of a timestamp; nothing when it is blank. -/
def instant (given : Option WireText) : Checked (Option Instant) :=
  match given with
  | none => .ok none
  | some text =>
    if isBlankText given then .ok none
    else
      match (trimmed? text).bind fun s => timestamp? s.toList with
      | some t => .ok (some t)
      | none =>
        .error (.argument "timestamps must be RFC3339 UTC format ending with Z"
          "invalid_utc_time" [("value", .str text)])

/-- A text that is a timestamp but for blanks around it gives its instant. -/
theorem instant_of_timestamp {s : String} {t : Instant}
    (h : timestamp? (trim s.toList) = some t) : instant (some (.chars s)) = .ok (some t) := by
  have filled : isBlankText (some (.chars s)) = false := by
    cases hb : blank s with
    | false => exact hb
    | true =>
        rw [trim_of_all_blank hb] at h
        cases h
  simp [instant, filled, trimmed?, WireText.chars?, toList_strip, h]

/-- What is taken for an instant is a timestamp. -/
theorem timestamp_of_instant {given : Option WireText} {t : Instant}
    (h : instant given = .ok (some t)) : ∃ cs, timestamp? cs = some t := by
  unfold instant at h
  split at h
  · cases h
  · split at h
    · cases h
    · split at h
      · next found =>
          cases h
          obtain ⟨s, _, read⟩ := Option.bind_eq_some_iff.mp found
          exact ⟨s.toList, read⟩
      · cases h

/-- An argument as it was given. -/
def echo : Option WireText → Json
  | some text => .str text
  | none => .null

/-- The window between two timestamps.  The second is after the first, and not
too long after it unless `large` permits that. -/
def window (start stop : Option WireText) (large : Bool) : Checked Window := do
  let first ← instant start
  let last ← instant stop
  match first, last with
  | some first, some last =>
    if last ≤ first then
      .error (.argument "start_utc must be strictly less than end_utc" "invalid_time_range"
        [("start_utc", echo start), ("end_utc", echo stop)])
    else if !large && decide (last.micros - first.micros > widestDays * Instant.dayMicros) then
      .error (.argument "time window must not exceed 7 days unless allow_large_window is true"
        "window_too_large" [("max_days", .ofNat widestDays)])
    else .ok ⟨first, last⟩
  | _, _ => .error (.argument "start_utc and end_utc are required" "missing_time_range" [])

/-- The bounds of a window are those that are given, the first before the second. -/
theorem window_eq_ok {start stop : Option WireText} {large : Bool} {w : Window}
    (h : window start stop large = .ok w) :
    instant start = .ok (some w.start) ∧ instant stop = .ok (some w.stop) ∧ w.start < w.stop := by
  rw [window] at h
  obtain ⟨first, hFirst, h⟩ := bind_eq_ok.mp h
  obtain ⟨last, hLast, h⟩ := bind_eq_ok.mp h
  split at h
  · split at h
    · cases h
    · next before =>
        split at h
        · cases h
        · cases h
          exact ⟨hFirst, hLast, Int.not_le.mp before⟩
  · cases h

end HostMonitor.Query
