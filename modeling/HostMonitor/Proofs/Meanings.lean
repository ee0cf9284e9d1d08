import HostMonitor.Proofs.Commands
import HostMonitor.Proofs.Objections
import HostMonitor.Query.Grep

/-!
# What arguments of queries mean

A relation says what an argument means: which instant a bound gives, which priority, which
unit.  It does not say how this is found.  For each function that reads an argument there
is one theorem.  The value is one that the argument means, and a failure is reported only
where the argument means nothing.
-/

namespace HostMonitor.Query

open Text Time

/-- The failure of an argument: its text, its word, and what it shows. -/
def refusal (message code : String) (details : Json.Fields) : Fault :=
  .reported ⟨.validation, message, code, details⟩

/-- The argument is a timestamp, but for blanks around it. -/
def GivesInstant (given : Option WireText) (t : Instant) : Prop :=
  ∃ s, given = some (.chars s) ∧ timestamp? (trim s.toList) = some t

theorem GivesInstant.unique {given : Option WireText} {t t' : Instant}
    (gives : GivesInstant given t) (gives' : GivesInstant given t') : t = t' := by
  obtain ⟨s, rfl, read⟩ := gives
  obtain ⟨s', same, read'⟩ := gives'
  cases same
  exact Option.some.inj (read.symm.trans read')

/-- A timestamp is not blank. -/
theorem GivesInstant.filled {given : Option WireText} {t : Instant} (gives : GivesInstant given t) :
    isBlankText given = false := by
  obtain ⟨s, rfl, read⟩ := gives
  rw [Bool.eq_false_iff]
  intro empty
  rw [trim_of_all_blank empty] at read
  cases read

/-- The text is not blank, and it is no timestamp. -/
def NoTimestamp (text : WireText) : Prop :=
  isBlankText (some text) = false ∧
    ∀ s, text = .chars s → timestamp? (trim s.toList) = none

def timestampRefusal (text : WireText) : Fault :=
  refusal "timestamps must be RFC3339 UTC format ending with Z" "invalid_utc_time"
    [("value", .str text)]

/-- What is read of a bound.  Of a blank one it is nothing. -/
inductive ReadsBound (given : Option WireText) : Option Instant → Prop
  | blank : isBlankText given = true → ReadsBound given none
  | instant {t : Instant} : GivesInstant given t → ReadsBound given (some t)

theorem ReadsBound.not_noTimestamp {text : WireText} {t : Option Instant}
    (reads : ReadsBound (some text) t) : ¬ NoTimestamp text := by
  rintro ⟨filled, unread⟩
  cases reads with
  | blank empty => exact absurd (filled.symm.trans empty) Bool.false_ne_true
  | instant gives =>
      obtain ⟨s, same, read⟩ := gives
      rw [unread s (Option.some.inj same)] at read
      cases read

/-- The least urgent priority that the argument names. -/
inductive GivesThreshold : Json → Option Int → Prop
  | none : GivesThreshold .null none
  | level {n : Int} : 0 ≤ n → n ≤ 7 → GivesThreshold (.int n) (some n)
  | named {s : String} {n : Int} : namedPriority? (lower (strip s)) = some n →
      GivesThreshold (.str (.chars s)) (some n)

theorem GivesThreshold.unique {given : Json} {most most' : Option Int}
    (gives : GivesThreshold given most) (gives' : GivesThreshold given most') : most = most' := by
  cases gives with
  | none => cases gives' with
    | none => rfl
  | level => cases gives' with
    | level => rfl
  | named found => cases gives' with
    | named found' => exact found.symm.trans found'

theorem GivesThreshold.bounds {given : Json} {n : Int} (gives : GivesThreshold given (some n)) :
    0 ≤ n ∧ n ≤ 7 := by
  cases gives with
  | level low high => exact ⟨low, high⟩
  | named found => exact namedPriority?_bounds found

/-- The text names a unit, but for blanks around it. -/
def NamesUnit (text : WireText) (name : String) : Prop :=
  ∃ s, text = .chars s ∧ name = strip s ∧ isUnitName name = true

def unitRefusal (text : WireText) : Fault :=
  refusal "unit must contain only alphanumeric characters, dashes, underscores, dots, @, and :"
    "invalid_unit" [("unit", .str text)]

/-- The text is no name of a unit. -/
inductive NoUnit : WireText → Fault → Prop
  | refused {text : WireText} : (∀ name, ¬ NamesUnit text name) → NoUnit text (unitRefusal text)

theorem NoUnit.unique {text : WireText} {f g : Fault} (objection : NoUnit text f)
    (objection' : NoUnit text g) : f = g := by
  cases objection
  cases objection'
  rfl

theorem NoUnit.not_names {text : WireText} {f : Fault} {name : String} (objection : NoUnit text f) :
    ¬ NamesUnit text name := by
  cases objection with
  | refused unnamed => exact unnamed name

/-- The unit that the argument names, if there is one. -/
inductive GivesUnit : Option WireText → Option String → Prop
  | none : GivesUnit none none
  | named {text : WireText} {name : String} : NamesUnit text name →
      GivesUnit (some text) (some name)

theorem GivesUnit.unique {given : Option WireText} {name name' : Option String}
    (gives : GivesUnit given name) (gives' : GivesUnit given name') : name = name' := by
  cases gives with
  | none => cases gives' with
    | none => rfl
  | named names => cases gives' with
    | named names' =>
        obtain ⟨s, rfl, rfl, -⟩ := names
        obtain ⟨s', same, rfl, -⟩ := names'
        cases same
        rfl

/-- The order that the argument names: the newest first when it is blank. -/
inductive GivesOrder : Option WireText → Order → Prop
  | blank {given : Option WireText} : isBlankText given = true → GivesOrder given .descending
  | named {s : String} {o : Order} : lower (strip s) = o.word → GivesOrder (some (.chars s)) o

/-- The limit that the argument sets. -/
inductive GivesLimit (standard most : Int) : Json → Int → Prop
  | none : GivesLimit standard most .null standard
  | number {n : Int} : 1 ≤ n → n ≤ most → GivesLimit standard most (.int n) n

/-- The state that the argument names, if there is one. -/
inductive GivesState : Option WireText → Option String → Prop
  | none : GivesState none none
  | named {s : String} : lower (strip s) ∈ serviceStates →
      GivesState (some (.chars s)) (some (lower (strip s)))

section

variable {names : Pattern.CharNames} {text : WireText}

/-- The text is no search, and this is how it fails.  One that stands between slashes and
is no pattern is reported.  A pattern that is out of reach breaks the query down. -/
inductive NoSearch (names : Pattern.CharNames) (text : WireText) : Fault → Prop
  | malformed {inner : List Nat} : betweenSlashes? (trimmedPoints text) = some inner →
      Pattern.Expression.read names inner = .error .malformed →
      NoSearch names text
        (refusal "grep regex pattern is invalid" "invalid_grep" [("grep", .str text)])
  | beyondReach {inner : List Nat} : betweenSlashes? (trimmedPoints text) = some inner →
      Pattern.Expression.read names inner = .error .beyondReach →
      NoSearch names text beyondReach

theorem NoSearch.unique {f g : Fault} (search : NoSearch names text f)
    (search' : NoSearch names text g) : f = g := by
  cases search with
  | malformed slashes unread => cases search' with
    | malformed => rfl
    | beyondReach slashes' unread' =>
        obtain rfl := Option.some.inj (slashes.symm.trans slashes')
        cases unread.symm.trans unread'
  | beyondReach slashes unread => cases search' with
    | malformed slashes' unread' =>
        obtain rfl := Option.some.inj (slashes.symm.trans slashes')
        cases unread.symm.trans unread'
    | beyondReach => rfl

end

end HostMonitor.Query
