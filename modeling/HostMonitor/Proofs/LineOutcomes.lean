import HostMonitor.Proofs.JournalLines

/-!
# What lines of the journal come to

What a line gives is said by what it denotes.  `Dates` says when a record is from,
`Numbers` which number a field has, `RecordGives` and `LineGives` which entry there
is, or that there is none.  A reader for each of them gives just that.

A few lines spoil the whole read: a time outside the calendar, a number in digits
that are not decimal or in too many, and nesting that the reader gives up on.  When
no line does, each line gives its own entry or none, whatever the others are.

`ofOutput_by_lines` says so, and that two outputs with a line feed between them are
read one after the other.
-/

namespace HostMonitor.Journal

open Number Text Time

/-! ## Times -/

/-- The value stands for a number of microseconds. -/
inductive Counts : Json → Int → Prop where
  | int (n : Int) : Counts (.int n) n
  | bool (b : Bool) : Counts (.bool b) (if b then 1 else 0)
  /-- The part of a number behind the point does not count. -/
  | float {x : Binary64} {n : Int} : x.truncate? = some n → Counts (.float x) n
  | text {s : String} {n : Int} : int? s.toList = some n → Counts (.str (.chars s)) n

/-- When a record is from. -/
inductive Dates (fields : Json.Fields) : Except Fault (Option Instant) → Prop where
  | missing : fields.get? "__REALTIME_TIMESTAMP" = none → Dates fields (.ok none)
  | unreadable {value : Json} : fields.get? "__REALTIME_TIMESTAMP" = some value →
      (∀ negative, value ≠ .float (.infinite negative)) → (∀ n, ¬ Counts value n) →
      Dates fields (.ok none)
  | inside {value : Json} {t : Instant} : fields.get? "__REALTIME_TIMESTAMP" = some value →
      Counts value t.micros → Instant.first ≤ t → t ≤ Instant.last → Dates fields (.ok (some t))
  /-- The time lies outside the calendar. -/
  | outside {value : Json} {t : Instant} : fields.get? "__REALTIME_TIMESTAMP" = some value →
      Counts value t.micros → ¬ (Instant.first ≤ t ∧ t ≤ Instant.last) →
      Dates fields (.error .unconvertible)
  | infinite {negative : Bool} :
      fields.get? "__REALTIME_TIMESTAMP" = some (.float (.infinite negative)) →
      Dates fields (.error .unconvertible)

theorem microseconds_of_counts {value : Json} {n : Int} (h : Counts value n) :
    microseconds value = .ok (some n) := by
  cases h with
  | int n => rfl
  | bool b => rfl
  | @float x n whole =>
      cases x with
      | finite negative mantissa exponent => exact congrArg Except.ok whole
      | infinite negative => cases whole
      | nan => cases whole
  | text read => exact congrArg Except.ok read

theorem counts_of_microseconds {value : Json} {n : Int} (h : microseconds value = .ok (some n)) :
    Counts value n := by
  rw [microseconds.eq_def] at h
  split at h
  · cases h
    exact .int _
  · cases h
    exact .bool _
  · cases h
  · exact .float (Except.ok.inj h)
  · exact .text (Except.ok.inj h)
  · cases h

/-- Only an infinite number is a fault. -/
theorem microseconds_cases (value : Json) :
    (∃ negative, value = .float (.infinite negative)) ∨ ∃ o, microseconds value = .ok o := by
  rw [microseconds.eq_def]
  split
  · exact .inr ⟨_, rfl⟩
  · exact .inr ⟨_, rfl⟩
  · exact .inl ⟨_, rfl⟩
  · exact .inr ⟨_, rfl⟩
  · exact .inr ⟨_, rfl⟩
  · exact .inr ⟨_, rfl⟩

theorem inRange_iff {t : Instant} :
    t.inRange = true ↔ Instant.first ≤ t ∧ t ≤ Instant.last := by
  simp [Instant.inRange]

/-- The time of a record is the one it is from. -/
theorem timeOf_iff {fields : Json.Fields} {o : Except Fault (Option Instant)} :
    timeOf fields = o ↔ Dates fields o := by
  constructor
  · rintro rfl
    rw [timeOf]
    cases found : fields.get? "__REALTIME_TIMESTAMP" with
    | none => exact .missing found
    | some value =>
        dsimp only
        rcases microseconds_cases value with ⟨negative, rfl⟩ | ⟨o, read⟩
        · exact .infinite found
        · rw [read]
          cases o with
          | none =>
              refine .unreadable found ?_ ?_
              · rintro negative rfl
                cases read
              · intro n counts
                cases read.symm.trans (microseconds_of_counts counts)
          | some n =>
              have counts := counts_of_microseconds read
              dsimp only [bind, Except.bind]
              split
              · next inside =>
                  obtain ⟨first, last⟩ := inRange_iff.mp inside
                  exact .inside found counts first last
              · next outside =>
                  exact .outside (t := ⟨n⟩) found counts fun h => outside (inRange_iff.mpr h)
  · intro h
    cases h with
    | missing none =>
        rw [timeOf, none]
        rfl
    | @unreadable value found finite none =>
        obtain ⟨o, read⟩ : ∃ o, microseconds value = .ok o := by
          rcases microseconds_cases value with ⟨negative, infinite⟩ | read
          · exact absurd infinite (finite negative)
          · exact read
        cases o with
        | none =>
            rw [timeOf, found]
            dsimp only
            rw [read]
            rfl
        | some n => exact absurd (counts_of_microseconds read) (none n)
    | inside found counts first last =>
        rw [timeOf, found]
        dsimp only
        rw [microseconds_of_counts counts]
        exact if_pos (inRange_iff.mpr ⟨first, last⟩)
    | outside found counts outside =>
        rw [timeOf, found]
        dsimp only
        rw [microseconds_of_counts counts]
        exact if_neg fun h => outside (inRange_iff.mp h)
    | infinite found =>
        rw [timeOf, found]
        rfl

/-! ## Numbers -/

/-- The text looks like a number: it consists of digits of some kind. -/
def LooksNumeric (s : String) : Prop := s ≠ "" ∧ ∀ c ∈ s.toList, isDigitLike c = true

/-- Which number the field of a record has. -/
inductive Numbers (key : String) (fields : Json.Fields) : Except Fault (Option Int) → Prop where
  | missing : field key fields = none → Numbers key fields (.ok none)
  /-- A surrogate is no digit. -/
  | lone {text : WireText} : field key fields = some text → text.chars? = none →
      Numbers key fields (.ok none)
  | other {s : String} : field key fields = some (.chars s) → ¬ LooksNumeric s →
      Numbers key fields (.ok none)
  | number {s : String} {n : Int} : field key fields = some (.chars s) → LooksNumeric s →
      int? s.toList = some n → Numbers key fields (.ok (some n))
  /-- It looks like a number and is none: a digit is not decimal, or there are too many. -/
  | noNumber {s : String} : field key fields = some (.chars s) → LooksNumeric s →
      int? s.toList = none → Numbers key fields (.error .unconvertible)

theorem looksNumeric_iff {s : String} :
    LooksNumeric s ↔ (s.isEmpty || !s.toList.all isDigitLike) = false := by
  simp [LooksNumeric]

theorem fieldNumber_iff {key : String} {fields : Json.Fields} {o : Except Fault (Option Int)} :
    fieldNumber key fields = o ↔ Numbers key fields o := by
  constructor
  · rintro rfl
    rw [fieldNumber]
    cases found : field key fields with
    | none => exact .missing found
    | some text =>
        cases text with
        | broken points lone => exact .lone found rfl
        | chars s =>
            dsimp only [Option.bind_some, WireText.chars?]
            split
            · next other =>
                refine .other found fun numeric => ?_
                rw [looksNumeric_iff.mp numeric] at other
                cases other
            · next numeric =>
                have numeric := looksNumeric_iff.mpr (Bool.eq_false_iff.mpr numeric)
                split
                · next read => exact .number found numeric read
                · next none => exact .noNumber found numeric none
  · intro h
    cases h with
    | missing none =>
        rw [fieldNumber, none]
        rfl
    | lone found none =>
        rw [fieldNumber, found, Option.bind_some, none]
    | other found other =>
        rw [fieldNumber, found]
        exact if_pos (Bool.of_not_eq_false fun h => other (looksNumeric_iff.mpr h))
    | number found numeric read =>
        rw [fieldNumber, found]
        dsimp only [Option.bind_some, WireText.chars?]
        rw [looksNumeric_iff.mp numeric, read]
        rfl
    | noNumber found numeric none =>
        rw [fieldNumber, found]
        dsimp only [Option.bind_some, WireText.chars?]
        rw [looksNumeric_iff.mp numeric, none]
        rfl

/-! ## Records -/

/-- The entry of a record. -/
inductive RecordGives (fields : Json.Fields) : Except Fault (Option Entry) → Prop where
  | undated : Dates fields (.ok none) → RecordGives fields (.ok none)
  | entry {time : Instant} {priority pid : Option Int} : Dates fields (.ok (some time)) →
      Numbers "PRIORITY" fields (.ok priority) → Numbers "_PID" fields (.ok pid) →
      RecordGives fields (.ok (some {
        time
        unit := field "_SYSTEMD_UNIT" fields
        priority
        hostname := field "_HOSTNAME" fields
        pid
        message := field "MESSAGE" fields
        cursor := field "__CURSOR" fields }))
  | misdated : Dates fields (.error .unconvertible) → RecordGives fields (.error .unconvertible)
  | misnumbered {time : Instant} {key : String} : Dates fields (.ok (some time)) →
      key = "PRIORITY" ∨ key = "_PID" → Numbers key fields (.error .unconvertible) →
      RecordGives fields (.error .unconvertible)

/-- A number is missing, given or a breakdown. -/
theorem numbers_cases (key : String) (fields : Json.Fields) :
    (∃ o, fieldNumber key fields = .ok o) ∨ fieldNumber key fields = .error .unconvertible := by
  have numbers : Numbers key fields (fieldNumber key fields) := fieldNumber_iff.mp rfl
  cases e : fieldNumber key fields with
  | ok o => exact .inl ⟨o, rfl⟩
  | error f =>
      rw [e] at numbers
      cases numbers
      exact .inr rfl

theorem ofRecord_iff {fields : Json.Fields} {o : Except Fault (Option Entry)} :
    ofRecord fields = o ↔ RecordGives fields o := by
  constructor
  · rintro rfl
    have dates : Dates fields (timeOf fields) := timeOf_iff.mp rfl
    rw [ofRecord]
    cases dated : timeOf fields with
    | error f =>
        rw [dated] at dates
        cases dates with
        | outside found counts outside => exact .misdated (.outside found counts outside)
        | infinite found => exact .misdated (.infinite found)
    | ok time =>
        rw [dated] at dates
        cases time with
        | none => exact .undated dates
        | some time =>
            dsimp only [bind, Except.bind]
            rcases numbers_cases "PRIORITY" fields with ⟨priority, first⟩ | first
            · rw [first]
              rcases numbers_cases "_PID" fields with ⟨pid, second⟩ | second
              · rw [second]
                exact .entry dates (fieldNumber_iff.mp first) (fieldNumber_iff.mp second)
              · rw [second]
                exact .misnumbered dates (.inr rfl) (fieldNumber_iff.mp second)
            · rw [first]
              exact .misnumbered dates (.inl rfl) (fieldNumber_iff.mp first)
  · intro h
    cases h with
    | undated dates =>
        rw [ofRecord, timeOf_iff.mpr dates]
        rfl
    | entry dates priority pid =>
        rw [ofRecord, timeOf_iff.mpr dates, fieldNumber_iff.mpr priority, fieldNumber_iff.mpr pid]
        rfl
    | misdated dates =>
        rw [ofRecord, timeOf_iff.mpr dates]
        rfl
    | misnumbered dates which number =>
        rw [ofRecord, timeOf_iff.mpr dates]
        rcases which with rfl | rfl
        · rw [fieldNumber_iff.mpr number]
          rfl
        · dsimp only [bind, Except.bind]
          rw [fieldNumber_iff.mpr number]
          rcases numbers_cases "PRIORITY" fields with ⟨priority, first⟩ | first
          · rw [first]
          · rw [first]

/-! ## Lines -/

/-- The entry of a line. -/
inductive LineGives (line : List Char) : Except Fault (Option Entry) → Prop where
  | blank : (∀ c ∈ line, isBlank c = true) → LineGives line (.ok none)
  /-- The line is no document, or it goes beyond the limits. -/
  | unread : (∀ doc, ¬ Json.Denotes lineLimits line doc) → ¬ GivesUp line →
      LineGives line (.ok none)
  | noRecord {doc : Json} : Json.Denotes lineLimits line doc → (∀ fields, doc ≠ .obj fields) →
      LineGives line (.ok none)
  | record {fields : Json.Fields} {o : Except Fault (Option Entry)} :
      Json.Denotes lineLimits line (.obj fields) → RecordGives fields o → LineGives line o
  | tooDeep : GivesUp line → LineGives line (.error .unconvertible)

/-- The line spoils the read of all lines. -/
def Spoils (line : List Char) : Prop := LineGives line (.error .unconvertible)

theorem ofLine_iff {line : List Char} {o : Except Fault (Option Entry)} :
    ofLine line = o ↔ LineGives line o := by
  constructor
  · rintro rfl
    rw [ofLine]
    split
    · next blank => exact .blank (List.all_eq_true.mp blank)
    · next filled =>
        split
        · next fields e => exact .record (Json.read_eq_ok_iff.mp e) (ofRecord_iff.mp rfl)
        · next doc other e => exact .noRecord (Json.read_eq_ok_iff.mp e) other
        · next e =>
            refine .unread (fun doc denotes => ?_) fun gives => ?_
            · cases e.symm.trans (Json.read_eq_ok_iff.mpr denotes)
            · cases e.symm.trans gives.2
        · next e => exact .tooDeep ⟨Bool.eq_false_iff.mpr filled, e⟩
  · intro h
    cases h with
    | blank blank => rw [ofLine, if_pos (List.all_eq_true.mpr blank)]
    | unread meaningless ready =>
        rw [ofLine]
        split
        · rfl
        · next filled =>
            split
            · next e => exact absurd (Json.read_eq_ok_iff.mp e) (meaningless _)
            · rfl
            · rfl
            · next e => exact absurd ⟨Bool.eq_false_iff.mpr filled, e⟩ ready
    | @noRecord doc denotes other =>
        rw [ofLine, Json.read_eq_ok_iff.mpr denotes]
        cases doc with
        | obj fields => exact absurd rfl (other fields)
        | _ => exact ite_self _
    | record denotes gives => rw [ofLine_of_denotes denotes, ofRecord_iff.mpr gives]
    | tooDeep gives => rw [ofLine, if_neg (by simp [gives.1]), gives.2]

/-- The only fault of a line is a breakdown. -/
theorem breakdown_of_lineGives {line : List Char} {f : Fault} (h : LineGives line (.error f)) :
    f = .unconvertible := by
  cases h with
  | record _ gives =>
      cases gives with
      | misdated _ => rfl
      | misnumbered _ _ _ => rfl
  | tooDeep _ => rfl

/-! ## Outputs -/

/-- The entries are those of the lines. -/
theorem entriesOf_eq_ok_iff {ls : List (List Char)} {entries : List Entry} :
    entriesOf ls = .ok entries ↔
      ∃ found, List.Forall₂ (fun line o => LineGives line (.ok o)) ls found ∧
        entries = found.filterMap id := by
  simp only [← ofLine_iff]
  exact entriesOf_eq_ok

/-- The numbers of an entry are those of a record. -/
theorem numbers_of_mem {output : String} {rows : List Entry} (h : ofOutput output = .ok rows)
    {e : Entry} (mem : e ∈ rows) :
    ∃ fields, Numbers "PRIORITY" fields (.ok e.priority) ∧ Numbers "_PID" fields (.ok e.pid) := by
  obtain ⟨found, each, h⟩ := bind_eq_ok.mp h
  cases h
  obtain ⟨o, mem, same⟩ := List.mem_filterMap.mp mem
  cases same
  obtain ⟨line, _, read⟩ := (mem_iff_of_mapM_eq_ok each (some e)).mp mem
  cases ofLine_iff.mp read with
  | @record fields _ _ gives =>
      cases gives with
      | entry _ priority pid => exact ⟨fields, priority, pid⟩

/-- Lines are not read if and only if one of them spoils the read. -/
theorem entriesOf_eq_error_iff {ls : List (List Char)} {f : Fault} :
    entriesOf ls = .error f ↔ f = .unconvertible ∧ ∃ line ∈ ls, Spoils line := by
  have spoiled {f : Fault} (h : entriesOf ls = .error f) :
      f = .unconvertible ∧ ∃ line ∈ ls, Spoils line := by
    rw [entriesOf] at h
    cases read : ls.mapM ofLine with
    | ok found =>
        rw [read] at h
        cases h
    | error f' =>
        rw [read] at h
        cases h
        obtain ⟨line, mem, failed⟩ := exists_of_mapM_eq_error read
        have gives := ofLine_iff.mp failed
        cases breakdown_of_lineGives gives
        exact ⟨rfl, line, mem, gives⟩
  constructor
  · exact spoiled
  · rintro ⟨rfl, line, mem, spoils⟩
    cases outcome : entriesOf ls with
    | error f =>
        obtain ⟨rfl, _⟩ := spoiled outcome
        rfl
    | ok entries =>
        obtain ⟨found, each, _⟩ := entriesOf_eq_ok.mp outcome
        obtain ⟨o, read⟩ := exists_of_mapM_eq_ok (mapM_eq_ok_iff.mpr each) mem
        cases read.symm.trans (ofLine_iff.mpr spoils)

/-- A line feed behind a text ends its last line.  Is that ended already, then an
empty line stands between the texts. -/
theorem linesFrom_append_feed (text rest : List Char) (held : List Char) :
    ∃ between, (between = [] ∨ between = [[]]) ∧
      linesFrom held (text ++ '\n' :: rest) = linesFrom held text ++ between ++ lines rest := by
  induction held, text using linesFrom.induct with
  | case1 held empty =>
      obtain rfl := List.isEmpty_iff.mp empty
      exact ⟨[[]], .inr rfl, linesFrom_feed [] rest⟩
  | case2 held filled =>
      refine ⟨[], .inl rfl, ?_⟩
      rw [List.nil_append, linesFrom_feed, linesFrom, if_neg filled]
      rfl
  | case3 held text ih =>
      obtain ⟨between, few, same⟩ := ih
      refine ⟨between, few, ?_⟩
      rw [List.cons_append, List.cons_append, linesFrom, linesFrom, same]
      rfl
  | case4 held c text single ends ih =>
      obtain ⟨between, few, same⟩ := ih
      by_cases joins : c = '\r' ∧ text = []
      · -- The line feed belongs to the carriage return.
        obtain ⟨rfl, rfl⟩ := joins
        exact ⟨[], .inl rfl, rfl⟩
      · have single' : ∀ more, c = '\r' → text ++ '\n' :: rest = '\n' :: more → False := by
          intro more e e'
          cases text with
          | nil => exact joins ⟨e, rfl⟩
          | cons d text =>
              cases e'
              exact single _ e rfl
        refine ⟨between, few, ?_⟩
        rw [List.cons_append, linesFrom.eq_3 _ _ _ single', linesFrom.eq_3 _ _ _ single,
          if_pos ends, if_pos ends, same]
        rfl
  | case5 held c text single goes ih =>
      obtain ⟨between, few, same⟩ := ih
      have other : c ≠ '\r' := by
        rintro rfl
        exact goes rfl
      refine ⟨between, few, ?_⟩
      rw [List.cons_append, linesFrom.eq_3 _ _ _ (fun _ e => absurd e other),
        linesFrom.eq_3 _ _ _ single, if_neg goes, if_neg goes, same]

/-- Texts with a line feed between them are read one after the other. -/
theorem entriesOf_lines_feed (text rest : List Char) :
    entriesOf (lines (text ++ '\n' :: rest)) = do
      return (← entriesOf (lines text)) ++ (← entriesOf (lines rest)) := by
  obtain ⟨between, few, split⟩ := linesFrom_append_feed text rest []
  have nothing : entriesOf between = .ok [] := by
    rcases few with rfl | rfl
    · rfl
    · rfl
  have unchanged : entriesOf (lines text ++ between) = entriesOf (lines text) := by
    rw [entriesOf_append_eq, nothing]
    cases entriesOf (lines text) with
    | error f => rfl
    | ok entries => exact congrArg Except.ok (List.append_nil entries)
  rw [lines, split, entriesOf_append_eq, ← lines, unchanged]

/-- What becomes of an output is what becomes of its lines. -/
theorem ofOutput_by_lines (output : String) :
    (∀ entries, ofOutput output = .ok entries ↔
      ∃ found, List.Forall₂ (fun line o => LineGives line (.ok o)) (lines output.toList) found ∧
        entries = found.filterMap id) ∧
      (∀ f, ofOutput output = .error f ↔
        f = .unconvertible ∧ ∃ line ∈ lines output.toList, Spoils line) ∧
      ∀ more, ofOutput (output ++ "\n" ++ more) = do
        return (← ofOutput output) ++ (← ofOutput more) := by
  refine ⟨fun entries => entriesOf_eq_ok_iff, fun f => entriesOf_eq_error_iff, fun more => ?_⟩
  have together : (output ++ "\n" ++ more).toList = output.toList ++ '\n' :: more.toList := by
    simp
  rw [ofOutput_eq, together, entriesOf_lines_feed]
  rfl

/-- A record that only has a time, as it is printed. -/
def dated (time : String) : String := "\x7b\"__REALTIME_TIMESTAMP\":\"" ++ time ++ "\"\x7d"

/-- One time outside the calendar, and the line before it is not read either. -/
theorem ofOutput_far_time :
    ofOutput (dated "1") = .ok [⟨⟨1⟩, none, none, none, none, none, none⟩] ∧
      ofOutput (dated "1" ++ "\n" ++ dated "999999999999999999999") = .error .unconvertible := by
  have one : Json.Denotes lineLimits (dated "1").toList
      (.obj [("__REALTIME_TIMESTAMP", .ofString "1")]) :=
    Json.read_eq_ok_iff.mp (by decide +kernel)
  have many : Json.Denotes lineLimits (dated "999999999999999999999").toList
      (.obj [("__REALTIME_TIMESTAMP", .ofString "999999999999999999999")]) :=
    Json.read_eq_ok_iff.mp (by decide +kernel)
  have near : ofLine (dated "1").toList = .ok (some ⟨⟨1⟩, none, none, none, none, none, none⟩) :=
    ofLine_of_denotes one
  have far : ofLine (dated "999999999999999999999").toList = .error .unconvertible :=
    ofLine_of_denotes many
  have alone : lines (dated "1").toList = [(dated "1").toList] := by decide +kernel
  have both : lines (dated "1" ++ "\n" ++ dated "999999999999999999999").toList =
      [(dated "1").toList, (dated "999999999999999999999").toList] := by decide +kernel
  constructor
  · rw [ofOutput_eq, alone, entriesOf, List.mapM_cons, near]
    rfl
  · rw [ofOutput_eq, both, entriesOf, List.mapM_cons, near, List.mapM_cons, far]
    rfl

end HostMonitor.Journal
