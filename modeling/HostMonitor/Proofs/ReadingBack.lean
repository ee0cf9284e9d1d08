import HostMonitor.Proofs.Joining
import HostMonitor.Proofs.Resources
import HostMonitor.Proofs.UtcTimes

/-!
# Timestamps as bounds

A timestamp of an instant of the calendar is a bound of the same instant, cut to
milliseconds, when its year has four digits.  A year before 1000 has fewer digits, and then
the timestamp is refused as a bound.

All other numbers in a timestamp have a fixed width, so among years with equally many digits
timestamps are in the order of the instants.

What the server shows as a time, in the result of a tool or in a resource, is a timestamp of
an instant of the calendar.
-/

namespace HostMonitor

namespace Time

open Number Text

/-! ## The order of numerals -/

/-- Of numbers with a higher and a lower part the higher parts count first. -/
theorem place_lt_iff {unit a a' m m' : Nat} (low : m < unit) (low' : m' < unit) :
    a * unit + m < a' * unit + m' ↔ a < a' ∨ a = a' ∧ m < m' := by
  have above : ∀ {b b' : Nat}, b < b' → b * unit + unit ≤ b' * unit := fun {b b'} less => by
    rw [← Nat.succ_mul]
    exact Nat.mul_le_mul_right unit less
  rcases Nat.lt_trichotomy a a' with less | rfl | more
  · have := above less
    omega
  · omega
  · have := above more
    omega

/-- A numeral is its first digit and a shorter numeral. -/
theorem Spelled.of_cons {count n : Nat} {d : Char} {ds : List Char}
    (h : Spelled count n (d :: ds)) :
    Spelled ds.length (natOfDigits ds) ds ∧ 48 ≤ d.toNat ∧
      n = (d.toNat - 48) * 10 ^ ds.length + natOfDigits ds := by
  have digit := h.digits d List.mem_cons_self
  rw [Char.isDigit, Bool.and_eq_true, decide_eq_true_eq, decide_eq_true_eq] at digit
  refine ⟨⟨rfl, fun c mem => h.digits c (List.mem_cons_of_mem _ mem), rfl⟩, digit.1, ?_⟩
  rw [← h.value, ← List.singleton_append, natOfDigits_append]
  simp [natOfDigits]

/-- Numerals of one width are in the order of the numbers. -/
theorem Spelled.append_lt_iff {count n n' : Nat} {ds ds' rest rest' : List Char}
    (h : Spelled count n ds) (h' : Spelled count n' ds') :
    ds ++ rest < ds' ++ rest' ↔ n < n' ∨ n = n' ∧ rest < rest' := by
  induction ds generalizing count n n' ds' with
  | nil =>
      obtain rfl : ds' = [] := List.eq_nil_of_length_eq_zero (h'.length.trans h.length.symm)
      simp [← h.value, ← h'.value]
  | cons d ds ih =>
      obtain ⟨d', ds', rfl⟩ : ∃ d' more, ds' = d' :: more :=
        List.exists_cons_of_length_eq_add_one (h'.length.trans h.length.symm)
      have same : ds'.length = ds.length := Nat.succ.inj (h'.length.trans h.length.symm)
      obtain ⟨shorter, digit, value⟩ := h.of_cons
      obtain ⟨shorter', digit', value'⟩ := h'.of_cons
      rw [same] at shorter' value'
      have less := @place_lt_iff _ (d.toNat - 48) (d'.toNat - 48) _ _ shorter.lt shorter'.lt
      have more := @place_lt_iff _ (d'.toNat - 48) (d.toNat - 48) _ _ shorter'.lt shorter.lt
      rw [← value, ← value'] at less more
      have order : d < d' ↔ d.toNat < d'.toNat := Iff.rfl
      have equal : d = d' ↔ d.toNat = d'.toNat := Char.toNat_inj.symm
      have both : n = n' ↔ d.toNat = d'.toNat ∧ natOfDigits ds = natOfDigits ds' := by omega
      have first : n < n' ↔ d.toNat < d'.toNat ∨
          d.toNat = d'.toNat ∧ natOfDigits ds < natOfDigits ds' := by omega
      rw [List.cons_append, List.cons_append, List.cons_lt_cons_iff, ih shorter shorter', order,
        equal, both, first, and_or_left, or_assoc, and_assoc]

/-- What stands before a sign below all digits counts first. -/
theorem append_mark_lt_iff {mark : Char} {ds ds' rest rest' : List Char}
    (above : ∀ c ∈ ds, mark < c) (above' : ∀ c ∈ ds', mark < c) :
    ds ++ mark :: rest < ds' ++ mark :: rest' ↔ ds < ds' ∨ ds = ds' ∧ rest < rest' := by
  induction ds generalizing ds' with
  | nil =>
      cases ds' with
      | nil => simp
      | cons d' ds' => simp [List.cons_lt_cons_iff, above' d' List.mem_cons_self]
  | cons d ds ih =>
      have lower := above d List.mem_cons_self
      cases ds' with
      | nil =>
          have other : d ≠ mark := fun same => Char.lt_irrefl d (same ▸ lower)
          simp [List.cons_lt_cons_iff, Char.lt_asymm lower, other]
      | cons d' ds' =>
          have shorter := ih (fun c mem => above c (List.mem_cons_of_mem _ mem))
            fun c mem => above' c (List.mem_cons_of_mem _ mem)
          rw [List.cons_append, List.cons_append, List.cons_lt_cons_iff, List.cons_lt_cons_iff,
            shorter, List.cons.injEq, and_or_left, or_assoc, and_assoc]

/-! ## The time of an instant -/

/-- The date and the time of an instant, cut to milliseconds. -/
def Instant.told (t : Instant) : UtcTime where
  date := t.dateAndClock.1
  hour := t.dateAndClock.2.hour
  minute := t.dateAndClock.2.minute
  second := t.dateAndClock.2.second
  nano := t.dateAndClock.2.micro / 1000 * 1000000

theorem stands_dateAndClock {t : Instant} (h : t.inRange = true) : t.dateAndClock.1.Stands :=
  (Date.isReal_iff _).mp (isReal_dateAndClock (Journal.inRange_iff.mp h).2)

theorem Instant.stands_told {t : Instant} (h : t.inRange = true) : t.told.Stands := by
  obtain ⟨hour, minute, second, micro⟩ := clock_dateAndClock t
  exact ⟨stands_dateAndClock h, Nat.le_of_lt_succ hour, Nat.le_of_lt_succ minute,
    Nat.le_of_lt_succ second, by dsimp only [told]; omega⟩

/-- The time of an instant is told as the instant, cut to milliseconds. -/
theorem Instant.nanos_told {t : Instant} (h : t.inRange = true) :
    t.told.nanos = t.toMillis.micros * 1000 := by
  have date := stands_dateAndClock h
  have whole : t.told.instant = t.toMillis := by
    rw [← of_dateAndClock (Journal.inRange_iff.mp h).1]
    simp only [UtcTime.instant, told, Clock.toMillis]
    congr 2
    omega
  have micros := @UtcTime.micros_instant t.told date
  rw [whole] at micros
  have cut : t.told.nanos % 1000 = 0 := by
    simp only [UtcTime.nanos, told]
    omega
  omega

/-- The parts of times are in the order of the instants, cut to milliseconds. -/
theorem Instant.parts_told_lt_iff {t t' : Instant} (h : t.inRange = true)
    (h' : t'.inRange = true) : t.told.parts < t'.told.parts ↔ t.toMillis < t'.toMillis := by
  show _ ↔ t.toMillis.micros < t'.toMillis.micros
  rw [← UtcTime.nanos_lt_iff (stands_told h) (stands_told h'), nanos_told h, nanos_told h']
  omega

/-! ## The order of timestamps -/

/-- The year of an instant in digits. -/
def Instant.yearNumeral (t : Instant) : List Char := Nat.toDigits 10 t.dateAndClock.1.year

/-- How many digits the year of an instant has. -/
def Instant.yearDigits (t : Instant) : Nat := t.yearNumeral.length

theorem spelled_year (t : Instant) :
    Spelled t.yearDigits t.dateAndClock.1.year (Nat.toDigits 10 t.dateAndClock.1.year) :=
  ⟨rfl, fun _ => isDigit_toDigits, natOfDigits_toDigits _⟩

/-- The years from 1000 on have four digits. -/
theorem yearDigits_eq_four_iff {t : Instant} (last : t ≤ Instant.last) :
    t.yearDigits = 4 ↔ fourDigits ≤ t := by
  have year : Spelled 4 t.dateAndClock.1.year (Nat.toDigits 10 t.dateAndClock.1.year) ↔
      fourDigits ≤ t := by
    rw [spelled_toDigits_iff, year_dateAndClock_iff, and_iff_left last]
  exact ⟨fun same => year.mp (same ▸ spelled_year t), fun late => (year.mpr late).length⟩

/-- The parts of a date and a time have two digits. -/
theorem lt_hundred_of_inRange {t : Instant} (h : t.inRange = true) :
    t.dateAndClock.1.month < 100 ∧ t.dateAndClock.1.day < 100 ∧ t.dateAndClock.2.hour < 100 ∧
      t.dateAndClock.2.minute < 100 ∧ t.dateAndClock.2.second < 100 := by
  obtain ⟨_, month, day⟩ := stands_dateAndClock h
  obtain ⟨hour, minute, second, _⟩ := clock_dateAndClock t
  have short := daysInMonth_le t.dateAndClock.1.year t.dateAndClock.1.month
  rw [daysInMonth_eq _ month.1 month.2] at short
  omega

/-- When their years have equally many digits, timestamps are in the order of the instants,
cut to milliseconds. -/
theorem timestamp_lt_iff {t t' : Instant} (same : t.yearDigits = t'.yearDigits)
    (h : t.inRange = true) (h' : t'.inRange = true) :
    t.timestamp < t'.timestamp ↔ t.toMillis < t'.toMillis := by
  have mark : ∀ {c : Char} {cs cs' : List Char}, c :: cs < c :: cs' ↔ cs < cs' := by
    intro c cs cs'
    simp
  have two : ∀ {n : Nat}, n < 100 → Spelled 2 n (padded 2 n) :=
    fun room => spelled_padded Nat.two_pos room
  have three : ∀ u : Instant, Spelled 3 (u.dateAndClock.2.micro / 1000) (padded 3 _) :=
    fun u => spelled_padded (Nat.succ_pos 2) (by have := clock_dateAndClock u; omega)
  obtain ⟨month, day, hour, minute, second⟩ := lt_hundred_of_inRange h
  obtain ⟨month', day', hour', minute', second'⟩ := lt_hundred_of_inRange h'
  -- part after part, with the mark between them
  rw [← Instant.parts_told_lt_iff h h', String.lt_iff, toList_timestamp, toList_timestamp,
    (spelled_year t).append_lt_iff (same ▸ spelled_year t'), mark,
    (two month).append_lt_iff (two month'), mark, (two day).append_lt_iff (two day'), mark,
    (two hour).append_lt_iff (two hour'), mark, (two minute).append_lt_iff (two minute'), mark,
    (two second).append_lt_iff (two second'), List.cons_append, List.cons_append, mark,
    (three t).append_lt_iff (three t')]
  simp only [UtcTime.parts, Instant.told, List.cons_lt_cons_iff, List.lt_irrefl, and_false,
    or_false, Nat.mul_lt_mul_right (show 0 < 1000000 by decide)]

/-- The timestamp of an earlier instant is not after that of a later one unless the numeral of
its year is. -/
theorem timestamp_le_iff {t t' : Instant} (h : t.inRange = true) (h' : t'.inRange = true)
    (upTo : t ≤ t') : t.timestamp ≤ t'.timestamp ↔ ¬ t'.yearNumeral < t.yearNumeral := by
  have above : ∀ u : Instant, ∀ c ∈ u.yearNumeral, '-' < c := fun u c mem => by
    have digit := isDigit_toDigits mem
    rw [Char.isDigit, Bool.and_eq_true, decide_eq_true_eq] at digit
    exact Nat.lt_of_lt_of_le (by decide : 45 < 48) digit.1
  rw [← String.not_lt]
  refine not_congr ?_
  -- within a year timestamps are in order, and else the numerals of the years decide
  by_cases same : t'.yearNumeral = t.yearNumeral
  · have cut : ¬ t'.toMillis < t.toMillis := by
      have upTo' : t.micros ≤ t'.micros := upTo
      show ¬ t'.micros - t'.micros % 1000 < t.micros - t.micros % 1000
      omega
    rw [timestamp_lt_iff (congrArg List.length same) h' h, same]
    exact iff_of_false cut (List.lt_irrefl _)
  · rw [String.lt_iff, toList_timestamp, toList_timestamp]
    exact (append_mark_lt_iff (above t') (above t)).trans (or_iff_left fun both => same both.1)

/-! ## Years of the calendar -/

theorem inRange_of_timestamp {cs : List Char} {t : Instant} (h : timestamp? cs = some t) :
    t.inRange = true := by
  refine Journal.inRange_iff.mpr ⟨?_, le_last_of_timestamp h⟩
  obtain ⟨d, c, _, _, rfl⟩ := exists_of_timestamp h
  show (-62135596800000000 : Int) ≤ (Instant.of d c).micros
  simp only [Instant.of, Instant.epochDays, Instant.dayMicros]
  omega

/-- A timestamp of a year with fewer than four digits tells no time. -/
theorem not_tells_of_early {t : Instant} (early : t < fourDigits) (u : UtcTime) :
    ¬ Tells t.timestamp.toList u := by
  intro tells
  have read := timestamp?_trim_iff.mpr ⟨u, tells, rfl⟩
  rw [trim_timestamp] at read
  obtain ⟨v, written, _, _⟩ := timestamp?_eq_some_iff.mp read
  rw [toList_timestamp] at written
  generalize e : Nat.toDigits 10 t.dateAndClock.1.year ++ '-' :: _ = cs at written
  cases written with
  | intro year _ _ _ _ _ _ =>
      have same := append_hyphen_inj (fun c => isDigit_toDigits) year.digits e
      rw [← same] at year
      have four := spelled_toDigits_iff.mp ⟨year.length, year.digits, natOfDigits_toDigits _⟩
      exact absurd ((year_dateAndClock_iff t).mp four).1 (Int.not_le.mpr early)

end Time

namespace Query

open Journal Text Time

theorem not_blank_timestamp (t : Instant) : ¬ Blank (.chars t.timestamp) := by
  rintro ⟨s, same, blank⟩
  have trimmed := trim_timestamp t
  rw [WireText.chars.inj same, trim_of_all_blank (List.all_eq_true.mpr blank),
    ← WireText.chars.inj same, toList_timestamp] at trimmed
  simp at trimmed

/-- A timestamp of a year with fewer than four digits is refused as a bound. -/
theorem instant_of_early {t : Instant} (early : t < fourDigits) :
    instant (some (.chars t.timestamp)) = .error (noTime (.chars t.timestamp)) :=
  (bound_instant _).unique <| .refused rfl (not_blank_timestamp t) fun _ u same =>
    WireText.chars.inj same ▸ not_tells_of_early early u

end Query

/-! ## What documents show -/

namespace Json

open Text

/-- A field with the name has the text, somewhere in the document. -/
inductive Shows (name : String) : Json → WireText → Prop
  | here {fields : Fields} {text : WireText} :
      (.chars name, .str text) ∈ fields → Shows name (.obj fields) text
  | field {fields : Fields} {f : WireText × Json} {text : WireText} :
      f ∈ fields → Shows name f.2 text → Shows name (.obj fields) text
  | item {items : List Json} {v : Json} {text : WireText} :
      v ∈ items → Shows name v text → Shows name (.arr items) text

section

variable {name : String} {text : WireText}

theorem shows_record_iff {fields : List (String × Json)} :
    Shows name (.record fields) text ↔
      ∃ f ∈ fields, f = (name, .str text) ∨ Shows name f.2 text := by
  constructor
  · intro h
    cases h with
    | here mem =>
        obtain ⟨f, inside, same⟩ := List.mem_map.mp mem
        exact ⟨f, inside, .inl (by simpa [Prod.ext_iff] using same)⟩
    | field mem shows =>
        obtain ⟨f, inside, rfl⟩ := List.mem_map.mp mem
        exact ⟨f, inside, .inr shows⟩
  · rintro ⟨f, inside, h⟩
    have mem := List.mem_map_of_mem (f := fun f : String × Json => (WireText.chars f.1, f.2)) inside
    cases h with
    | inl same =>
        rw [same] at mem
        exact .here mem
    | inr shows => exact .field mem shows

theorem shows_arr_iff {items : List Json} :
    Shows name (.arr items) text ↔ ∃ v ∈ items, Shows name v text :=
  ⟨fun | .item mem shows => ⟨_, mem, shows⟩, fun ⟨_, mem, shows⟩ => .item mem shows⟩

/-- What is neither a list nor an object shows nothing. -/
theorem not_shows_of_isScalar {v : Json} (scalar : v.isScalar = true) : ¬ Shows name v text := by
  intro h
  cases h <;> cases scalar

theorem ofString_eq_str_iff {s : String} : ofString s = .str text ↔ text = .chars s := by
  rw [ofString, str.injEq, eq_comm]

theorem ofString?_eq_str_iff {s? : Option String} :
    ofString? s? = .str text ↔ ∃ s, s? = some s ∧ text = .chars s := by
  cases s? with
  | none => simp [ofString?]
  | some s => simp [ofString?, ofString_eq_str_iff]

@[simp] theorem not_shows_bool (b : Bool) : ¬ Shows name (.bool b) text :=
  not_shows_of_isScalar rfl

@[simp] theorem not_shows_ofNat (n : Nat) : ¬ Shows name (.ofNat n) text :=
  not_shows_of_isScalar rfl

@[simp] theorem not_shows_ofString (s : String) : ¬ Shows name (.ofString s) text :=
  not_shows_of_isScalar rfl

@[simp] theorem not_shows_ofString? (s? : Option String) : ¬ Shows name (.ofString? s?) text :=
  not_shows_of_isScalar (by cases s? <;> rfl)

@[simp] theorem not_shows_ofText? (t? : Option WireText) : ¬ Shows name (.ofText? t?) text :=
  not_shows_of_isScalar (by cases t? <;> rfl)

@[simp] theorem not_shows_ofInt? (n? : Option Int) : ¬ Shows name (.ofInt? n?) text :=
  not_shows_of_isScalar (by cases n? <;> rfl)

theorem Reread.exists_text {v : Json} (h : Reread v (.str text)) :
    ∃ t, v = .str t ∧ ∀ s, t = .chars s → text = t := by
  cases h with
  | str s => exact ⟨_, rfl, fun _ _ => rfl⟩
  | broken => exact ⟨_, rfl, nofun⟩

/-- The texts of characters that the first document shows are shown by the second, and what
else the second shows came back of broken texts. -/
structure Echoes (v w : Json) : Prop where
  chars {name s : String} : Shows name v (.chars s) → Shows name w (.chars s)
  shown {name : String} {text : WireText} : Shows name w text →
    ∃ t, Shows name v t ∧ ∀ s, t = .chars s → text = t

theorem Echoes.refl (v : Json) : Echoes v v := ⟨id, fun shows => ⟨_, shows, fun _ _ => rfl⟩⟩

theorem Reread.shows_chars {v w : Json} {s : String} (h : Reread v w)
    (shows : Shows name v (.chars s)) : Shows name w (.chars s) := by
  have same : ∀ {u : Json}, Reread (.str (.chars s)) u → u = .str (.chars s) := by
    rintro _ ⟨⟩
    rfl
  induction h with
  | arr _ ih =>
      obtain ⟨v, inside, shown⟩ := shows_arr_iff.mp shows
      exact .item (List.mem_map_of_mem inside) (ih v inside shown)
  | @obj fields f _ _ back ih =>
      cases shows with
      | here mem =>
          have inside := List.mem_map_of_mem (f := fun p => (p.1, f p.2)) mem
          rw [same (back _ mem)] at inside
          exact .here inside
      | field mem shown => exact .field (List.mem_map_of_mem mem) (ih _ mem shown)
  | _ => cases shows

theorem Reread.exists_shows {v w : Json} (h : Reread v w) (shows : Shows name w text) :
    ∃ t, Shows name v t ∧ ∀ s, t = .chars s → text = t := by
  induction h with
  | arr _ ih =>
      obtain ⟨w, mem, shows⟩ := shows_arr_iff.mp shows
      obtain ⟨v, inside, rfl⟩ := List.mem_map.mp mem
      obtain ⟨t, shown, same⟩ := ih v inside shows
      exact ⟨t, .item inside shown, same⟩
  | obj _ _ back ih =>
      cases shows with
      | here mem =>
          obtain ⟨p, inside, e⟩ := List.mem_map.mp mem
          obtain ⟨key, value⟩ := Prod.mk.inj e
          obtain ⟨t, told, same⟩ := Reread.exists_text (value ▸ back p inside)
          refine ⟨t, .here ?_, same⟩
          rwa [← key, ← told]
      | field mem shows =>
          obtain ⟨p, inside, rfl⟩ := List.mem_map.mp mem
          obtain ⟨t, shown, same⟩ := ih p inside shows
          exact ⟨t, .field inside shown, same⟩
  | _ => cases shows

theorem Reread.echoes {v w : Json} (h : Reread v w) : Echoes v w :=
  ⟨h.shows_chars, h.exists_shows⟩

end

/-- A text is read back as one document only. -/
theorem ReadsBack.unique {text : String} {v v' : Json} (h : ReadsBack text v)
    (h' : ReadsBack text v') : v = v' := by
  have read := h ⟨max v.digits v'.digits, max v.depth v'.depth, false⟩ (le_max_left _ _)
    (le_max_left _ _)
  have read' := h' ⟨max v.digits v'.digits, max v.depth v'.depth, false⟩ (le_max_right _ _)
    (le_max_right _ _)
  exact Except.ok.inj (read.symm.trans read')

end Json

open Json Text Time

/-- The names under which times are shown. -/
def timeNames : List String :=
  ["timestamp_utc", "since_utc", "generated_at_utc", "start_utc", "end_utc"]

theorem mem_timeNames {name : String} :
    name ∈ timeNames ↔ name = "timestamp_utc" ∨ name = "since_utc" ∨ name = "generated_at_utc" ∨
      name = "start_utc" ∨ name = "end_utc" := by
  simp [timeNames]

section

variable {name : String} {text : WireText}

theorem Service.since_of_shows {u : Service.ServiceUnit} (time : name ∈ timeNames)
    (shows : Shows name u.document text) : ∃ s, u.since = some s ∧ text = .chars s := by
  simp only [Service.ServiceUnit.document, shows_record_iff] at shows
  rcases mem_timeNames.mp time with rfl | rfl | rfl | rfl | rfl
  case inr.inl => simpa [ofString?_eq_str_iff] using shows
  all_goals simp at shows

theorem Journal.time_of_shows {e : Journal.Entry} (time : name ∈ timeNames)
    (shows : Shows name e.document text) :
    name = "timestamp_utc" ∧ text = .chars e.time.timestamp := by
  simp only [Journal.Entry.document, shows_record_iff] at shows
  rcases mem_timeNames.mp time with rfl | rfl | rfl | rfl | rfl
  case inl => simpa [ofString_eq_str_iff] using shows
  all_goals simp at shows

namespace Query

open Journal

theorem ServicesPage.time_of_shows {p : ServicesPage} (time : name ∈ timeNames)
    (shows : Shows name p.document text) :
    name = "generated_at_utc" ∧ text = .chars p.generatedAt.timestamp ∨
      ∃ u ∈ p.services, Shows name u.document text := by
  simp only [ServicesPage.document, shows_record_iff] at shows
  rcases mem_timeNames.mp time with rfl | rfl | rfl | rfl | rfl <;>
    simpa [ofString_eq_str_iff, shows_arr_iff, or_comm] using shows

/-- The times in a list of entries, and the names under which they are shown. -/
inductive LogsPage.Times (p : LogsPage) : String → Instant → Prop
  | made : Times p "generated_at_utc" p.generatedAt
  | start : Times p "start_utc" p.window.start
  | stop : Times p "end_utc" p.window.stop
  | entry {e : Entry} : e ∈ p.entries → Times p "timestamp_utc" e.time

theorem LogsPage.times_of_shows {p : LogsPage} (time : name ∈ timeNames)
    (shows : Shows name p.document text) : ∃ t, p.Times name t ∧ text = .chars t.timestamp := by
  have entry : (∃ e ∈ p.entries, Shows name e.document text) →
      ∃ t, p.Times name t ∧ text = .chars t.timestamp := by
    rintro ⟨e, mem, shows⟩
    obtain ⟨rfl, same⟩ := Journal.time_of_shows time shows
    exact ⟨_, .entry mem, same⟩
  simp only [LogsPage.document, shows_record_iff] at shows
  rcases mem_timeNames.mp time with rfl | rfl | rfl | rfl | rfl
  all_goals simp [shows_arr_iff, ofString_eq_str_iff, shows_record_iff] at shows
  case inl | inr.inl => exact entry shows
  case inr.inr.inl => exact shows.elim entry fun same => ⟨_, .made, same⟩
  case inr.inr.inr.inl => exact shows.elim entry fun same => ⟨_, .start, same⟩
  case inr.inr.inr.inr => exact shows.elim entry fun same => ⟨_, .stop, same⟩

/-! ## Times of answers -/

/-- The instants in a list of entries lie in the calendar, and not before the window unless
the list was made before it. -/
theorem LogsPage.inRange_of_times {s : Sources} {now : Instant} {r : LogsRequest} {page : LogsPage}
    (clock : now.inRange = true) (listed : (listLogs s now r).outcome = .ok page) {t : Instant}
    (times : page.Times name t) : t.inRange = true ∧ (t = now ∨ page.window.start ≤ t) := by
  obtain ⟨q, rows, accepted, read, rfl⟩ := exists_of_listLogs listed
  have window := (LogsRequest.query_eq_ok accepted).1
  obtain ⟨start, stop, before⟩ := window_eq_ok window
  have range : ∀ {given : Option WireText} {t : Instant}, instant given = .ok (some t) →
      t.inRange = true := fun read =>
    let ⟨_, told⟩ := timestamp_of_instant read
    inRange_of_timestamp told
  cases times with
  | made => exact ⟨clock, .inl rfl⟩
  | start => exact ⟨range start, .inr (Int.le_refl _)⟩
  | stop => exact ⟨range stop, .inr (Int.le_of_lt before)⟩
  | entry mem =>
      obtain ⟨row, _, fits, time, _⟩ := exists_row_of_mem mem
      have inside := ((LogsQuery.fits_iff accepted row).mp fits).inWindow _ window
      rw [time, Journal.inRange_iff]
      exact ⟨⟨Int.le_trans (Journal.inRange_iff.mp (range start)).1 inside.1,
        Int.le_trans inside.2 (Journal.inRange_iff.mp (range stop)).2⟩, .inr inside.1⟩

theorem LogsPage.shows_start (p : LogsPage) :
    Shows "start_utc" p.document (.chars p.window.start.timestamp) := by
  simp [LogsPage.document, shows_record_iff, ofString]

/-- The units of a list are units of the source. -/
theorem exists_of_listServices {s : Sources} {now : Instant} {r : ServicesRequest}
    {page : ServicesPage} (listed : (listServices s now r).outcome = .ok page) :
    ∃ units, s.units.outcome = .ok units ∧ ∀ u ∈ page.services, u ∈ units := by
  obtain ⟨q, _, h⟩ := Run.exists_of_outcome_bind listed
  obtain ⟨units, asked, h⟩ := Run.exists_of_outcome_bind h
  obtain ⟨_, _, given⟩ := Run.exists_of_outcome_bind asked
  cases h
  refine ⟨units, given, fun u mem => ?_⟩
  exact List.mem_of_mem_filter (List.mem_mergeSort.mp (List.mem_of_mem_take mem))

end Query

end

namespace Service

open Host Number Query

/-- The text is a timestamp of an instant since 1970. -/
def Recent (s : String) : Prop := ∃ t : Instant, t.inRange = true ∧ fourDigits ≤ t ∧ s = t.timestamp

theorem inRange_of_ofSeconds {x : Binary64} {t : Instant} (h : Instant.ofSeconds? x = some t) :
    t.inRange = true ∧ fourDigits ≤ t := by
  have since : ∀ seconds micros : Nat, fourDigits ≤ (⟨seconds * 1000000 + micros⟩ : Instant) := by
    intro seconds micros
    show (-30610224000000000 : Int) ≤ seconds * 1000000 + micros
    omega
  unfold Instant.ofSeconds? at h
  split at h
  · obtain ⟨micros, _, h⟩ := Option.bind_eq_some_iff.mp h
    dsimp only at h
    split at h
    · next range =>
        cases h
        exact ⟨range, since _ _⟩
    · cases h
  · cases h

theorem recent_of_timestampOf {value : Option String} {s : String}
    (h : timestampOf value = .ok (some s)) : Recent s := by
  unfold timestampOf at h
  split at h
  · cases h
  · cases h
  · split at h
    · cases h
    · split at h
      · next t found =>
          cases h
          exact ⟨t, (inRange_of_ofSeconds found).1, (inRange_of_ofSeconds found).2, rfl⟩
      · cases h

/-- A unit of the table has no time. -/
theorem since_of_mem_ofTable {table : String} {u : ServiceUnit} (mem : u ∈ ofTable table) :
    u.since = none := by
  rw [← bare_of_mem_ofTable mem]
  rfl

theorem recent_of_detailed {all : List Properties} {table : String} {u v : ServiceUnit}
    (mem : u ∈ ofTable table) (given : detailed all u = .ok v) {s : String}
    (since : v.since = some s) : Recent s := by
  unfold detailed at given
  split at given
  · next ps _ =>
      rw [withDetails_eq] at given
      cases time : timestampOf (property? "ActiveEnterTimestamp" ps) with
      | error f =>
          rw [time] at given
          cases given
      | ok found =>
          rw [time] at given
          cases given
          obtain rfl : found = some s := since
          exact recent_of_timestampOf time
  · cases given
    rw [since_of_mem_ofTable mem] at since
    cases since

theorem recent_of_list {machine : Machine} {allowance : Allowance} {units : List ServiceUnit}
    (listed : (list machine allowance).outcome = .ok units) {u : ServiceUnit} (mem : u ∈ units)
    {s : String} (since : u.since = some s) : Recent s := by
  obtain ⟨_, _, bare, inside, given⟩ := exists_of_mem_list listed mem
  exact recent_of_detailed inside given since

end Service

namespace Gateway

open Query Rpc Tool

/-- The server gives a client the document: as the result of a tool, or as the text of a
resource. -/
inductive Gives (ms : Methods) (document : Json) : Prop
  | called {params : Json.Fields} {id : Option RequestId} {result : Json} :
      (ms.call ⟨"tools/call", .named params, id⟩).outcome = .ok result →
      member? result "structuredContent" = some document → Gives ms document
  | read {params : Json.Fields} {id : Option RequestId} {uri text : String} :
      (ms.call ⟨"resources/read", .named params, id⟩).outcome = .ok (contents uri text) →
      ReadsBack text document → Gives ms document

/-- A resource that is read is one of the catalog. -/
theorem exists_of_readResource {c : Catalog} {params : Json.Fields} {uri text : String}
    (h : (readResource c params).outcome = .ok (contents uri text)) :
    ∃ r ∈ c.resources, ∃ value, r.reader.outcome = .ok value ∧ text = value.wide := by
  unfold readResource at h
  split at h
  · cases h
  · rw [Catalog.readResource] at h
    split at h
    · cases h
    · next r found =>
        obtain ⟨value, read, h⟩ := Run.exists_of_outcome_bind h
        obtain ⟨written, dump, h⟩ := Run.exists_of_outcome_bind h
        have same : written = value.wide := by
          rw [Run.outcome_ofExcept, dumped, Json.wide?] at dump
          split_ifs at dump
          cases dump
          rfl
        simp only [resourceResult, contents, Json.record, Json.ofString, Run.outcome_pure,
          Except.ok.injEq, obj.injEq, List.map_cons, List.map_nil, List.cons.injEq, Prod.mk.injEq,
          arr.injEq, str.injEq, WireText.chars.injEq, true_and, and_true] at h
        exact ⟨r, List.mem_of_find?_eq_some found, value, read, h.2.symm.trans same⟩

/-- What is given is a list of services or of entries, but perhaps for broken texts. -/
theorem exists_page_of_gives {s : Sources} {now : Instant} {document : Json}
    (gives : Gives (methods (catalog s now)) document) :
    (∃ r page, (listServices s now r).outcome = .ok page ∧ Echoes page.document document) ∨
      ∃ r page, (listLogs s now r).outcome = .ok page ∧ Echoes page.document document := by
  cases gives with
  | called h content =>
      obtain ⟨t, mem, given, value, _, _, handled, content'⟩ := exists_of_callTool h
      obtain rfl := Option.some.inj (content.symm.trans content')
      simp only [catalog, List.mem_cons, List.not_mem_nil, or_false] at mem
      rcases mem with rfl | rfl
      · obtain ⟨page, listed, made⟩ := Run.exists_of_outcome_bind handled
        cases made
        exact .inl ⟨_, page, listed, .refl _⟩
      · obtain ⟨page, listed, made⟩ := Run.exists_of_outcome_bind handled
        cases made
        exact .inr ⟨_, page, listed, .refl _⟩
  | read h back =>
      obtain ⟨r, mem, value, read, rfl⟩ := exists_of_readResource h
      have echoes (plain : Plain (fun _ => True) value) : Echoes value document := by
        obtain ⟨w, reread⟩ := plain.exists_reread
        rw [back.unique reread.readsBack]
        exact reread.echoes
      simp only [catalog, List.mem_cons, List.not_mem_nil, or_false] at mem
      rcases mem with rfl | rfl | rfl
      · obtain ⟨page, listed, made⟩ := Run.exists_of_outcome_bind read
        cases made
        exact .inl ⟨_, page, listed, echoes page.plain_document⟩
      · obtain ⟨page, listed, made⟩ := Run.exists_of_outcome_bind read
        cases made
        exact .inl ⟨_, page, listed, echoes page.plain_document⟩
      · obtain ⟨page, listed, made⟩ := Run.exists_of_outcome_bind read
        cases made
        have plain := echoes (LogsPage.plain_document fun _ _ _ _ => trivial)
        rw [recentLogs] at listed
        split at listed
        · exact .inr ⟨_, page, listed, plain⟩
        · cases listed

/-- A time that the server shows is a timestamp of an instant of the calendar.  Its year has
four digits, unless the clock or the start of a window is before the year 1000. -/
theorem exists_instant_of_shows {s : Settings} {around : Surroundings}
    (clock : around.now.inRange = true) {document : Json}
    (gives : Gives (methodsFor s around) document) {name : String} (time : name ∈ timeNames)
    {text : WireText} (shows : Shows name document text) :
    ∃ t : Instant, t.inRange = true ∧ text = .chars t.timestamp ∧
      (fourDigits ≤ t ∨ name ≠ "since_utc" ∧ (around.now < fourDigits ∨
        ∃ start : Instant, Shows "start_utc" document (.chars start.timestamp) ∧
          start < fourDigits)) := by
  rcases exists_page_of_gives gives with ⟨r, page, listed, echoes⟩ | ⟨r, page, listed, echoes⟩
  · obtain ⟨told, shows, same⟩ := echoes.shown shows
    rcases ServicesPage.time_of_shows time shows with ⟨rfl, rfl⟩ | ⟨u, mem, shows⟩
    · rw [same _ rfl, generatedAt_of_listServices listed]
      refine ⟨_, clock, rfl, ?_⟩
      rcases Int.lt_or_le around.now.micros fourDigits.micros with early | year
      · exact .inr ⟨by decide, .inl early⟩
      · exact .inl year
    · obtain ⟨units, given, inside⟩ := exists_of_listServices listed
      obtain ⟨text, since, rfl⟩ := Service.since_of_shows time shows
      obtain ⟨t, range, year, rfl⟩ := Service.recent_of_list given (inside u mem) since
      exact ⟨t, range, same _ rfl, .inl year⟩
  · obtain ⟨told, shows, same⟩ := echoes.shown shows
    obtain ⟨t, times, rfl⟩ := LogsPage.times_of_shows time shows
    obtain ⟨range, after⟩ := LogsPage.inRange_of_times clock listed times
    refine ⟨t, range, same _ rfl, ?_⟩
    rcases Int.lt_or_le t.micros fourDigits.micros with early | year
    · refine .inr ⟨by cases times <;> decide, ?_⟩
      rcases after with rfl | started
      · exact .inl early
      · exact .inr ⟨_, echoes.chars page.shows_start, Int.lt_of_le_of_lt started early⟩
    · exact .inl year

/-- The timestamp of an instant of the calendar is a bound of the instant, cut to
milliseconds, if and only if the year has four digits, and else it is refused.  Timestamps are
in the order of the instants as long as the numerals of their years are, and so they are when
these have equally many digits.  What the server shows as a time is taken as a bound, except
when the clock or the start of a window is in an early year. -/
theorem timestamps_read_back (s : Settings) {around : Surroundings}
    (clock : around.now.inRange = true) :
    (∀ t : Instant, t.inRange = true →
      (instant (some (.chars t.timestamp)) = .ok (some t.toMillis) ↔ fourDigits ≤ t) ∧
        (t < fourDigits →
          instant (some (.chars t.timestamp)) = .error (noTime (.chars t.timestamp))) ∧
        (t.yearDigits = 4 ↔ fourDigits ≤ t)) ∧
    (∀ t t' : Instant, t.inRange = true → t'.inRange = true →
      (t ≤ t' → (t.timestamp ≤ t'.timestamp ↔ ¬ t'.yearNumeral < t.yearNumeral)) ∧
        (t.yearDigits = t'.yearDigits →
          (t.timestamp ≤ t'.timestamp ↔ t.toMillis ≤ t'.toMillis))) ∧
    ∀ document, Gives (methodsFor s around) document →
      ∀ name ∈ timeNames, ∀ text, Shows name document text →
        ∃ t : Instant, t.inRange = true ∧ text = .chars t.timestamp ∧
          (instant (some text) = .ok (some t.toMillis) ∨
            name ≠ "since_utc" ∧ (around.now < fourDigits ∨
              ∃ start : Instant, Shows "start_utc" document (.chars start.timestamp) ∧
                start < fourDigits)) := by
  have reads : ∀ t : Instant, t.inRange = true → fourDigits ≤ t →
      instant (some (.chars t.timestamp)) = .ok (some t.toMillis) :=
    fun t range year => instant_timestamp year (Journal.inRange_iff.mp range).2
  refine ⟨fun t range => ⟨⟨fun read => ?_, reads t range⟩, instant_of_early,
      yearDigits_eq_four_iff (Journal.inRange_iff.mp range).2⟩,
    fun t t' range range' => ⟨timestamp_le_iff range range', fun same => ?_⟩,
    fun document gives name time text shows => ?_⟩
  · refine Int.not_lt.mp fun early => ?_
    cases read.symm.trans (instant_of_early early)
  · rw [← String.not_lt, timestamp_lt_iff same.symm range' range]
    exact Int.not_lt
  · obtain ⟨t, range, rfl, year | early⟩ := exists_instant_of_shows clock gives time shows
    · exact ⟨t, range, rfl, .inl (reads t range year)⟩
    · exact ⟨t, range, rfl, .inr early⟩

/-- The times of a list of entries that was made at one o'clock. -/
theorem timestamps_read_back_hour :
    instant (some (.chars (Instant.timestamp ⟨1772150400000001⟩))) =
        .ok (some ⟨1772150400000000⟩) ∧
      Instant.timestamp ⟨1772150400000001⟩ ≤ Instant.timestamp ⟨1772154000000000⟩ ∧
      ∃ document, Gives (methodsFor openSettings (printingHost (graded "3"))) document ∧
        Shows "generated_at_utc" document (.chars (Instant.timestamp ⟨1772154000000000⟩)) ∧
        ∃ t : Instant, t.inRange = true ∧ (WireText.chars (Instant.timestamp ⟨1772154000000000⟩)) =
          .chars t.timestamp := by
  obtain ⟨reads, order, shown⟩ :=
    @timestamps_read_back openSettings (printingHost (graded "3")) rfl
  obtain ⟨result, called, content⟩ := outcome_hourCall ofOutput_graded.1
  have gives : Gives (methodsFor openSettings (printingHost (graded "3"))) _ :=
    .called called content
  have shows : Shows "generated_at_utc" (hourPage [gradedEntry 3]).document
      (.chars (Instant.timestamp ⟨1772154000000000⟩)) := by
    simp [LogsPage.document, shows_record_iff, ofString, hourPage, LogsQuery.page]
  obtain ⟨t, range, same, _⟩ := shown _ gives "generated_at_utc" (by decide) _ shows
  exact ⟨(reads ⟨1772150400000001⟩ rfl).1.mpr (by decide),
    ((order ⟨1772150400000001⟩ ⟨1772154000000000⟩ rfl rfl).2 (by decide +kernel)).mpr (by decide),
    _, gives, shows, t, range, same⟩

/-- The last second before the year 1000 is not taken as a bound, and its timestamp is after
that of the first instant of the year. -/
theorem lastEarlySecond_refused :
    ∃ t : Instant, t.inRange = true ∧ t.timestamp = "999-12-31T23:59:59.000Z" ∧ t < fourDigits ∧
      fourDigits.timestamp < t.timestamp ∧
      instant (some (.chars t.timestamp)) ≠ .ok (some t.toMillis) := by
  have written : Instant.timestamp ⟨-30610224001000000⟩ = "999-12-31T23:59:59.000Z" := by
    decide +kernel
  have next : fourDigits.timestamp = "1000-01-01T00:00:00.000Z" := by decide +kernel
  have refused := @instant_of_early ⟨-30610224001000000⟩ (by decide)
  refine ⟨⟨-30610224001000000⟩, rfl, written, by decide, ?_, ?_⟩
  · rw [written, next]
    decide
  · rw [refused]
    nofun

end Gateway

end HostMonitor
