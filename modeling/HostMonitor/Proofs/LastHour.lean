import HostMonitor.Proofs.Resources

/-!
# The entries of the last hour

The bounds of the last hour are passed on as timestamps, and these are cut to milliseconds.
So the hour that is listed is the last hour moved back by less than a millisecond.  Rows
after the last whole millisecond are left out, and rows that are older than an hour by less
than a millisecond are listed.

When the source has no rows in these two gaps, what is listed is the last hour, both of its
ends included.  A clock at a whole millisecond leaves no gaps.
-/

namespace HostMonitor.Query

open Journal Text Time

/-! ## Hours -/

/-- The instant an hour earlier. -/
def hourBefore (t : Instant) : Instant := ⟨t.micros - hourMicros⟩

/-- The instant lies in the hour up to now. -/
def InLastHour (now t : Instant) : Prop := hourBefore now ≤ t ∧ t ≤ now

instance (now t : Instant) : Decidable (InLastHour now t) := inferInstanceAs (Decidable (_ ∧ _))

/-- The instant lies in the hour up to the last whole millisecond. -/
def InWholeMillis (now t : Instant) : Prop := (hourBefore now).toMillis ≤ t ∧ t ≤ now.toMillis

/-- The instant is one of the last hour, but after the last whole millisecond. -/
def Unfinished (now t : Instant) : Prop := now.toMillis < t ∧ t ≤ now

/-- The instant is before the last hour, but in the millisecond in which it starts. -/
def Overdue (now t : Instant) : Prop := (hourBefore now).toMillis ≤ t ∧ t < hourBefore now

/-- Cutting to milliseconds makes a difference for the unfinished and the overdue instants. -/
theorem inWholeMillis_iff {now t : Instant} :
    (InWholeMillis now t ↔ InLastHour now t) ↔ ¬ Unfinished now t ∧ ¬ Overdue now t := by
  have le : ∀ a b : Instant, a ≤ b ↔ a.micros ≤ b.micros := fun _ _ => Iff.rfl
  have lt : ∀ a b : Instant, a < b ↔ a.micros < b.micros := fun _ _ => Iff.rfl
  simp only [InWholeMillis, InLastHour, Unfinished, Overdue, le, lt, Instant.toMillis, hourBefore,
    hourMicros]
  omega

/-- A whole millisecond leaves no gaps. -/
theorem toMillis_of_whole {t : Instant} (whole : t.micros % 1000 = 0) :
    t.toMillis = t ∧ (hourBefore t).toMillis = hourBefore t := by
  have hour : (t.micros - hourMicros) % 1000 = 0 := by
    rw [hourMicros]
    omega
  simp [Instant.toMillis, hourBefore, whole, hour]

/-! ## The newest rows -/

/-- The rows with times of a kind, the newest first, and those of one time in the order in
which the source gave them.  Each row has its place in the source beside it. -/
structure NewestFirst (inside : Instant → Prop) (rows : List Entry) (ranked : List Row) : Prop where
  mem_iff : ∀ e place, (e, place) ∈ ranked ↔ rows[place]? = some e ∧ inside e.time
  once : (ranked.map Prod.snd).Nodup
  ordered : ranked.Pairwise Order.descending.Puts

section

variable {inside inside' : Instant → Prop} {rows : List Entry} {ranked : List Row}

/-- Rows are ranked by two kinds of times when these are the same for the rows that are there. -/
theorem NewestFirst.iff_of (newest : NewestFirst inside rows ranked) :
    NewestFirst inside' rows ranked ↔ ∀ e ∈ rows, inside e.time ↔ inside' e.time := by
  constructor
  · intro newest' e mem
    obtain ⟨place, found⟩ := List.mem_iff_getElem?.mp mem
    have both := (newest.mem_iff e place).symm.trans (newest'.mem_iff e place)
    rwa [and_iff_right found, and_iff_right found] at both
  · intro same
    refine { newest with mem_iff := fun e place => ?_ }
    rw [newest.mem_iff]
    exact and_congr_right fun found => same e (List.mem_of_getElem? found)

end

/-! ## The list -/

/-- The query that the timestamps of the last hour ask for. -/
def hourQuery (now : Instant) : LogsQuery :=
  ⟨⟨(hourBefore now).toMillis, now.toMillis⟩, none, none, [], .descending, none, standardEntries⟩

theorem fits_hourQuery_iff {now : Instant} {e : Entry} :
    (hourQuery now).fits e = true ↔ InWholeMillis now e.time := by
  simp only [LogsQuery.fits, Bool.and_eq_true, Bool.not_eq_true', Window.contains,
    decide_eq_true_eq, LogsQuery.admitsPriority_iff, LogsQuery.admitsUnit_iff,
    LogsQuery.excludes_eq_false_iff, LogsQuery.admitsMessage_iff]
  simp [hourQuery, InWholeMillis]

theorem newestFirst_ranked (now : Instant) (rows : List Entry) :
    NewestFirst (InWholeMillis now) rows ((hourQuery now).ranked rows) where
  mem_iff _ _ := mem_rankedBy_iff.trans (and_congr_right fun _ => fits_hourQuery_iff)
  once := nodup_rankedBy
  ordered := (pairwise_rankedBy (hourQuery now).before_trans (hourQuery now).before_total).imp
    fun both => LogsQuery.puts_of_before (q := hourQuery now) both.1 both.2

theorem entries_hourQuery (now : Instant) (cap : Option Int) (rows : List Entry) :
    ((hourQuery now).page now cap rows).entries =
      (((hourQuery now).ranked rows).take 200).map fun x => withCleanMessage x.1 := by
  rw [List.map_take, ← LogsQuery.mergeSort_select]
  rfl

/-- The list of the last hour is made whenever the source gives rows. -/
theorem outcome_recentLogs {s : Sources} {now : Instant} {rows : List Entry}
    (clock : now.inRange = true) (year : fourDigits ≤ hourBefore now)
    (read : (s.logs ⟨(hourBefore now).toMillis, now.toMillis⟩ none none).outcome = .ok rows) :
    (recentLogs s now).outcome = .ok ((hourQuery now).page now s.scanLimit rows) := by
  have range : (hourBefore now).inRange = true := by
    have last : now.micros ≤ Instant.last.micros := (Journal.inRange_iff.mp clock).2
    have hour : now.micros - hourMicros ≤ Instant.last.micros := by
      rw [hourMicros]
      omega
    exact Journal.inRange_iff.mpr ⟨Int.le_trans (by decide) year, hour⟩
  have earlier : now.later? (-hourMicros) = some (hourBefore now) := if_pos range
  have accepted := @LogsRequest.query_within s.charNames _ _ _
    (window_lastHour clock earlier year)
  rw [recentLogs, earlier]
  exact outcome_listLogs accepted read

/-- The entries of the last hour are the newest 200 of the rows up to the last whole
millisecond, and there is always a list of them.  These are the rows of the last hour itself
if and only if the source has none in the two gaps, and so they are when the clock is at a
whole millisecond. -/
theorem recentLogs_lastHour {s : Sources} {now : Instant} {rows : List Entry}
    (clock : now.inRange = true) (year : fourDigits ≤ hourBefore now)
    (read : (s.logs ⟨(hourBefore now).toMillis, now.toMillis⟩ none none).outcome = .ok rows) :
    ∃ (page : LogsPage) (ranked : List Row), (recentLogs s now).outcome = .ok page ∧
      page.entries = (ranked.take 200).map (fun x => withCleanMessage x.1) ∧
      page.returned = min 200 ranked.length ∧ NewestFirst (InWholeMillis now) rows ranked ∧
      (NewestFirst (InLastHour now) rows ranked ↔
        ∀ e ∈ rows, ¬ Unfinished now e.time ∧ ¬ Overdue now e.time) ∧
      (now.micros % 1000 = 0 → NewestFirst (InLastHour now) rows ranked) := by
  have newest := newestFirst_ranked now rows
  refine ⟨_, _, outcome_recentLogs clock year read, entries_hourQuery now _ rows, ?_, newest, ?_,
    fun whole => ?_⟩
  · rw [LogsPage.returned, entries_hourQuery, List.length_map, List.length_take]
  · rw [newest.iff_of]
    exact forall₂_congr fun _ _ => inWholeMillis_iff
  · obtain ⟨stop, start⟩ := toMillis_of_whole whole
    unfold InWholeMillis at newest
    rwa [stop, start] at newest

/-- A source of two rows around the last hour. -/
def roundHour : Sources := ⟨.done [], fun _ _ _ =>
  .done [entryAt 1772154000000400, entryAt 1772150400000400], none, fun _ => none⟩

/-- At one o'clock there is a row of the last hour. -/
theorem recentLogs_lastHour_whole :
    ∃ (page : LogsPage) (ranked : List Row),
      (recentLogs roundHour ⟨1772154000000000⟩).outcome = .ok page ∧
      page.entries = (ranked.take 200).map (fun x => withCleanMessage x.1) ∧
      NewestFirst (InLastHour ⟨1772154000000000⟩)
        [entryAt 1772154000000400, entryAt 1772150400000400] ranked := by
  obtain ⟨page, ranked, listed, entries, _, _, _, whole⟩ :=
    @recentLogs_lastHour roundHour ⟨1772154000000000⟩ _ rfl (by decide) rfl
  exact ⟨page, ranked, listed, entries, whole rfl⟩

/-- Half a millisecond later the newest row of the last hour is left out, and one that is
older than an hour is listed. -/
theorem recentLogs_gaps :
    InLastHour ⟨1772154000000500⟩ (entryAt 1772154000000400).time ∧
      ¬ InLastHour ⟨1772154000000500⟩ (entryAt 1772150400000400).time ∧
      ∃ page, (recentLogs roundHour ⟨1772154000000500⟩).outcome = .ok page ∧
        page.entries = [entryAt 1772150400000400] := by
  have selected : [entryAt 1772154000000400, entryAt 1772150400000400].filterMap
      (hourQuery ⟨1772154000000500⟩).select = [entryAt 1772150400000400] := by decide
  refine ⟨by decide, by decide, _,
    @outcome_recentLogs roundHour ⟨1772154000000500⟩ _ rfl (by decide) rfl, ?_⟩
  rw [LogsQuery.page, selected, List.mergeSort_singleton]
  rfl

end HostMonitor.Query
