import HostMonitor.Proofs.Cutting
import HostMonitor.Proofs.ScanCap

/-!
# Clean messages

A text is clean when there is something in it, no control but line feeds, carriage returns
and tabs, and no blank at its ends.  `Cleans` says which clean text is made of a message: what
is void at the ends is taken off, and a stray control in the middle becomes a space.

A surrogate without a partner is a character like any other that is no control.  So the
characters of a text are taken here by their code points.

Cleaning makes just this text, and none when all of the message is void.  It leaves a clean
text as it is, so a message that is cleaned twice is cleaned once.

The messages of a list are clean.  A search that has chosen them chooses them again, and a
source that gives back the entries of a list makes the same entries of them.
-/

namespace HostMonitor.Query

open Journal Text Time

/-! ## Clean texts -/

/-- A control character. -/
def IsControl (p : Nat) : Prop := p ≤ 0x1F ∨ 0x7F ≤ p ∧ p ≤ 0x9F

/-- A control that is no line feed, no carriage return and no tab. -/
def IsStray (p : Nat) : Prop :=
  IsControl p ∧ p ≠ '\n'.toNat ∧ p ≠ '\r'.toNat ∧ p ≠ '\t'.toNat

/-- A character of which nothing is left at the end of a message. -/
def IsVoid (p : Nat) : Prop := isBlankCode p = true ∨ IsStray p

/-- A text without anything to clean. -/
structure IsClean (text : WireText) : Prop where
  filled : text.points ≠ []
  plain : ∀ p ∈ text.points, ¬ IsStray p
  opens : ∀ p ∈ text.points.head?, isBlankCode p = false
  closes : ∀ p ∈ text.points.getLast?, isBlankCode p = false

/-- A character of a message, and how it stands in the clean text. -/
def ShownAs (p q : Nat) : Prop := IsStray p ∧ q = ' '.toNat ∨ ¬ IsStray p ∧ q = p

/-- The text is the message without what is void at its ends, with spaces for stray controls. -/
structure Cleans (message text : WireText) : Prop where
  clean : IsClean text
  stands : ∃ before body after, message.points = before ++ (body ++ after) ∧
    (∀ p ∈ before, IsVoid p) ∧ (∀ p ∈ after, IsVoid p) ∧ List.Forall₂ ShownAs body text.points

/-! ## One character -/

theorem isReplaced_iff {p : Nat} : isReplaced p = true ↔ IsStray p := by
  simp only [isReplaced, IsStray, IsControl, Bool.or_eq_true, Bool.and_eq_true,
    decide_eq_true_eq, beq_iff_eq, Char.reduceToNat]
  omega

/-- A character with a space in place of a stray control. -/
def spaced (p : Nat) : Nat := if isReplaced p then 0x20 else p

theorem shownAs_iff {p q : Nat} : ShownAs p q ↔ spaced p = q := by
  rw [ShownAs, ← isReplaced_iff, spaced]
  by_cases stray : isReplaced p = true
  · simp [stray, eq_comm]
  · simp [stray, eq_comm]

theorem not_isStray_spaced (p : Nat) : ¬ IsStray (spaced p) := by
  rw [← isReplaced_iff, spaced]
  split
  · decide
  · assumption

theorem isBlankCode_spaced {p : Nat} : isBlankCode (spaced p) = true ↔ IsVoid p := by
  rw [IsVoid, ← isReplaced_iff, spaced]
  split
  · next stray => exact iff_of_true (by decide) (.inr stray)
  · next plain => rw [or_iff_left plain]

theorem spaced_of_not_isStray {p : Nat} (plain : ¬ IsStray p) : spaced p = p :=
  if_neg (mt isReplaced_iff.mp plain)

/-! ## One message -/

section

variable {message text : WireText}

theorem cleaned_eq (message : WireText) : cleaned message =
    if trimBy isBlankCode (message.points.map spaced) = [] then none
    else some (.ofPoints (trimBy isBlankCode (message.points.map spaced))) := by
  simp only [← List.isEmpty_iff]
  rfl

theorem cleaned_eq_some_iff : cleaned message = some text ↔
    trimBy isBlankCode (message.points.map spaced) = text.points ∧ text.points ≠ [] := by
  rw [cleaned_eq]
  constructor
  · intro made
    split at made
    · cases made
    · next filled =>
        cases made
        rw [WireText.points_ofPoints]
        exact ⟨rfl, filled⟩
  · rintro ⟨left, filled⟩
    rw [left, if_neg filled, WireText.ofPoints_points]

/-- Nothing is left of a message in which all is void. -/
theorem cleaned_eq_none_iff : cleaned message = none ↔ ∀ p ∈ message.points, IsVoid p := by
  rw [cleaned_eq, ite_eq_left_iff, trimBy_eq_nil_iff, List.forall_mem_map]
  simp only [isBlankCode_spaced, reduceCtorEq, imp_false, not_not]

theorem IsClean.trim_eq (clean : IsClean text) :
    trimBy isBlankCode text.points = text.points := by
  have start := List.head?_eq_some_head clean.filled
  have stop := List.getLast?_eq_some_getLast clean.filled
  exact trimBy_of_ends start stop (clean.opens _ start) (clean.closes _ stop)

/-- The text that is made of a message is clean. -/
theorem isClean_of_cleaned (made : cleaned message = some text) : IsClean text := by
  obtain ⟨left, filled⟩ := cleaned_eq_some_iff.mp made
  have trimmed : trimBy isBlankCode text.points = text.points := by rw [← left, trimBy_trimBy]
  obtain ⟨first, last, start, stop, opens, closes⟩ := ends_of_trimBy trimmed filled
  refine ⟨filled, fun p mem => ?_, fun p ahead => ?_, fun p behind => ?_⟩
  · rw [← left] at mem
    obtain ⟨q, -, rfl⟩ := List.mem_map.mp ((trimBy_sublist _ _).subset mem)
    exact not_isStray_spaced q
  · obtain rfl := Option.some.inj (start.symm.trans ahead)
    exact opens
  · obtain rfl := Option.some.inj (stop.symm.trans behind)
    exact closes

/-- Shown one by one, characters are shown with a space for each stray control. -/
theorem forall₂_shownAs_iff {ps qs : List Nat} :
    List.Forall₂ ShownAs ps qs ↔ ps.map spaced = qs := by
  rw [← List.forall₂_eq_eq_eq, List.forall₂_map_left_iff]
  exact ⟨.imp fun _ _ => shownAs_iff.mp, .imp fun _ _ => shownAs_iff.mpr⟩

/-- The text that is made of a message is the one that cleans it. -/
theorem cleaned_eq_some_iff_cleans : cleaned message = some text ↔ Cleans message text := by
  constructor
  · intro made
    obtain ⟨left, filled⟩ := cleaned_eq_some_iff.mp made
    obtain ⟨before, after, whole, blank, blank'⟩ :=
      exists_around isBlankCode (message.points.map spaced)
    obtain ⟨before, rest, split, rfl, same⟩ := List.map_eq_append_iff.mp whole
    obtain ⟨body, after, rfl, shown, rfl⟩ := List.map_eq_append_iff.mp same
    rw [List.forall_mem_map] at blank blank'
    refine ⟨isClean_of_cleaned made, before, body, after, split, ?_, ?_, ?_⟩
    · exact fun p mem => isBlankCode_spaced.mp (blank p mem)
    · exact fun p mem => isBlankCode_spaced.mp (blank' p mem)
    · exact forall₂_shownAs_iff.mpr (shown.trans left)
  · rintro ⟨clean, before, body, after, split, void, void', shown⟩
    refine cleaned_eq_some_iff.mpr ⟨?_, clean.filled⟩
    rw [split, List.map_append, List.map_append, forall₂_shownAs_iff.mp shown, trimBy_around,
      clean.trim_eq]
    · exact List.forall_mem_map.mpr fun p mem => isBlankCode_spaced.mpr (void p mem)
    · exact List.forall_mem_map.mpr fun p mem => isBlankCode_spaced.mpr (void' p mem)

/-- A clean text is left as it is. -/
theorem cleaned_of_isClean (clean : IsClean text) : cleaned text = some text := by
  have same : text.points.map spaced = text.points := by
    rw [List.map_congr_left fun p mem => spaced_of_not_isStray (clean.plain p mem), List.map_id']
  exact cleaned_eq_some_iff.mpr ⟨same.symm ▸ clean.trim_eq, clean.filled⟩

/-- Cleaning twice is cleaning once. -/
theorem cleaned_cleaned (message : WireText) : (cleaned message).bind cleaned = cleaned message := by
  cases made : cleaned message with
  | none => rfl
  | some text => exact cleaned_of_isClean (isClean_of_cleaned made)

end

/-! ## Lists -/

/-- A clean message stays as it is. -/
theorem message_withCleanMessage (e : Entry) :
    (withCleanMessage e).message.bind cleaned = (withCleanMessage e).message := by
  rw [withCleanMessage]
  cases e.message with
  | none => rfl
  | some message => exact cleaned_cleaned message

namespace LogsQuery

variable {q : LogsQuery} {now now' : Instant} {cap cap' : Option Int} {rows : List Entry}

/-- An entry of a page is selected again, as it is. -/
theorem select_of_mem_page {e : Entry} (mem : e ∈ (q.page now cap rows).entries) :
    q.select e = some e := by
  obtain ⟨row, -, fits, rfl⟩ := exists_of_mem_page mem
  have again : q.fits (withCleanMessage row) = true := by
    rw [LogsQuery.fits, message_withCleanMessage]
    exact fits
  rw [select_eq, if_pos again, withCleanMessage, message_withCleanMessage]

/-- A page of the entries of a page has the same entries. -/
theorem entries_page_entries :
    (q.page now' cap' (q.page now cap rows).entries).entries = (q.page now cap rows).entries := by
  have selected : (q.page now cap rows).entries.filterMap q.select =
      (q.page now cap rows).entries := by
    rw [List.filterMap_congr fun e mem => select_of_mem_page mem, List.filterMap_some]
  have sorted : (q.page now cap rows).entries.Pairwise fun a b => q.before a b = true :=
    (List.pairwise_mergeSort q.before_trans q.before_total _).sublist (List.take_sublist _ _)
  rw [page, selected, List.mergeSort_of_pairwise sorted]
  exact List.take_of_length_le (List.length_take_le _ _)

end LogsQuery

section

variable {s : Sources} {now : Instant} {r : LogsRequest} {page : LogsPage} {e : Entry}

/-- The messages of a list are clean. -/
theorem isClean_of_mem (listed : (listLogs s now r).outcome = .ok page) (mem : e ∈ page.entries)
    {text : WireText} (given : e.message = some text) : IsClean text := by
  obtain ⟨q, rows, -, -, rfl⟩ := exists_of_listLogs listed
  obtain ⟨row, -, -, rfl⟩ := LogsQuery.exists_of_mem_page mem
  obtain ⟨message, -, made⟩ := Option.bind_eq_some_iff.mp given
  exact isClean_of_cleaned made

/-- The search finds something in every message of a list. -/
theorem chosen_of_mem (listed : (listLogs s now r).outcome = .ok page) (mem : e ∈ page.entries)
    {m : Matcher} (search : matcher s.charNames r.grep = .ok (some m)) :
    ∃ text, e.message = some text ∧ m.chooses text = true := by
  obtain ⟨q, rows, accepted, -, rfl⟩ := exists_of_listLogs listed
  obtain ⟨row, -, fits, rfl⟩ := LogsQuery.exists_of_mem_page mem
  exact ((LogsQuery.fits_iff accepted row).mp fits).found m search

/-- A source of the entries of a list gives them again. -/
theorem exists_relisted (listed : (listLogs s now r).outcome = .ok page) {s' : Sources}
    (named : s'.charNames = s.charNames)
    (back : ∀ w most unit, (s'.logs w most unit).outcome = .ok page.entries) (now' : Instant) :
    ∃ page', (listLogs s' now' r).outcome = .ok page' ∧ page'.entries = page.entries := by
  obtain ⟨q, rows, accepted, -, rfl⟩ := exists_of_listLogs listed
  exact ⟨_, outcome_listLogs (named ▸ accepted) (back ..), LogsQuery.entries_page_entries⟩

end

/-- Of a message its clean text is made, and none if and only if all of it is void.  Cleaning
twice is cleaning once, and a clean text stays as it is.

The messages of a list are clean, and the search finds something in each of them.  With the
entries of the list for its source the list has the same entries again. -/
theorem cleaned_projects :
    (∀ message : WireText,
      (∀ text, cleaned message = some text ↔ Cleans message text) ∧
      (cleaned message).bind cleaned = cleaned message ∧
      (IsClean message → cleaned message = some message) ∧
      (cleaned message = none ↔ ∀ p ∈ message.points, IsVoid p)) ∧
    ∀ (s : Sources) (now : Instant) (r : LogsRequest) (page : LogsPage),
      (listLogs s now r).outcome = .ok page →
        (∀ e ∈ page.entries, (∀ text, e.message = some text → IsClean text) ∧
          ∀ m, matcher s.charNames r.grep = .ok (some m) →
            ∃ text, e.message = some text ∧ m.chooses text = true) ∧
        ∀ (s' : Sources) (now' : Instant), s'.charNames = s.charNames →
          (∀ w most unit, (s'.logs w most unit).outcome = .ok page.entries) →
            ∃ page', (listLogs s' now' r).outcome = .ok page' ∧ page'.entries = page.entries := by
  refine ⟨fun message => ⟨fun text => cleaned_eq_some_iff_cleans, cleaned_cleaned message,
    cleaned_of_isClean, cleaned_eq_none_iff⟩, fun s now r page listed => ⟨?_, ?_⟩⟩
  · exact fun e mem => ⟨fun text => isClean_of_mem listed mem, fun m => chosen_of_mem listed mem⟩
  · exact fun s' now' named back => exists_relisted listed named back now'

/-- An entry with the message. -/
def saying (message : WireText) : Entry :=
  ⟨⟨1772150400000001⟩, none, none, none, none, some message, none⟩

/-- A source of one entry with controls in its message. -/
def escaping : Sources :=
  ⟨.done [], fun _ _ _ => .done [saying "  a\x00b\x1bc\td\ne \x07"], none, fun _ => none⟩

/-- An hour, with a search for a space between two letters. -/
def spaceRequest : LogsRequest :=
  { LogsRequest.within "2026-02-27T00:00:00Z" "2026-02-27T01:00:00Z" with grep := some "b c" }

def spaceQuery : LogsQuery :=
  ⟨⟨⟨1772150400000000⟩, ⟨1772154000000000⟩⟩, none, none, [], .descending, some (.holding "b c"),
    standardEntries⟩

/-- The space that is searched for stands in place of the escape. -/
theorem cleaned_projects_escape :
    ∃ page, (listLogs escaping ⟨0⟩ spaceRequest).outcome = .ok page ∧
      page.entries = [saying "a b c\td\ne"] ∧ IsClean "a b c\td\ne" ∧
      Matcher.chooses (.holding "b c") "a b c\td\ne" = true := by
  have window : Query.window spaceRequest.start spaceRequest.stop spaceRequest.allowLargeWindow =
      .ok ⟨⟨1772150400000000⟩, ⟨1772154000000000⟩⟩ := window_hour
  have search : matcher (fun _ => none) spaceRequest.grep = .ok (some (.holding "b c")) := rfl
  have accepted : spaceRequest.query (fun _ => none) = .ok spaceQuery := by
    rw [LogsRequest.query, window]
    rfl
  have listed : (listLogs escaping ⟨0⟩ spaceRequest).outcome = .ok (spaceQuery.page ⟨0⟩ none _) :=
    outcome_listLogs accepted rfl
  have selected : [saying "  a\x00b\x1bc\td\ne \x07"].filterMap spaceQuery.select =
      [saying "a b c\td\ne"] := by decide +kernel
  have entries : (spaceQuery.page ⟨0⟩ none [saying "  a\x00b\x1bc\td\ne \x07"]).entries =
      [saying "a b c\td\ne"] := by
    rw [LogsQuery.page, selected, List.mergeSort_singleton]
    rfl
  have mem := List.mem_singleton.mpr (Eq.refl (saying "a b c\td\ne"))
  obtain ⟨clean, chosen⟩ := (cleaned_projects.2 _ _ _ _ listed).1 _ (entries ▸ mem)
  obtain ⟨text, said, found⟩ := chosen _ search
  obtain rfl := Option.some.inj said
  exact ⟨_, listed, entries, clean _ rfl, found⟩

end HostMonitor.Query
