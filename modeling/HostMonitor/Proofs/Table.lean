import HostMonitor.Proofs.Cutting
import HostMonitor.Service.Listing
import Mathlib.Data.List.Sort

/-!
# The table of units read back

A row is a unit as the host prints it: four words and a description.  `Row.PrintedAs` says
how a row may stand on a line, with marks in front and blanks between its parts.  `Tabulates`
says of lines that they are those of rows, with other lines anywhere between them.

The rows are read back from every text on whose lines they stand, and nothing else is.  They
are in the order of their names, and those of one name in the order of the table.  `ByName`
says so, and it leaves no choice.
-/

namespace HostMonitor.Service

open Text

/-! ## Rows on lines -/

/-- A unit as the host prints it. -/
structure Row where
  name : String
  load : String
  active : String
  sub : String
  description : String
  words : ∀ w ∈ [name, load, active, sub], IsWord w.toList
  service : ".service".toList <:+ name.toList
  unmarked : ∀ c ∈ name.toList.head?, isMark c = false
  trimmed : strip description = description
  oneLine : OneLine description.toList

/-- What is read of a row. -/
def Row.unit (r : Row) : ServiceUnit where
  name := r.name
  description := r.description
  loadState := r.load
  activeState := r.active
  subState := r.sub
  fileState := none
  since := none
  mainPid := none
  exitStatus := none
  result := none

/-- Blanks on one line. -/
def IsGap (cs : List Char) : Prop := ∀ c ∈ cs, isBlank c = true ∧ isLineEnd c = false

instance (cs : List Char) : Decidable (IsGap cs) := List.decidableBAll _ cs

theorem IsGap.blank {gap : List Char} (h : IsGap gap) : ∀ c ∈ gap, isBlank c = true :=
  fun c mem => (h c mem).1

theorem IsGap.opens {gap : List Char} (h : IsGap gap) (filled : gap ≠ []) {rest : List Char} :
    ∀ c ∈ (gap ++ rest).head?, isBlank c = true := by
  obtain ⟨b, more, rfl⟩ := List.exists_cons_of_ne_nil filled
  intro c ahead
  obtain rfl := Option.some.inj ahead
  exact h.blank b List.mem_cons_self

/-- The line is the row: its parts with blanks between them, marks in front, and blanks
around.  Without a description there is nothing that its blanks must part. -/
inductive Row.PrintedAs (r : Row) : List Char → Prop
  | line {before marks indent gap₁ gap₂ gap₃ gap₄ after : List Char} :
      (∀ c ∈ marks, isMark c = true) →
      (∀ gap ∈ [before, indent, gap₁, gap₂, gap₃, gap₄, after], IsGap gap) →
      (∀ gap ∈ [gap₁, gap₂, gap₃], gap ≠ []) → (r.description ≠ "" → gap₄ ≠ []) →
      PrintedAs r (before ++ (marks ++ (indent ++ (r.name.toList ++ (gap₁ ++ (r.load.toList ++
        (gap₂ ++ (r.active.toList ++ (gap₃ ++ (r.sub.toList ++
          (gap₄ ++ (r.description.toList ++ after))))))))))))

/-- The line is about no service unit: without its marks it has fewer than four words, or its
first word does not end as the name of one. -/
def Irrelevant (line : List Char) : Prop :=
  let ws := words ((trim line).dropWhile isMark)
  ws.length < 4 ∨ ∀ w ∈ ws.head?, ¬ ".service".toList <:+ w

instance (line : List Char) : Decidable (Irrelevant line) :=
  inferInstanceAs (Decidable (_ ∨ ∀ w ∈ (words ((trim line).dropWhile isMark)).head?, _))

/-- The lines are those of the rows, with other lines among them. -/
inductive Tabulates : List Row → List (List Char) → Prop
  | done : Tabulates [] []
  | row {r : Row} {line : List Char} {rs : List Row} {ls : List (List Char)} :
      r.PrintedAs line → Tabulates rs ls → Tabulates (r :: rs) (line :: ls)
  | other {line : List Char} {rs : List Row} {ls : List (List Char)} :
      Irrelevant line → Tabulates rs ls → Tabulates rs (line :: ls)

/-! ## One line -/

theorem isBlank_of_isMark {c : Char} (mark : isMark c = true) : isBlank c = false := by
  rw [isMark, Bool.or_eq_true, beq_iff_eq, beq_iff_eq] at mark
  obtain code | rfl := mark
  · rw [isBlank, code]
    decide
  · decide

/-- Marks and blanks in front of a text, and blanks behind it, are taken off. -/
theorem unmarked_around {before marks indent body after : List Char} {first : Char}
    (blank : ∀ c ∈ before, isBlank c = true) (marked : ∀ c ∈ marks, isMark c = true)
    (blank' : ∀ c ∈ indent, isBlank c = true) (blank'' : ∀ c ∈ after, isBlank c = true)
    (trimmed : trim body = body) (start : body.head? = some first)
    (plain : isMark first = false) :
    Service.unmarked (before ++ (marks ++ (indent ++ (body ++ after)))) = body := by
  have filled : body ≠ [] := by
    rintro rfl
    cases start
  obtain ⟨_, last, -, stop, open', closed⟩ := ends_of_trimBy trimmed filled
  have whole : before ++ (marks ++ (indent ++ (body ++ after))) =
      before ++ ((marks ++ (indent ++ body)) ++ after) := by
    simp only [List.append_assoc]
  have inner := @trim_around indent [] body blank' nofun
  rw [List.append_nil, trimmed] at inner
  obtain ⟨later, front⟩ := List.head?_eq_some_iff.mp start
  rw [Service.unmarked, whole, trim_around _ blank blank'', trimStartBy]
  cases marks with
  | nil =>
      rw [List.nil_append, inner, front, List.dropWhile_cons_of_neg (by simp [plain]), ← front,
        trimmed]
  | cons mark marks =>
      -- the mark in front and the end of the body keep the blanks between them
      have kept : trim (mark :: marks ++ (indent ++ body)) = mark :: marks ++ (indent ++ body) := by
        refine trimBy_of_ends rfl ?_ (isBlank_of_isMark (marked mark List.mem_cons_self)) closed
        rw [List.getLast?_append, List.getLast?_append, stop]
        rfl
      have stays : (indent ++ body).dropWhile isMark = indent ++ body := by
        cases indent with
        | nil => rw [List.nil_append, front, List.dropWhile_cons_of_neg (by simp [plain])]
        | cons b indent =>
            rw [List.cons_append, List.dropWhile_cons_of_neg]
            intro mark
            exact Bool.false_ne_true
              ((isBlank_of_isMark mark).symm.trans (blank' b List.mem_cons_self))
      rw [kept, List.dropWhile_append_of_pos marked, stays, inner]

/-- What stands behind the words of a row is its description and the blanks before it, if there
is a description, and only blanks come then. -/
theorem Row.exists_tail (r : Row) {gap after : List Char} (blank : IsGap gap)
    (blank' : IsGap after) (parted : r.description ≠ "" → gap ≠ []) :
    ∃ tail rest, gap ++ (r.description.toList ++ after) = tail ++ rest ∧
      (∀ c ∈ rest, isBlank c = true) ∧ (∀ c ∈ tail.head?, isBlank c = true) ∧
      (∀ c ∈ tail.getLast?, isBlank c = false) ∧
      (columns 0 tail).head?.getD [] = r.description.toList := by
  by_cases none : r.description = ""
  · refine ⟨[], gap ++ after, by rw [none]; rfl, ?_, nofun, nofun, by rw [none]; rfl⟩
    intro c mem
    exact (List.mem_append.mp mem).elim (blank.blank c) (blank'.blank c)
  · have trimmed : trim r.description.toList = r.description.toList := by
      rw [← toList_strip, r.trimmed]
    have filled : r.description.toList ≠ [] := by simpa using none
    obtain ⟨first, last, start, stop, opens, closed⟩ := ends_of_trimBy trimmed filled
    obtain ⟨later, front⟩ := List.head?_eq_some_iff.mp start
    refine ⟨gap ++ r.description.toList, after, by rw [List.append_assoc], blank'.blank, ?_, ?_, ?_⟩
    · exact blank.opens (parted none)
    · intro c behind
      rw [List.getLast?_append, stop] at behind
      obtain rfl := Option.some.inj behind
      exact closed
    · rw [columns, trimStart, trimStartBy, List.dropWhile_append_of_pos blank.blank, front,
        List.dropWhile_cons_of_neg (by simp [opens])]
      rfl

/-- A row stands on one line. -/
theorem Row.PrintedAs.oneLine {r : Row} {line : List Char} (printed : r.PrintedAs line) :
    OneLine line := by
  obtain @⟨before, marks, indent, gap₁, gap₂, gap₃, gap₄, after, marked, gaps, -, -⟩ := printed
  have gap {cs : List Char} (mem : cs ∈ [before, indent, gap₁, gap₂, gap₃, gap₄, after]) :
      OneLine cs := fun c inside => (gaps cs mem c inside).2
  have word {s : String} (mem : s ∈ [r.name, r.load, r.active, r.sub]) : OneLine s.toList :=
    (r.words s mem).oneLine
  have front : OneLine marks := by
    intro c mem
    rw [Bool.eq_false_iff]
    intro ends
    have solid := isBlank_of_isMark (marked c mem)
    exact Bool.false_ne_true (solid.symm.trans (isBlank_of_isLineEnd ends))
  simp only [oneLine_append, gap, word, front, r.oneLine, List.mem_cons, true_or, or_true, and_self]

/-- Behind a word there is a last character, and it is no blank. -/
theorem exists_last {w tail : List Char} (word : IsWord w)
    (closes : ∀ c ∈ tail.getLast?, isBlank c = false) :
    ∃ last, (w ++ tail).getLast? = some last ∧ isBlank last = false := by
  rw [List.getLast?_append]
  cases stop : tail.getLast? with
  | some last => exact ⟨last, rfl, closes last stop⟩
  | none =>
      refine ⟨w.getLast word.filled, ?_, word.solid _ (List.getLast_mem _)⟩
      rw [Option.none_or, List.getLast?_eq_getLast_of_ne_nil]

theorem ofLine?_of_printedAs {r : Row} {line : List Char} (printed : r.PrintedAs line) :
    ofLine? line = some r.unit := by
  obtain @⟨before, marks, indent, gap₁, gap₂, gap₃, gap₄, after, marked, gaps, parted, parted'⟩ :=
    printed
  simp only [List.forall_mem_cons, List.not_mem_nil, false_implies, implies_true, and_true]
    at gaps parted
  obtain ⟨blankBefore, blankIndent, blank₁, blank₂, blank₃, blank₄, blankAfter⟩ := gaps
  obtain ⟨tail, rest, split, blankRest, opens, closes, told⟩ :=
    r.exists_tail blank₄ blankAfter parted'
  have name : IsWord r.name.toList := r.words _ (by simp)
  have load : IsWord r.load.toList := r.words _ (by simp)
  have active : IsWord r.active.toList := r.words _ (by simp)
  have sub : IsWord r.sub.toList := r.words _ (by simp)
  obtain ⟨first, later, start⟩ := List.exists_cons_of_ne_nil name.filled
  obtain ⟨last, stop, closed⟩ := exists_last sub closes
  -- the row from its name to the end of its description
  let body := r.name.toList ++ (gap₁ ++ (r.load.toList ++ (gap₂ ++ (r.active.toList ++
    (gap₃ ++ (r.sub.toList ++ tail))))))
  have ahead : body.head? = some first := by simp [body, start]
  have behind : body.getLast? = some last := by
    simp only [body, List.getLast?_append, stop, Option.some_or]
  have trimmed : trim body = body :=
    trimBy_of_ends ahead behind (name.solid first (by simp [start])) closed
  have cols : columns 4 body =
      [r.name.toList, r.load.toList, r.active.toList, r.sub.toList] ++ columns 0 tail := by
    rw [← List.nil_append body,
      columns_word (List.forall_mem_nil _) name (blank₁.opens parted.1),
      columns_word blank₁.blank load (blank₂.opens parted.2.1),
      columns_word blank₂.blank active (blank₃.opens parted.2.2),
      columns_word blank₃.blank sub opens]
    rfl
  have left : Service.unmarked (before ++ (marks ++ (indent ++ (body ++ rest)))) = body := by
    exact unmarked_around blankBefore.blank marked blankIndent.blank blankRest trimmed ahead
      (r.unmarked first (by simp [start]))
  have whole : body ++ rest = r.name.toList ++ (gap₁ ++ (r.load.toList ++ (gap₂ ++
      (r.active.toList ++ (gap₃ ++ (r.sub.toList ++ (gap₄ ++
        (r.description.toList ++ after)))))))) := by
    simp only [body, split, List.append_assoc]
  have ending : serviceEnding.isSuffixOf r.name.toList = true :=
    List.isSuffixOf_iff_suffix.mpr r.service
  rw [ofLine?, ← whole, left, cols]
  simp only [List.cons_append, List.nil_append, ending, if_true, told, String.ofList_toList]
  rfl

theorem ofLine?_of_irrelevant {line : List Char} (irrelevant : Irrelevant line) :
    ofLine? line = none := by
  have left : words (Service.unmarked line) = words ((trim line).dropWhile isMark) := words_trim _
  have first := take_columns 4 (Service.unmarked line)
  rw [left] at first
  rw [ofLine?]
  split
  · rename_i name load active sub more cols
    rw [cols] at first
    obtain few | other := irrelevant
    · have enough := congrArg List.length first
      simp only [List.length_take, List.length_cons] at enough
      omega
    · have ahead := congrArg List.head? first
      rw [List.head?_take, List.head?_take] at ahead
      have bad := other name ahead.symm
      exact if_neg fun ending => bad (List.isSuffixOf_iff_suffix.mp ending)
  · rfl

/-- The units on the lines are those of the rows. -/
theorem filterMap_of_tabulates {rs : List Row} {ls : List (List Char)} (h : Tabulates rs ls) :
    ls.filterMap ofLine? = rs.map Row.unit := by
  induction h with
  | done => rfl
  | row printed _ ih => rw [List.filterMap_cons, ofLine?_of_printedAs printed, ih, List.map_cons]
  | other irrelevant _ ih => rw [List.filterMap_cons, ofLine?_of_irrelevant irrelevant, ih]

/-! ## The order of units -/

/-- The second list is the first in the order of names: those of one name are the same in the
same order. -/
structure ByName (units sorted : List ServiceUnit) : Prop where
  rises : sorted.Pairwise fun u v => u.name ≤ v.name
  same : ∀ name, (sorted.filter fun u => u.name == name) = units.filter fun u => u.name == name

theorem byName_mergeSort (units : List ServiceUnit) : ByName units (units.mergeSort nameLE) := by
  constructor
  · exact (List.pairwise_mergeSort nameLE_trans nameLE_total units).imp nameLE_iff.mp
  · intro name
    -- the units of one name are in order as they stand, so they keep their places
    have inOrder : (units.filter fun u => u.name == name).Pairwise (nameLE · ·) := by
      refine List.pairwise_of_forall_mem_list fun u mem v mem' => nameLE_iff.mpr ?_
      have named := eq_of_beq (List.mem_filter.mp mem).2
      have named' := eq_of_beq (List.mem_filter.mp mem').2
      exact (named.trans named'.symm) ▸ String.le_refl _
    have kept := List.Sublist.filter (fun u => u.name == name)
      (List.sublist_mergeSort nameLE_trans nameLE_total inOrder List.filter_sublist)
    rw [List.filter_filter] at kept
    have many := ((List.mergeSort_perm units nameLE).filter fun u => u.name == name).length_eq
    simp only [Bool.and_self] at kept
    exact (kept.eq_of_length many.symm).symm

/-- Lists with the same units of every name have the same units. -/
theorem mem_of_same {units units' : List ServiceUnit}
    (same : ∀ name, (units.filter fun u => u.name == name) = units'.filter fun u => u.name == name)
    {u : ServiceUnit} (mem : u ∈ units) : u ∈ units' := by
  have named : u ∈ units.filter fun v => v.name == u.name := List.mem_filter.mpr ⟨mem, by simp⟩
  rw [same] at named
  exact List.mem_of_mem_filter named

/-- There is one way to bring units into the order of names. -/
theorem ByName.unique {units sorted sorted' : List ServiceUnit} (h : ByName units sorted)
    (h' : ByName units sorted') : sorted = sorted' := by
  have same : ∀ name, (sorted.filter fun u => u.name == name) =
      sorted'.filter fun u => u.name == name := fun name => (h.same name).trans (h'.same name).symm
  have rises := h.rises
  have rises' := h'.rises
  clear h h'
  induction sorted generalizing sorted' with
  | nil =>
      cases sorted' with
      | nil => rfl
      | cons v sorted' =>
          cases mem_of_same (fun name => (same name).symm) (List.mem_cons_self (a := v))
  | cons u sorted ih =>
      cases sorted' with
      | nil => cases mem_of_same same (List.mem_cons_self (a := u))
      | cons v sorted' =>
          obtain ⟨least, onward⟩ := List.pairwise_cons.mp rises
          obtain ⟨least', onward'⟩ := List.pairwise_cons.mp rises'
          have below : v.name ≤ u.name := by
            obtain rfl | later := List.mem_cons.mp (mem_of_same same List.mem_cons_self)
            · exact String.le_refl _
            · exact least' u later
          have above : u.name ≤ v.name := by
            obtain rfl | later :=
              List.mem_cons.mp (mem_of_same (fun name => (same name).symm) List.mem_cons_self)
            · exact String.le_refl _
            · exact least v later
          have named : v.name = u.name := String.le_antisymm below above
          have heads := same u.name
          rw [List.filter_cons_of_pos (by simp), List.filter_cons_of_pos (by simp [named])] at heads
          obtain ⟨rfl, tails⟩ := List.cons.inj heads
          refine congrArg (u :: ·) (ih (fun name => ?_) onward onward')
          by_cases own : u.name = name
          · rw [← own, tails]
          · have rest := same name
            rwa [List.filter_cons_of_neg (by simp [own]), List.filter_cons_of_neg (by simp [own])]
              at rest

/-- From a text with the lines of rows just these rows are read, in the order of their names,
and those of one name in the order of the lines. -/
theorem ofTable_tabulates {rs : List Row} {ls : List (List Char)} {table : String}
    (rows : Tabulates rs ls) (lined : Lined ls table.toList) {units : List ServiceUnit} :
    ofTable table = units ↔ ByName (rs.map Row.unit) units := by
  have read : ofTable table = (rs.map Row.unit).mergeSort nameLE := by
    rw [ofTable, lines_of_lined lined, filterMap_of_tabulates rows]
  have sorted := byName_mergeSort (rs.map Row.unit)
  rw [read]
  constructor
  · rintro rfl
    exact sorted
  · exact sorted.unique

def backupRow : Row where
  name := "backup.service"
  load := "loaded"
  active := "active"
  sub := "running"
  description := "Nightly  copies"
  words := by decide
  service := by decide
  unmarked := by
    rintro c ⟨⟩
    decide
  trimmed := by decide
  oneLine := by decide

def archiveRow : Row where
  name := "archive.service"
  load := "loaded"
  active := "inactive"
  sub := "dead"
  description := ""
  words := by decide
  service := by decide
  unmarked := by
    rintro c ⟨⟩
    decide
  trimmed := by decide
  oneLine := by decide

theorem ofTable_of_two_rows :
    ofTable (" ● backup.service loaded active\trunning   Nightly  copies \r\n" ++
      "3 timers\n\x0carchive.service loaded  inactive dead") =
      [archiveRow.unit, backupRow.unit] := by
  have backup := @Row.PrintedAs.line backupRow [' '] ['●'] [' '] [' '] [' '] ['\t'] [' ', ' ', ' ']
    [' '] (List.forall_mem_singleton.mpr (by decide)) (by decide) (by decide) (by decide)
  have archive := @Row.PrintedAs.line archiveRow [] [] [] [' '] [' ', ' '] [' '] [] []
    (List.forall_mem_nil _) (by decide) (by decide) (by decide)
  have others : Irrelevant "3 timers".toList ∧ Irrelevant [] := by decide
  have lined := Lined.pair backup.oneLine
    (@Lined.single "3 timers".toList _ '\n' _ (by decide) (by decide) nofun
      (@Lined.single [] _ '\x0c' _ (by decide) (by decide) nofun
        (.last archive.oneLine (by decide))))
  have order : ByName ([backupRow, archiveRow].map Row.unit) [archiveRow.unit, backupRow.unit] := by
    refine ⟨by decide, fun name => ?_⟩
    by_cases backup : backupRow.name = name
    · rw [← backup]
      decide
    · simp [Row.unit, List.filter_cons, backup]
  refine (ofTable_tabulates
    (.row backup (.other others.1 (.other others.2 (.row archive .done)))) ?_).mpr order
  convert lined using 1
  decide

end HostMonitor.Service
