import HostMonitor.Text.Split
import Mathlib.Data.List.Infix
import Mathlib.Data.List.TakeWhile

/-!
# Trimming and cutting

What a text is cut into is said of the text alone.  `Lined` holds of lines and a text in
which they stand one after another, each with an end of its own.  `words` are the parts of a
text between blanks.

The lines of a text are the ones that stand in it so, and its first columns are its first
words.  Blanks at the ends of a text change neither what trimming leaves of it nor its words.
-/

namespace HostMonitor.Text

/-! ## Blanks around a text -/

section

variable {α : Type} {drop : α → Bool}

/-- What is taken off around a text is taken off with what is at its ends. -/
theorem trimBy_around {before after : List α} (cs : List α)
    (blank : ∀ c ∈ before, drop c = true) (blank' : ∀ c ∈ after, drop c = true) :
    trimBy drop (before ++ (cs ++ after)) = trimBy drop cs := by
  have front : trimBy drop (before ++ (cs ++ after)) = trimBy drop (cs ++ after) := by
    rw [trimBy, trimStartBy, List.dropWhile_append_of_pos blank]
    rfl
  rw [front, trimBy, trimStartBy, List.dropWhile_append]
  cases rest : cs.dropWhile drop with
  | nil =>
      have none : after.dropWhile drop = [] := dropWhile_of_all (List.all_eq_true.mpr blank')
      simp [trimBy, trimStartBy, rest, none]
  | cons c more =>
      have back : ∀ c ∈ after.reverse, drop c = true :=
        fun c mem => blank' c (List.mem_reverse.mp mem)
      have turned : (c :: more ++ after).reverse = after.reverse ++ (c :: more).reverse :=
        List.reverse_append
      simp only [List.isEmpty_cons, Bool.false_eq_true, if_false, trimBy, trimStartBy, rest,
        trimEndBy, turned, List.dropWhile_append_of_pos back]

/-- A text is what trimming leaves of it, with what is taken off around. -/
theorem exists_around (drop : α → Bool) (cs : List α) :
    ∃ before after, cs = before ++ (trimBy drop cs ++ after) ∧
      (∀ c ∈ before, drop c = true) ∧ ∀ c ∈ after, drop c = true := by
  refine ⟨cs.takeWhile drop, ((cs.dropWhile drop).reverse.takeWhile drop).reverse, ?_,
    fun c => List.mem_takeWhile_imp, fun c mem => List.mem_takeWhile_imp (List.mem_reverse.mp mem)⟩
  have back : trimBy drop cs ++ ((cs.dropWhile drop).reverse.takeWhile drop).reverse =
      cs.dropWhile drop := by
    rw [trimBy, trimStartBy, trimEndBy, ← List.reverse_append,
      List.takeWhile_append_dropWhile, List.reverse_reverse]
  rw [back, List.takeWhile_append_dropWhile]

/-- What is trimmed stays so. -/
theorem trimBy_trimBy (cs : List α) : trimBy drop (trimBy drop cs) = trimBy drop cs := by
  obtain ⟨before, after, whole, blank, blank'⟩ := exists_around drop cs
  calc
    trimBy drop (trimBy drop cs) = trimBy drop (before ++ (trimBy drop cs ++ after)) :=
      (trimBy_around _ blank blank').symm
    _ = trimBy drop cs := by rw [← whole]

/-- Nothing is left of a text when all of it is taken off. -/
theorem trimBy_eq_nil_iff {cs : List α} : trimBy drop cs = [] ↔ ∀ c ∈ cs, drop c = true := by
  constructor
  · intro none
    obtain ⟨before, after, whole, blank, blank'⟩ := exists_around drop cs
    rw [whole, none, List.nil_append, List.forall_mem_append]
    exact ⟨blank, blank'⟩
  · intro blank
    rw [trimBy, trimStartBy, dropWhile_of_all (List.all_eq_true.mpr blank)]
    rfl

/-- A text without anything to take off at its ends is left as it is. -/
theorem trimBy_of_ends {first last : α} {cs : List α} (start : cs.head? = some first)
    (stop : cs.getLast? = some last) (filled : drop first = false)
    (closed : drop last = false) : trimBy drop cs = cs := by
  obtain ⟨later, front⟩ := List.head?_eq_some_iff.mp start
  obtain ⟨before, back⟩ := List.getLast?_eq_some_iff.mp stop
  have kept : cs.dropWhile drop = cs := by
    rw [front, List.dropWhile_cons_of_neg (by simp [filled])]
  rw [trimBy, trimStartBy, kept, trimEndBy, back, List.reverse_concat,
    List.dropWhile_cons_of_neg (by simp [closed]), List.reverse_cons, List.reverse_reverse]

theorem trimBy_sublist (drop : α → Bool) (cs : List α) : (trimBy drop cs).Sublist cs := by
  have back := (List.dropWhile_sublist drop (l := (cs.dropWhile drop).reverse)).reverse
  rw [List.reverse_reverse] at back
  exact back.trans (List.dropWhile_sublist drop)

/-- A trimmed text has nothing to take off at its ends. -/
theorem ends_of_trimBy {cs : List α} (trimmed : trimBy drop cs = cs) (filled : cs ≠ []) :
    ∃ first last, cs.head? = some first ∧ cs.getLast? = some last ∧ drop first = false ∧
      drop last = false := by
  obtain ⟨first, later, front⟩ := List.exists_cons_of_ne_nil filled
  obtain ⟨before, last, back⟩ := (List.eq_nil_or_concat' cs).resolve_left filled
  refine ⟨first, last, by rw [front]; rfl, by rw [back, List.getLast?_concat], ?_, ?_⟩
  · rw [Bool.eq_false_iff]
    intro blank
    have shorter : trimBy drop cs = trimBy drop later := by
      simpa [front] using @trimBy_around α drop [first] [] later (by simpa) nofun
    have short := (trimBy_sublist drop later).length_le
    rw [← shorter, trimmed, front, List.length_cons] at short
    omega
  · rw [Bool.eq_false_iff]
    intro blank
    have shorter : trimBy drop cs = trimBy drop before := by
      simpa [back] using @trimBy_around α drop [] [last] before nofun (by simpa)
    have short := (trimBy_sublist drop before).length_le
    rw [← shorter, trimmed, back, List.length_append, List.length_singleton] at short
    omega

end

/-- Blanks around a text are taken off with those at its ends. -/
theorem trim_around {before after : List Char} (cs : List Char)
    (blank : ∀ c ∈ before, isBlank c = true) (blank' : ∀ c ∈ after, isBlank c = true) :
    trim (before ++ (cs ++ after)) = trim cs := trimBy_around cs blank blank'

theorem not_isBlank_of_isDigit {c : Char} (h : c.isDigit = true) : isBlank c = false := by
  have digit : 48 ≤ c.toNat ∧ c.toNat ≤ 57 := by
    rw [Char.isDigit, Bool.and_eq_true, decide_eq_true_eq, decide_eq_true_eq] at h
    exact h
  rw [isBlank, Bool.eq_false_iff]
  intro blank
  obtain ⟨r, mem, low, high⟩ := (covered_iff _ _).mp blank
  simp only [blankCodes, List.mem_cons, List.not_mem_nil, or_false] at mem
  rcases mem with rfl | rfl | rfl | rfl | rfl | rfl | rfl | rfl | rfl | rfl <;>
    dsimp only at low high <;> omega

/-! ## Lines -/

/-- The text is on one line. -/
def OneLine (cs : List Char) : Prop := ∀ c ∈ cs, isLineEnd c = false

instance (cs : List Char) : Decidable (OneLine cs) := List.decidableBAll _ cs

theorem oneLine_append {cs ds : List Char} : OneLine (cs ++ ds) ↔ OneLine cs ∧ OneLine ds :=
  List.forall_mem_append

/-- The lines stand in the text one after another.  Each has an end, but for the last one, if
there is anything on it.  A carriage return and a line feed after it are one end. -/
inductive Lined : List (List Char) → List Char → Prop
  | done : Lined [] []
  | last {line : List Char} : OneLine line → line ≠ [] → Lined [line] line
  | pair {line rest : List Char} {ls : List (List Char)} : OneLine line → Lined ls rest →
      Lined (line :: ls) (line ++ '\r' :: '\n' :: rest)
  | single {line rest : List Char} {e : Char} {ls : List (List Char)} : OneLine line →
      isLineEnd e = true → (e = '\r' → rest.head? ≠ some '\n') → Lined ls rest →
      Lined (line :: ls) (line ++ e :: rest)

theorem linesFrom_single {e : Char} {rest : List Char} (held : List Char)
    (single : e = '\r' → rest.head? ≠ some '\n') : linesFrom held (e :: rest) =
      if isLineEnd e then held.reverse :: linesFrom [] rest else linesFrom (e :: held) rest := by
  rw [linesFrom]
  rintro more rfl rfl
  exact single rfl rfl

/-- What stands on one line is held back. -/
theorem linesFrom_oneLine {line : List Char} (one : OneLine line) (held rest : List Char) :
    linesFrom held (line ++ rest) = linesFrom (line.reverse ++ held) rest := by
  induction line generalizing held with
  | nil => rfl
  | cons c line ih =>
      obtain ⟨goes, one⟩ := List.forall_mem_cons.mp one
      have plain : c ≠ '\r' := by
        rintro rfl
        cases goes
      rw [List.cons_append, linesFrom_single held fun e => absurd e plain, if_neg (by simp [goes]),
        ih one, List.reverse_cons, List.append_assoc, List.singleton_append]

/-- The lines that stand in a text are its lines. -/
theorem lines_of_lined {ls : List (List Char)} {text : List Char} (h : Lined ls text) :
    lines text = ls := by
  rw [lines]
  induction h with
  | done => rfl
  | @last line one filled =>
      have held : line.reverse.isEmpty = false := by simpa using filled
      have whole := linesFrom_oneLine one [] []
      rw [List.append_nil, List.append_nil, linesFrom, held] at whole
      simpa using whole
  | pair one _ ih =>
      rw [linesFrom_oneLine one, linesFrom, ih]
      simp
  | single one ends single _ ih =>
      rw [linesFrom_oneLine one, linesFrom_single _ single, if_pos ends, ih]
      simp

/-- Lines stand in the text that has a line feed behind each of them. -/
theorem lined_feeds {ls : List (List Char)} (one : ∀ line ∈ ls, OneLine line) :
    Lined ls (ls.flatMap fun line => line ++ ['\n']) := by
  induction ls with
  | nil => exact .done
  | cons line ls ih =>
      obtain ⟨first, one⟩ := List.forall_mem_cons.mp one
      rw [List.flatMap_cons, List.append_assoc]
      exact .single first (by decide) nofun (ih one)

/-! ## Words -/

/-- The words of a text: what stands between blanks. -/
def words (cs : List Char) : List (List Char) := (cs.splitOnP isBlank).filter fun w => !w.isEmpty

/-- A word is not empty, and there is no blank in it. -/
structure IsWord (w : List Char) : Prop where
  filled : w ≠ []
  solid : ∀ c ∈ w, isBlank c = false

instance (w : List Char) : Decidable (IsWord w) :=
  have : Decidable (∀ c ∈ w, isBlank c = false) := List.decidableBAll _ w
  decidable_of_iff (w ≠ [] ∧ ∀ c ∈ w, isBlank c = false)
    ⟨fun ⟨filled, solid⟩ => ⟨filled, solid⟩, fun ⟨filled, solid⟩ => ⟨filled, solid⟩⟩

theorem isBlank_of_isLineEnd {c : Char} (ends : isLineEnd c = true) : isBlank c = true := by
  rw [isLineEnd, covered_iff] at ends
  rw [isBlank, isBlankCode, covered_iff]
  simp only [Covers, lineEndCodes, blankCodes, List.exists_mem_cons_iff, List.not_mem_nil,
    false_and, exists_false, or_false] at ends ⊢
  omega

/-- A word is on one line. -/
theorem IsWord.oneLine {w : List Char} (word : IsWord w) : OneLine w := by
  intro c mem
  rw [Bool.eq_false_iff]
  intro ends
  exact Bool.false_ne_true ((word.solid c mem).symm.trans (isBlank_of_isLineEnd ends))

theorem words_append_blank {b : Char} (blank : isBlank b = true) (cs ds : List Char) :
    words (cs ++ b :: ds) = words cs ++ words ds := by
  rw [words, words, words, List.splitOnP_append_cons cs ds blank, List.filter_append]

theorem words_of_blank {gap : List Char} (blank : ∀ c ∈ gap, isBlank c = true) :
    words gap = [] := by
  induction gap with
  | nil => rfl
  | cons c gap ih =>
      obtain ⟨first, blank⟩ := List.forall_mem_cons.mp blank
      rw [← List.nil_append (c :: gap), words_append_blank first, ih blank]
      rfl

theorem words_blank_append {gap : List Char} (blank : ∀ c ∈ gap, isBlank c = true)
    (cs : List Char) : words (gap ++ cs) = words cs := by
  induction gap with
  | nil => rfl
  | cons c gap ih =>
      obtain ⟨first, blank⟩ := List.forall_mem_cons.mp blank
      rw [List.cons_append, ← List.nil_append (c :: (gap ++ cs)), words_append_blank first,
        ih blank]
      rfl

/-- What stands up to a blank, or up to the end, is a word. -/
theorem words_word {w rest : List Char} (word : IsWord w)
    (parted : ∀ c ∈ rest.head?, isBlank c = true) : words (w ++ rest) = w :: words rest := by
  have one : words w = [w] := by
    rw [words, List.splitOnP_eq_singleton word.solid]
    simp [word.filled]
  cases rest with
  | nil =>
      rw [List.append_nil, one]
      rfl
  | cons b rest =>
      have blank : isBlank b = true := parted b rfl
      rw [words_append_blank blank, one, ← List.nil_append (b :: rest), words_append_blank blank]
      rfl

/-- Trimming changes no words. -/
theorem words_trim (cs : List Char) : words (trim cs) = words cs := by
  obtain ⟨before, after, (whole : cs = before ++ (trim cs ++ after)), blank, blank'⟩ :=
    exists_around isBlank cs
  have behind : words (trim cs ++ after) = words (trim cs) := by
    cases after with
    | nil => rw [List.append_nil]
    | cons b after =>
        obtain ⟨first, blank'⟩ := List.forall_mem_cons.mp blank'
        rw [words_append_blank first, words_of_blank blank', List.append_nil]
  calc
    words (trim cs) = words (before ++ (trim cs ++ after)) := by
      rw [words_blank_append blank, behind]
    _ = words cs := by rw [← whole]

/-! ## Columns -/

/-- A text that is not blank has a first word. -/
theorem exists_word {cs : List Char} (filled : ¬ ∀ c ∈ cs, isBlank c = true) :
    ∃ gap w rest, cs = gap ++ (w ++ rest) ∧ (∀ c ∈ gap, isBlank c = true) ∧ IsWord w ∧
      ∀ c ∈ rest.head?, isBlank c = true := by
  obtain ⟨c, more, started⟩ : ∃ c more, cs.dropWhile isBlank = c :: more :=
    List.exists_cons_of_ne_nil fun none => filled (List.dropWhile_eq_nil_iff.mp none)
  have solid : isBlank c = false := by
    have first := List.head?_dropWhile_not isBlank cs
    rw [started] at first
    exact first
  refine ⟨cs.takeWhile isBlank, (cs.dropWhile isBlank).takeWhile fun d => !isBlank d,
    (cs.dropWhile isBlank).dropWhile fun d => !isBlank d, ?_, fun d => List.mem_takeWhile_imp, ?_,
    ?_⟩
  · rw [List.takeWhile_append_dropWhile, List.takeWhile_append_dropWhile]
  · refine ⟨?_, fun d mem => by simpa using List.mem_takeWhile_imp mem⟩
    rw [started, List.takeWhile_cons_of_pos (by simp [solid])]
    exact List.cons_ne_nil _ _
  · intro d first
    have parted := List.head?_dropWhile_not (fun d => !isBlank d) (cs.dropWhile isBlank)
    rw [Option.mem_def.mp first] at parted
    simpa using parted

/-- A word is a column. -/
theorem columns_word {gap w rest : List Char} (blank : ∀ c ∈ gap, isBlank c = true)
    (word : IsWord w) (parted : ∀ c ∈ rest.head?, isBlank c = true) (limit : Nat) :
    columns (limit + 1) (gap ++ (w ++ rest)) = w :: columns limit rest := by
  have solid : ∀ c ∈ w, (!isBlank c) = true := fun c mem => by simp [word.solid c mem]
  have started : trimStart (gap ++ (w ++ rest)) = w ++ rest := by
    obtain ⟨c, more, rfl⟩ := List.exists_cons_of_ne_nil word.filled
    rw [trimStart, trimStartBy, List.dropWhile_append_of_pos blank, List.cons_append,
      List.dropWhile_cons_of_neg (by simp [word.solid c List.mem_cons_self])]
  have stops : rest.takeWhile (fun c => !isBlank c) = [] ∧
      rest.dropWhile (fun c => !isBlank c) = rest := by
    cases rest with
    | nil => exact ⟨rfl, rfl⟩
    | cons b rest => simp [parted b rfl]
  have filled : (w ++ rest).isEmpty = false := by simp [word.filled]
  rw [columns, started, filled, List.takeWhile_append_of_pos solid,
    List.dropWhile_append_of_pos solid, stops.1, stops.2, List.append_nil]
  rfl

/-- The columns of a text begin with its words, as many as there may be. -/
theorem take_columns (limit : Nat) (cs : List Char) :
    (columns limit cs).take limit = (words cs).take limit := by
  induction limit generalizing cs with
  | zero => rfl
  | succ limit ih =>
      by_cases blank : ∀ c ∈ cs, isBlank c = true
      · rw [words_of_blank blank, columns, trimStart, trimStartBy,
          dropWhile_of_all (List.all_eq_true.mpr blank)]
        rfl
      · obtain ⟨gap, w, rest, rfl, blank, word, parted⟩ := exists_word blank
        rw [columns_word blank word parted, words_blank_append blank, words_word word parted,
          List.take_succ_cons, List.take_succ_cons, ih]

/-! ## Cells -/

theorem cellsFrom_eq (separator : Char) (held cs : List Char) :
    cellsFrom separator held cs = (cs.splitOn separator).modifyHead (held.reverse ++ ·) := by
  rw [List.splitOn_eq_splitOnP]
  induction cs generalizing held with
  | nil => simp [cellsFrom]
  | cons c cs ih =>
      rw [cellsFrom, List.splitOnP_cons_eq_if_modifyHead, ih, ih]
      by_cases ends : c = separator
      · simp only [ends, BEq.rfl, if_true, List.reverse_nil, List.nil_append, List.modifyHead_cons,
          List.append_nil]
        exact congrArg _ (congrFun List.modifyHead_id _)
      · simp [ends, Function.comp_def]

/-- The cells of a text are what the library cuts it into. -/
theorem cells_eq_splitOn (separator : Char) (cs : List Char) :
    cells separator cs = cs.splitOn separator := by
  rw [cells, cellsFrom_eq]
  exact congrFun List.modifyHead_id _

end HostMonitor.Text
