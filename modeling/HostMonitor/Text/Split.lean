import HostMonitor.Text.Blank

/-!
# Cutting a text into parts

Three ways to cut.  `lines` cuts at line ends, and a carriage return followed
by a line feed is one end.  `columns` cuts at runs of blanks, and stops cutting
after a given number of columns.  `cells` cuts at every occurrence of one
separator, so neighbouring separators have an empty cell between them.

`cut` gives what stands before and after the first separator, and `occursIn`
looks for one text inside another.
-/

namespace HostMonitor.Text

/-! ## Lines -/

/-- The codes of the characters that end a line. -/
def lineEndCodes : List CodeRange :=
  [(0x0A, 0x0D), (0x1C, 0x1E), (0x85, 0x85), (0x2028, 0x2029)]

def isLineEnd (c : Char) : Bool := covered lineEndCodes c.toNat

/-- The lines of a text, where `held` is the current line so far, backwards. -/
def linesFrom (held : List Char) : List Char → List (List Char)
  | [] => if held.isEmpty then [] else [held.reverse]
  | '\r' :: '\n' :: rest => held.reverse :: linesFrom [] rest
  | c :: rest =>
    if isLineEnd c then held.reverse :: linesFrom [] rest else linesFrom (c :: held) rest

/-- The lines of a text without their ends.  Nothing after the last end is no
line. -/
def lines (cs : List Char) : List (List Char) := linesFrom [] cs

/-! ## Columns -/

/-- The columns of a text.  After `limit` columns the rest is one column more,
taken as it stands once the blanks before it are gone. -/
def columns : (limit : Nat) → List Char → List (List Char)
  | 0, cs =>
    let rest := trimStart cs
    if rest.isEmpty then [] else [rest]
  | limit + 1, cs =>
    let rest := trimStart cs
    if rest.isEmpty then []
    else rest.takeWhile (fun c => !isBlank c) ::
      columns limit (rest.dropWhile fun c => !isBlank c)

/-! ## Cells -/

/-- The cells of a text, where `held` is the current cell so far, backwards. -/
def cellsFrom (separator : Char) (held : List Char) : List Char → List (List Char)
  | [] => [held.reverse]
  | c :: rest =>
    if c = separator then held.reverse :: cellsFrom separator [] rest
    else cellsFrom separator (c :: held) rest

/-- The cells of a text, one more than it has separators. -/
def cells (separator : Char) (cs : List Char) : List (List Char) :=
  cellsFrom separator [] cs

/-- What stands before the first separator, and what stands after it if there
is one. -/
def cut (separator : Char) : List Char → List Char × Option (List Char)
  | [] => ([], none)
  | c :: rest =>
    if c = separator then ([], some rest)
    else
      let (before, after) := cut separator rest
      (c :: before, after)

/-- A text without a separator is not cut. -/
theorem cut_of_not_mem {separator : Char} :
    ∀ {cs : List Char}, separator ∉ cs → cut separator cs = (cs, none)
  | [], _ => rfl
  | c :: rest, h => by
      have other : ¬ c = separator := fun e => h (e ▸ List.mem_cons_self)
      have none : separator ∉ rest := fun mem => h (List.mem_cons_of_mem _ mem)
      rw [cut, if_neg other, cut_of_not_mem none]

/-- A text is cut at its first separator. -/
theorem cut_append {separator : Char} (after : List Char) :
    ∀ {before : List Char}, separator ∉ before →
      cut separator (before ++ separator :: after) = (before, some after)
  | [], _ => by rw [List.nil_append, cut, if_pos rfl]
  | c :: before, h => by
      have other : ¬ c = separator := fun e => h (e ▸ List.mem_cons_self)
      have none : separator ∉ before := fun mem => h (List.mem_cons_of_mem _ mem)
      rw [List.cons_append, cut, if_neg other, cut_append after none]

/-! ## Search -/

/-- The needle stands somewhere in the text. -/
def occursIn {α : Type} [BEq α] (needle : List α) : List α → Bool
  | [] => needle.isEmpty
  | c :: rest => needle.isPrefixOf (c :: rest) || occursIn needle rest

theorem occursIn_iff {α : Type} [BEq α] [LawfulBEq α] {needle text : List α} :
    occursIn needle text = true ↔ needle <:+: text := by
  induction text with
  | nil => rw [occursIn, List.isEmpty_iff, List.infix_nil]
  | cons c rest ih =>
      rw [occursIn, Bool.or_eq_true, List.isPrefixOf_iff_prefix, ih, List.infix_cons_iff]

/-- `occursIn` on strings. -/
def holds (text needle : String) : Bool := occursIn needle.toList text.toList

end HostMonitor.Text
