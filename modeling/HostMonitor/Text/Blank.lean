import HostMonitor.Text.Code

/-!
# Blanks and trimming

A blank is a character that Unicode counts as white space, or one of the four
separator controls `U+001C` to `U+001F`.  The zero width space is not one.
Trimming takes blanks off both ends of a text and leaves the middle alone.

The functions work on lists, of characters or of their codes.  `strip` and `blank`
are the same for strings.
-/

namespace HostMonitor.Text

def blankCodes : List CodeRange :=
  [(0x09, 0x0D), (0x1C, 0x20), (0x85, 0x85), (0xA0, 0xA0), (0x1680, 0x1680),
   (0x2000, 0x200A), (0x2028, 0x2029), (0x202F, 0x202F), (0x205F, 0x205F),
   (0x3000, 0x3000)]

/-- The code is that of a blank. -/
def isBlankCode (code : Nat) : Bool := covered blankCodes code

def isBlank (c : Char) : Bool := isBlankCode c.toNat

/-! ## Trimming -/

section

variable {α : Type}

/-- The text from its first character that is not in the class on. -/
def trimStartBy (drop : α → Bool) (cs : List α) : List α := cs.dropWhile drop

/-- The text up to its last character that is not in the class. -/
def trimEndBy (drop : α → Bool) (cs : List α) : List α :=
  (cs.reverse.dropWhile drop).reverse

/-- The text without the characters of a class at its two ends. -/
def trimBy (drop : α → Bool) (cs : List α) : List α :=
  trimEndBy drop (trimStartBy drop cs)

end

/-- The text without the blanks at its start. -/
def trimStart (cs : List Char) : List Char := trimStartBy isBlank cs

/-- The text without the blanks at its two ends. -/
def trim (cs : List Char) : List Char := trimBy isBlank cs

/-- `trim` on strings. -/
def strip (s : String) : String := String.ofList (trim s.toList)

def blank (s : String) : Bool := s.toList.all isBlank

theorem dropWhile_of_all {α : Type} {p : α → Bool} :
    ∀ {l : List α}, l.all p = true → l.dropWhile p = []
  | [], _ => rfl
  | a :: l, h => by
      rw [List.all_cons, Bool.and_eq_true] at h
      rw [List.dropWhile_cons_of_pos h.1, dropWhile_of_all h.2]

/-- Nothing is left of blanks. -/
theorem trim_of_all_blank {cs : List Char} (h : cs.all isBlank = true) : trim cs = [] := by
  rw [trim, trimBy, trimStartBy, dropWhile_of_all h]
  rfl

theorem toList_strip (s : String) : (strip s).toList = trim s.toList := by
  simp [strip]

end HostMonitor.Text
