/-!
# Codes of characters

A character class is given by the ranges of codes it covers.  `Covers` says when a
code lies in one of them, and `covered` decides it.

A code is written in hexadecimal digits.  Small letters are written, both cases are
read.
-/

namespace HostMonitor.Text

/-! ## Ranges -/

/-- The first and the last code of a range, both in it. -/
abbrev CodeRange := Nat × Nat

/-- The code lies in one of the ranges. -/
def Covers (ranges : List CodeRange) (code : Nat) : Prop :=
  ∃ r ∈ ranges, r.1 ≤ code ∧ code ≤ r.2

/-- Decides `Covers`. -/
def covered (ranges : List CodeRange) (code : Nat) : Bool :=
  ranges.any fun r => decide (r.1 ≤ code) && decide (code ≤ r.2)

theorem covered_iff (ranges : List CodeRange) (code : Nat) :
    covered ranges code = true ↔ Covers ranges code := by
  simp [covered, Covers]

/-! ## Hexadecimal digits -/

def hexDigit (n : Nat) : Char :=
  if n < 10 then Char.ofNat (0x30 + n) else Char.ofNat (0x57 + n)

/-- The lowest `width` hexadecimal digits of a number. -/
def hexDigits : (width : Nat) → Nat → List Char
  | 0, _ => []
  | width + 1, n => hexDigits width (n / 16) ++ [hexDigit (n % 16)]

/-- The value of a hexadecimal digit. -/
def hexValue? (c : Char) : Option Nat :=
  if '0' ≤ c ∧ c ≤ '9' then some (c.toNat - 0x30)
  else if 'a' ≤ c ∧ c ≤ 'f' then some (c.toNat - 0x57)
  else if 'A' ≤ c ∧ c ≤ 'F' then some (c.toNat - 0x37)
  else none

end HostMonitor.Text
