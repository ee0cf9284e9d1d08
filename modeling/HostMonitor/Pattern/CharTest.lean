import HostMonitor.Text.Blank
import HostMonitor.Text.Letters

/-!
# Tests of one character

A pattern tests a character against a list of items: codes, ranges of codes and
the three classes of digits, blanks and word characters.  The classes are those
of all scripts, or those of ASCII.

What is tested is the code of the character, as a text may hold surrogates without a
partner.  A test may ignore the case.  Then two codes count as the same letter when their
small letters are equal or have one capital in common, such as the two small
sigmas.
-/

namespace HostMonitor.Pattern

open Text

inductive Fold where
  /-- Capitals and small letters differ. -/
  | exact
  /-- The capitals of ASCII equal their small letters. -/
  | ascii
  /-- Every capital equals its small letter. -/
  | all
  deriving DecidableEq, Repr

inductive CharClass where
  | digit
  | blank
  | word
  deriving DecidableEq, Repr

/-- A part of a test. -/
inductive CharItem where
  | code (n : Nat)
  | range (first last : Nat)
  /-- A class or what is outside it, in ASCII or in all scripts. -/
  | cls (c : CharClass) (negated ascii : Bool)
  deriving DecidableEq, Repr

/-- A test of one character. -/
structure CharTest where
  /-- Whether the items are what the test refuses. -/
  negated : Bool
  items : List CharItem
  fold : Fold
  deriving DecidableEq, Repr

/-! ## Letters -/

/-- Small letters that have a capital in common, lowest code first. -/
def sharedCapitals : List (List Nat) :=
  [[0x69, 0x131], [0x73, 0x17F], [0xB5, 0x3BC], [0x345, 0x3B9, 0x1FBE], [0x390, 0x1FD3],
   [0x3B0, 0x1FE3], [0x3B2, 0x3D0], [0x3B5, 0x3F5], [0x3B8, 0x3D1], [0x3BA, 0x3F0],
   [0x3C0, 0x3D6], [0x3C1, 0x3F1], [0x3C2, 0x3C3], [0x3C6, 0x3D5], [0x432, 0x1C80],
   [0x434, 0x1C81], [0x43E, 0x1C82], [0x441, 0x1C83], [0x442, 0x1C84, 0x1C85],
   [0x44A, 0x1C86], [0x463, 0x1C87], [0x1C88, 0xA64B], [0x1E61, 0x1E9B], [0xFB05, 0xFB06]]

/-- The code of the small letter in ASCII. -/
def asciiSmall (n : Nat) : Nat := if 0x41 ≤ n ∧ n ≤ 0x5A then n + 0x20 else n

/-- The code of the small letter as far as the case is ignored. -/
def Fold.small : Fold → Nat → Nat
  | .exact, n => n
  | .ascii, n => asciiSmall n
  | .all, n => if n < 0x80 then asciiSmall n else smallCode n

/-- The small letters that count as the same letter as a small letter. -/
def Fold.alike : Fold → Nat → List Nat
  | .all, n => (sharedCapitals.find? (·.contains n)).getD [n]
  | _, n => [n]

/-- The codes whose small letter is the given one. -/
def Fold.sources : Fold → Nat → List Nat
  | .exact, n => [n]
  | .ascii, n =>
    if 0x61 ≤ n ∧ n ≤ 0x7A then [n, n - 0x20]
    else if 0x41 ≤ n ∧ n ≤ 0x5A then []
    else [n]
  | .all, n => codesOfSmall n

/-! ## Tests -/

def CharClass.hasChar : CharClass → (ascii : Bool) → Char → Bool
  | .digit, true, c => c.isDigit
  | .digit, false, c => isDecimal c
  | .blank, true, c => c == ' ' || (decide (0x09 ≤ c.toNat) && decide (c.toNat ≤ 0x0D))
  | .blank, false, c => isBlank c
  | .word, true, c => c.isAlphanum || c == '_'
  | .word, false, c => isWordChar c

/-- The code is that of a character of the class.  A surrogate is in none. -/
def CharClass.has (c : CharClass) (ascii : Bool) (code : Nat) : Bool :=
  decide code.isValidChar && c.hasChar ascii (Char.ofNat code)

/-- The character, given by its small letter, matches the item. -/
def CharItem.has (fold : Fold) (small : Nat) : CharItem → Bool
  | .code n => (fold.alike (fold.small n)).contains small
  | .range first last =>
    (fold.alike small).any fun l =>
      (fold.sources l).any fun n => decide (first ≤ n) && decide (n ≤ last)
  | .cls c negated ascii => c.has ascii small != negated

def CharTest.has (t : CharTest) (code : Nat) : Bool :=
  t.items.any (·.has t.fold (t.fold.small code)) != t.negated

/-- Every character passes. -/
def CharTest.anything : CharTest := ⟨true, [], .exact⟩

/-- Every character but the line feed passes. -/
def CharTest.inLine : CharTest := ⟨true, [.code 0x0A], .exact⟩

end HostMonitor.Pattern
