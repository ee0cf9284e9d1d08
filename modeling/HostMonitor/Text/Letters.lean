import HostMonitor.Text.CaseTable
import HostMonitor.Text.DigitTable
import HostMonitor.Text.NameTable
import HostMonitor.Text.PrintTable
import HostMonitor.Text.WordTable

/-!
# Classes and cases of characters

Decimal digits and their values, the characters of words and of names, the
characters that print, and the two letter cases.

Small letters come from the table of capitals.  Capitals are needed only to
recognise words of ASCII letters, so `capitals` spells out just the characters
whose capital form is ASCII, and keeps every other.
-/

namespace HostMonitor.Text

/-! ## Classes -/

/-- The value of a decimal digit of any script. -/
def decimalValue? (c : Char) : Option Nat :=
  (decimalRuns.find? fun r => decide (r.1 ≤ c.toNat) && decide (c.toNat ≤ r.2)).map
    fun r => (c.toNat - r.1) % 10

def isDecimal (c : Char) : Bool := c.isDigit || covered decimalRuns c.toNat

/-- The character is a digit, decimal or of another kind such as a superscript. -/
def isDigitLike (c : Char) : Bool := isDecimal c || covered otherDigits c.toNat

/-- The character is a letter, a number or the underscore. -/
def isWordChar (c : Char) : Bool :=
  if c.toNat < 0x80 then c.isAlphanum || c == '_' else covered letterOrNumber c.toNat

/-- The character may start a name. -/
def isNameStart (c : Char) : Bool := covered nameStart c.toNat

/-- The text is a name: a letter or underscore, then also digits and marks. -/
def isName : List Char → Bool
  | [] => false
  | c :: rest =>
    isNameStart c && rest.all fun d => isNameStart d || covered nameContinue d.toNat

/-- The character stands for itself inside quotes. -/
def isPrintable (c : Char) : Bool := !covered unprintable c.toNat

/-! ## Cases -/

def CaseRun.has (r : CaseRun) (code : Nat) : Bool :=
  decide (r.first ≤ code) && decide (code ≤ r.last) && (code - r.first) % r.step == 0

/-- The code of the small letter for a code, or the code itself. -/
def smallCode (code : Nat) : Nat :=
  match caseRuns.find? (·.has code) with
  | some r => (code + r.shift).toNat
  | none => code

/-- The codes whose small letter is the given code, itself among them when it
is no capital. -/
def codesOfSmall (small : Nat) : List Nat :=
  let capitals := caseRuns.filterMap fun r =>
    let code := ((small : Int) - r.shift).toNat
    if r.has code then some code else none
  if smallCode small = small then small :: capitals else capitals

/-- The small letter for a character, or the character itself. -/
def small (c : Char) : Char :=
  if c.toNat < 0x80 then c.toLower else Char.ofNat (smallCode c.toNat)

/-- The small form of a character in running text.  The dotted capital I keeps
its dot as a mark of its own. -/
def smalls (c : Char) : List Char :=
  if c.toNat = 0x130 then ['i', Char.ofNat 0x307] else [small c]

def lower (s : String) : String := String.ofList (s.toList.flatMap smalls)

/-- The capital form of a character when that form is ASCII, else the character
itself. -/
def capitals (c : Char) : List Char :=
  if c.toNat < 0x80 then [c.toUpper]
  else
    match c.toNat with
    | 0x131 => ['I']
    | 0x17F => ['S']
    | 0xDF => ['S', 'S']
    | 0xFB00 => ['F', 'F']
    | 0xFB01 => ['F', 'I']
    | 0xFB02 => ['F', 'L']
    | 0xFB03 => ['F', 'F', 'I']
    | 0xFB04 => ['F', 'F', 'L']
    | 0xFB05 => ['S', 'T']
    | 0xFB06 => ['S', 'T']
    | _ => [c]

/-- The text in capitals, as far as these are ASCII. -/
def upper (s : String) : String := String.ofList (s.toList.flatMap capitals)

end HostMonitor.Text
