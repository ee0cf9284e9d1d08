import HostMonitor.Number.Binary64
import HostMonitor.Text.Letters
import HostMonitor.Text.Blank

/-!
# Reading numbers from text

Texts from the host give numbers in a lenient form.  Blanks around the number,
a sign, decimal digits of any script and single underscores between digits are
fine.  An integer has at most `digitLimit` digits.

`int?` and `float?` read the whole text or nothing.  `decimal?` reads a number
of ASCII digits without any of the leniency; it is shared by every reader of
fractions.
-/

namespace HostMonitor.Number

open Text

/-- The most digits an integer may have in a text.  The interpreter converts no more, be
it from a text or to one. -/
def digitLimit : Nat := 4300

/-- The number that ASCII digits spell. -/
def natOfDigits (ds : List Char) : Nat :=
  ds.foldl (fun n d => n * 10 + (d.toNat - 0x30)) 0

/-- A blank around a number.  The four separator controls do not count. -/
def isNumberBlank (c : Char) : Bool :=
  isBlank c && !(decide (0x1C ≤ c.toNat) && decide (c.toNat ≤ 0x1F))

/-- Takes a sign off the front; true for minus. -/
def takeSign : List Char → Bool × List Char
  | '-' :: rest => (true, rest)
  | '+' :: rest => (false, rest)
  | cs => (false, cs)

/-- The digits of any script as ASCII digits; every other character as it is. -/
def asciiDigits (cs : List Char) : List Char :=
  cs.map fun c =>
    if c.toNat < 0x80 then c
    else
      match decimalValue? c with
      | some v => Char.ofNat (0x30 + v)
      | none => c

/-- The text without the underscores, if each stands between two digits.
`before` says that a digit stands before the text. -/
def joinDigits? (before : Bool) : List Char → Option (List Char)
  | [] => some []
  | '_' :: d :: rest =>
    if before && d.isDigit then (joinDigits? true rest).map (d :: ·) else none
  | '_' :: [] => none
  | c :: rest => (joinDigits? c.isDigit rest).map (c :: ·)

/-- The integer a text gives. -/
def int? (cs : List Char) : Option Int := do
  let (negative, body) := takeSign (trimBy isNumberBlank cs)
  let digits ← joinDigits? false (asciiDigits body)
  if digits.isEmpty || !digits.all Char.isDigit || digits.length > digitLimit then none
  else some (if negative then -(natOfDigits digits : Int) else natOfDigits digits)

/-- The exponent at the end of a decimal: nothing, or a letter, a sign and
digits. -/
def exponent? : List Char → Option Int
  | [] => some 0
  | c :: rest =>
    if c == 'e' || c == 'E' then
      let (negative, ds) := takeSign rest
      if ds.isEmpty || !ds.all Char.isDigit then none
      else some (if negative then -(natOfDigits ds : Int) else natOfDigits ds)
    else none

/-- The number a text gives, with ASCII digits and nothing around it: a decimal
with an optional point and exponent, an infinity or the word for no number. -/
def decimal? (cs : List Char) : Option Binary64 :=
  let (negative, body) := takeSign cs
  let word := String.ofList (body.map Char.toLower)
  if word == "inf" || word == "infinity" then some (.infinite negative)
  else if word == "nan" then some .nan
  else
    let whole := body.takeWhile Char.isDigit
    let rest := body.dropWhile Char.isDigit
    let (fraction, rest) :=
      match rest with
      | '.' :: more => (more.takeWhile Char.isDigit, more.dropWhile Char.isDigit)
      | _ => ([], rest)
    if whole.isEmpty && fraction.isEmpty then none
    else
      (exponent? rest).map fun e =>
        .ofDecimal negative (natOfDigits (whole ++ fraction)) (e - fraction.length)

/-- The floating point number a text gives. -/
def float? (cs : List Char) : Option Binary64 := do
  let digits ← joinDigits? false (asciiDigits (trimBy isNumberBlank cs))
  decimal? digits

end HostMonitor.Number
