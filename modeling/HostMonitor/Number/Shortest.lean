import HostMonitor.Number.Binary64

/-!
# The shortest decimal of a floating point number

A number is written with the fewest digits that read back as the same number,
and among those with the digits nearest to it.  The decimals that read back
form an interval around the number; its ends belong to it when the mantissa is
even.  For each count of digits only the two neighbours of the number on that
decimal grid can be the nearest, so these two are tested.

`Layout` says how the digits are set out: from which exponents on a power of
ten is written, how many digits that power has at least, and the words for what
is no finite number.
-/

namespace HostMonitor.Number

/-- A decimal: `digits * 10 ^ exponent`. -/
structure Decimal where
  digits : Nat
  exponent : Int
  deriving DecidableEq, Repr

namespace Shortest

/-- Factors that bring `d * 10 ^ e` and `x * 2 ^ u` to a common unit: the first
for `d`, the second for `x`. -/
def factors (e u : Int) : Nat × Nat :=
  (Nat.pow 10 e.toNat * Nat.pow 2 (-u).toNat, Nat.pow 2 u.toNat * Nat.pow 10 (-e).toNat)

/-- The number of digits before the point, or minus the number of zeros after
it. -/
def pointOf (mantissa : Nat) (exponent : Int) : Int :=
  let guess := ((mantissa.log2 + exponent) * 30103) / 100000
  let reaches (k : Int) : Bool :=
    let (a, b) := factors k exponent
    a ≤ mantissa * b
  if reaches (guess + 1) then guess + 2 else if reaches guess then guess + 1 else guess

/-- The decimal `d * 10 ^ e`.  The upper neighbour can be the next power of ten,
which has one digit only. -/
def ofGrid (count d : Nat) (e : Int) : Decimal :=
  if d = Nat.pow 10 count then ⟨1, e + count⟩ else ⟨d, e⟩

/-- The nearest decimal of `count` digits, if it reads back. -/
def withDigits? (mantissa : Nat) (exponent point : Int) (count : Nat) : Option Decimal :=
  let m := mantissa
  let atPower := m == Nat.pow 2 52 && exponent > Binary64.minExponent
  let low := if atPower then 4 * m - 1 else 4 * m - 2
  let high := 4 * m + 2
  let e := point - count
  let (a, b) := factors e (exponent - 2)
  let inside (d : Nat) : Bool :=
    if m % 2 == 0 then low * b ≤ d * a && d * a ≤ high * b
    else low * b < d * a && d * a < high * b
  let below := 4 * m * b / a
  let above := below + 1
  match inside below, inside above with
  | true, true =>
    let gapBelow := 4 * m * b - below * a
    let gapAbove := above * a - 4 * m * b
    if gapBelow < gapAbove || (gapBelow == gapAbove && below % 2 == 0) then
      some (ofGrid count below e)
    else some (ofGrid count above e)
  | true, false => some (ofGrid count below e)
  | false, true => some (ofGrid count above e)
  | false, false => none

/-- The first count of digits from `count` on, of at most `more + 1` counts,
that reads back. -/
def search (mantissa : Nat) (exponent point : Int) : (more count : Nat) → Decimal
  | 0, count => (withDigits? mantissa exponent point count).getD ⟨0, 0⟩
  | more + 1, count =>
    match withDigits? mantissa exponent point count with
    | some d => d
    | none => search mantissa exponent point more (count + 1)

end Shortest

/-- The shortest decimal of `mantissa * 2 ^ exponent`, for a positive mantissa. -/
def shortest (mantissa : Nat) (exponent : Int) : Decimal :=
  Shortest.search mantissa exponent (Shortest.pointOf mantissa exponent) 16 1

/-! ## Layout -/

/-- How a number is set out. -/
structure Layout where
  /-- The least power of the first digit that is written without a power of ten. -/
  least : Int
  /-- The least power from there on that is written with one. -/
  limit : Int
  /-- How many digits the power of ten has at least. -/
  powerWidth : Nat
  infinity : String
  notANumber : String

/-- The layout of messages. -/
def Layout.plain : Layout := ⟨-4, 16, 2, "inf", "nan"⟩

/-- The layout of documents, which spells the words out. -/
def Layout.document : Layout := ⟨-4, 16, 2, "Infinity", "NaN"⟩

/-- The digits of a power of ten with its sign. -/
def Layout.power (l : Layout) (p : Int) : List Char :=
  let ds := Nat.toDigits 10 p.natAbs
  (if p < 0 then '-' else '+') :: (List.replicate (l.powerWidth - ds.length) '0' ++ ds)

/-- A positive decimal set out. -/
def Layout.decimal (l : Layout) (d : Decimal) : List Char :=
  let ds := Nat.toDigits 10 d.digits
  let point : Int := ds.length + d.exponent
  let first := point - 1
  if l.least ≤ first && first < l.limit then
    if point ≤ 0 then '0' :: '.' :: (List.replicate (-point).toNat '0' ++ ds)
    else if point ≥ ds.length then
      ds ++ List.replicate (point - ds.length).toNat '0' ++ ['.', '0']
    else ds.take point.toNat ++ '.' :: ds.drop point.toNat
  else
    match ds with
    | [] => []
    | [digit] => digit :: 'e' :: l.power first
    | digit :: more => digit :: '.' :: more ++ 'e' :: l.power first

/-- A number set out. -/
def Layout.write (l : Layout) : Binary64 → List Char
  | .nan => l.notANumber.toList
  | .infinite negative => (if negative then ['-'] else []) ++ l.infinity.toList
  | .finite negative mantissa exponent =>
    (if negative then ['-'] else []) ++
      if mantissa = 0 then ['0', '.', '0'] else l.decimal (shortest mantissa exponent)

end HostMonitor.Number
