import HostMonitor.Json.Basic
import HostMonitor.Number.Reader

/-!
# Reading documents

The grammar is that of JSON, with two additions that a reader can turn on: the
words `NaN`, `Infinity` and `-Infinity` for numbers.  Three things are refused
that the grammar allows: an integer with more digits than the limit, nesting
deeper than the limit, and a document after which something follows.  A number
with a point or an exponent is a floating point number, any other an integer.

Every reader takes characters and gives a value with the characters after it.
The readers of values call each other on less fuel; `fuelFor` is enough for any
text, since two calls in a row take at least one character.
-/

namespace HostMonitor.Json

open Number Text

structure Limits where
  /-- The most digits of an integer. -/
  digits : Nat
  /-- The deepest nesting of lists and objects. -/
  depth : Nat
  /-- Whether the words for numbers are accepted. -/
  words : Bool

inductive ReadError where
  /-- The text is not of the grammar, or it has too long an integer. -/
  | malformed
  | tooDeep
  deriving DecidableEq, Repr

/-- A value with the text after it. -/
abbrev Read (α : Type) := Except ReadError (α × List Char)

/-! ## Leaves -/

/-- The text after the blanks of the grammar. -/
def skipBlanks (cs : List Char) : List Char :=
  cs.dropWhile fun c => c == ' ' || c == '\t' || c == '\n' || c == '\r'

/-- The text after a word it starts with. -/
def afterWord? (word : List Char) (cs : List Char) : Option (List Char) :=
  if word.isPrefixOf cs then some (cs.drop word.length) else none

/-- The value of four hexadecimal digits. -/
def hexUnit? (a b c d : Char) : Option Nat := do
  let a ← hexValue? a
  let b ← hexValue? b
  let c ← hexValue? c
  let d ← hexValue? d
  some (((a * 16 + b) * 16 + c) * 16 + d)

/-- The code point of an escape of one letter. -/
def letterEscape? (c : Char) : Option Nat :=
  if c == doubleQuote || c == '\\' || c == '/' then some c.toNat
  else if c == 'b' then some 0x08
  else if c == 'f' then some 0x0C
  else if c == 'n' then some 0x0A
  else if c == 'r' then some 0x0D
  else if c == 't' then some 0x09
  else none
where
  doubleQuote : Char := Char.ofNat 0x22

/-- The unit is the first of a pair. -/
def isHigh (unit : Nat) : Bool := decide (0xD800 ≤ unit) && decide (unit ≤ 0xDBFF)

/-- The unit is the second of a pair. -/
def isLow (unit : Nat) : Bool := decide (0xDC00 ≤ unit) && decide (unit ≤ 0xDFFF)

/-- Joins the units of pairs that stand side by side in escapes.  `read` holds
the code points so far, backwards, each with a mark that it was escaped. -/
def pushUnit (read : List (Nat × Bool)) (unit : Nat) : List (Nat × Bool) :=
  match read with
  | (high, true) :: before =>
    if isHigh high && isLow unit then
      (0x10000 + (high - 0xD800) * 0x400 + (unit - 0xDC00), false) :: before
    else (unit, true) :: read
  | _ => (unit, true) :: read

/-- The code points of a text up to its closing quote. -/
def textPoints (read : List (Nat × Bool)) : List Char → Read (List Nat)
  | [] => .error .malformed
  | '\\' :: 'u' :: a :: b :: c :: d :: rest =>
    match hexUnit? a b c d with
    | some unit => textPoints (pushUnit read unit) rest
    | none => .error .malformed
  | '\\' :: e :: rest =>
    match letterEscape? e with
    | some point => textPoints ((point, false) :: read) rest
    | none => .error .malformed
  | c :: rest =>
    if c.toNat = 0x22 then .ok (read.reverse.map Prod.fst, rest)
    else if c.toNat < 0x20 || c == '\\' then .error .malformed
    else textPoints ((c.toNat, false) :: read) rest

/-- A text whose opening quote has been read. -/
def text (cs : List Char) : Read WireText :=
  (textPoints [] cs).map fun (points, rest) => (WireText.ofPoints points, rest)

/-- The whole part of a number: a zero, or digits that start with none. -/
def wholePart? : List Char → Option (List Char × List Char)
  | '0' :: rest => some (['0'], rest)
  | cs =>
    let ds := cs.takeWhile Char.isDigit
    if ds.isEmpty then none else some (ds, cs.dropWhile Char.isDigit)

/-- The digits after the point, if a point and a digit follow. -/
def fractionPart (cs : List Char) : List Char × List Char :=
  match cs with
  | '.' :: rest =>
    let ds := rest.takeWhile Char.isDigit
    if ds.isEmpty then ([], cs) else (ds, rest.dropWhile Char.isDigit)
  | _ => ([], cs)

/-- The exponent, if a letter and digits follow. -/
def exponentPart (cs : List Char) : Option Int × List Char :=
  match cs with
  | c :: rest =>
    if c == 'e' || c == 'E' then
      let (negative, body) := takeSign rest
      let ds := body.takeWhile Char.isDigit
      if ds.isEmpty then (none, cs)
      else
        let n : Int := natOfDigits ds
        (some (if negative then -n else n), body.dropWhile Char.isDigit)
    else (none, cs)
  | [] => (none, cs)

/-- A number whose sign has been read. -/
def unsignedNumber (limits : Limits) (negative : Bool) (cs : List Char) : Read Json :=
  match wholePart? cs with
  | none => .error .malformed
  | some (whole, rest) =>
    let (fraction, rest) := fractionPart rest
    let (exponent, rest) := exponentPart rest
    if fraction.isEmpty && exponent.isNone then
      if whole.length > limits.digits then .error .malformed
      else
        let n : Int := natOfDigits whole
        .ok (.int (if negative then -n else n), rest)
    else
      .ok (.float (.ofDecimal negative (natOfDigits (whole ++ fraction))
        (exponent.getD 0 - fraction.length)), rest)

/-- A number. -/
def number (limits : Limits) (cs : List Char) : Read Json :=
  match cs with
  | '-' :: rest => unsignedNumber limits true rest
  | _ => unsignedNumber limits false cs

/-- The words a value can be. -/
def plainWords : List (List Char × Json) :=
  [("null".toList, .null), ("true".toList, .bool true), ("false".toList, .bool false)]

/-- The words a number can be. -/
def numberWords : List (List Char × Json) :=
  [("NaN".toList, .float .nan), ("Infinity".toList, .float (.infinite false)),
   ("-Infinity".toList, .float (.infinite true))]

/-- The first word of a list that the text starts with. -/
def word? (words : List (List Char × Json)) (cs : List Char) : Option (Json × List Char) :=
  words.findSome? fun (w, v) => (afterWord? w cs).map fun rest => (v, rest)

/-- A value without parts: a word or a number. -/
def leaf (limits : Limits) (cs : List Char) : Read Json :=
  match word? plainWords cs with
  | some found => .ok found
  | none =>
    match word? numberWords cs with
    | some found => if limits.words then .ok found else .error .malformed
    | none => number limits cs

/-! ## Values -/

mutual

/-- A value at the given distance from the deepest nesting. -/
def value (limits : Limits) : (fuel depth : Nat) → List Char → Read Json
  | 0, _, _ => .error .malformed
  | fuel + 1, depth, cs =>
    match cs with
    | [] => .error .malformed
    | c :: rest =>
      if c.toNat = 0x22 then (text rest).map fun (t, rest) => (.str t, rest)
      else if c == '[' then
        match depth with
        | 0 => .error .tooDeep
        | depth + 1 =>
          match skipBlanks rest with
          | ']' :: rest => .ok (.arr [], rest)
          | rest => items limits fuel depth [] rest
      else if c.toNat = 0x7B then
        match depth with
        | 0 => .error .tooDeep
        | depth + 1 =>
          match skipBlanks rest with
          | [] => .error .malformed
          | d :: more =>
            if d.toNat = 0x7D then .ok (.obj [], more)
            else members limits fuel depth [] (d :: more)
      else leaf limits cs

/-- The items of a list from one item on, where `read` holds those before it,
backwards. -/
def items (limits : Limits) :
    (fuel depth : Nat) → (read : List Json) → List Char → Read Json
  | 0, _, _, _ => .error .malformed
  | fuel + 1, depth, read, cs =>
    match value limits fuel depth cs with
    | .error e => .error e
    | .ok (item, rest) =>
      match skipBlanks rest with
      | ']' :: rest => .ok (.arr (item :: read).reverse, rest)
      | ',' :: rest => items limits fuel depth (item :: read) (skipBlanks rest)
      | _ => .error .malformed

/-- The fields of an object from one key on, where `read` holds those before
it. -/
def members (limits : Limits) :
    (fuel depth : Nat) → (read : Fields) → List Char → Read Json
  | 0, _, _, _ => .error .malformed
  | fuel + 1, depth, read, cs =>
    match cs with
    | [] => .error .malformed
    | c :: rest =>
      if c.toNat ≠ 0x22 then .error .malformed
      else
        match text rest with
        | .error e => .error e
        | .ok (key, rest) =>
          match skipBlanks rest with
          | ':' :: rest =>
            match value limits fuel depth (skipBlanks rest) with
            | .error e => .error e
            | .ok (item, rest) =>
              match skipBlanks rest with
              | [] => .error .malformed
              | d :: rest =>
                if d.toNat = 0x7D then .ok (.obj (read.put key item), rest)
                else if d == ',' then
                  members limits fuel depth (read.put key item) (skipBlanks rest)
                else .error .malformed
          | _ => .error .malformed

end

def fuelFor (cs : List Char) : Nat := 2 * cs.length + 2

/-- The document a text gives, with blanks around it. -/
def read (limits : Limits) (cs : List Char) : Except ReadError Json :=
  match value limits (fuelFor cs) limits.depth (skipBlanks cs) with
  | .error e => .error e
  | .ok (doc, rest) => if (skipBlanks rest).isEmpty then .ok doc else .error .malformed

end HostMonitor.Json
