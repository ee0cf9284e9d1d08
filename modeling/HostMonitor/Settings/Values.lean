import HostMonitor.Json.Printer
import HostMonitor.Net.Network
import HostMonitor.Number.Reader

/-!
# Values of settings

A setting is given as a text, or as a value of a document.  Each function reads
one kind of value, or says in a sentence why it cannot.

Numbers are read leniently from texts.  An integer may have a sign, zeros in
front, single underscores between digits, and a point with nothing but zeros
after it.  A number with a fraction may have underscores.  Values of documents
stand for numbers when no information is lost.
-/

namespace HostMonitor.Setting

open Net Number Text

/-- A value, or a sentence about why there is none. -/
abbrev Reading (α : Type) := Except String α

/-! ## Integers -/

/-- The sentence about a text that is no integer. -/
def notInteger : String := "Input should be a valid integer, unable to parse string as an integer"

/-- The sentence about an integer that is too large to be read. -/
def tooLarge : String := "Unable to parse input string as an integer, exceeded maximum size"

def isFiller (c : Char) : Bool := c == '0' || c == '_'

/-- The text without its leading zeros.  The last one is kept when no digit
follows it. -/
def withoutZeros? : List Char → Option (List Char)
  | '0' :: more =>
    match more.dropWhile isFiller with
    | [] => some [(('0' :: more).getLast?).getD '0']
    | c :: rest =>
      if c == '.' then
        some (((('0' :: more.takeWhile isFiller).getLast?).getD '0') :: c :: rest)
      else if c.isDigit then some (c :: rest)
      else none
  | c :: rest => if c.isDigit || c == '-' then some (c :: rest) else none
  | [] => none

/-- The text without a point that has nothing but zeros after it. -/
def withoutFraction (cs : List Char) : List Char :=
  match cut '.' cs with
  | (whole, some fraction) => if fraction.all (· == '0') then whole else cs
  | (_, none) => cs

def hasDoubleUnderscore : List Char → Bool
  | '_' :: '_' :: _ => true
  | _ :: rest => hasDoubleUnderscore rest
  | [] => false

/-- The text without its underscores, when all of them stand alone and inside. -/
def withoutUnderscores? (cs : List Char) : Option (List Char) :=
  if cs.head? = some '_' || cs.getLast? = some '_' || hasDoubleUnderscore cs then none
  else some (cs.filter (· != '_'))

/-- The text that is left of an integer to be read digit by digit. -/
def integerDigits? (cs : List Char) : Option (List Char) := do
  let cs := trimBy isNumberBlank cs
  let unsigned ←
    match cs with
    | '+' :: rest => if rest.head? = some '-' then none else some rest
    | _ => some cs
  let significant ← withoutZeros? unsigned
  withoutUnderscores? (withoutFraction significant)

def integerOfText (s : String) : Reading Int :=
  match integerDigits? s.toList with
  | none => .error notInteger
  | some cs =>
    let (negative, digits) :=
      match cs with
      | '-' :: rest => (true, rest)
      | _ => (false, cs)
    if digits.isEmpty || !digits.all Char.isDigit then .error notInteger
    else if digits.head? = some '0' && digits.length > 1 then .error notInteger
    else if digits.length > digitLimit then .error tooLarge
    else
      let n : Int := natOfDigits digits
      .ok (if negative then -n else n)

/-- The integer of a floating point number without a fraction. -/
def integerOfFloat (x : Binary64) : Reading Int :=
  match x.truncate? with
  | none => .error "Input should be a finite number"
  | some n =>
    if !x.isIntegral then
      .error "Input should be a valid integer, got a number with a fractional part"
    else if -(Nat.pow 2 63 : Int) < n ∧ n < Nat.pow 2 63 then .ok n
    else .error tooLarge

def integer : Json → Reading Int
  | .int n => .ok n
  | .bool b => .ok (if b then 1 else 0)
  | .float x => integerOfFloat x
  | .str (.chars s) => integerOfText s
  | .str (.broken ..) => .error notInteger
  | _ => .error "Input should be a valid integer"

/-- The integer of a value, which is at least `least`. -/
def integerFrom (least : Int) (value : Json) : Reading Int := do
  let n ← integer value
  if n < least then .error ("Input should be greater than or equal to " ++ toString least)
  else .ok n

/-- The integer of a value, which is at least `least` and at most `most`. -/
def integerBetween (least most : Int) (value : Json) : Reading Int := do
  let n ← integerFrom least value
  if n > most then .error ("Input should be less than or equal to " ++ toString most)
  else .ok n

/-! ## Numbers with a fraction -/

def numberOfText (s : String) : Reading Binary64 :=
  let plain := decimal? (trimBy isNumberBlank s.toList)
  let joined := (withoutUnderscores? s.toList).bind fun cs => decimal? (trimBy isNumberBlank cs)
  match plain.or joined with
  | some x => .ok x
  | none => .error "Input should be a valid number, unable to parse string as a number"

def number : Json → Reading Binary64
  | .int n => .ok (.ofInt n)
  | .bool b => .ok (.ofInt (if b then 1 else 0))
  | .float x => .ok x
  | .str t => numberOfText t.shown
  | _ => .error "Input should be a valid number"

/-- The number of a value, which is above zero. -/
def positive (value : Json) : Reading Binary64 := do
  let x ← number value
  if x.isPositive then .ok x else .error "Input should be greater than 0"

/-! ## Texts -/

/-- What a rule of the program says about a value. -/
def objection (sentence : String) : String := "Value error, " ++ sentence

/-- The value counts as nothing. -/
def isVoid : Json → Bool
  | .null => true
  | .bool b => !b
  | .int n => n == 0
  | .float (.finite _ mantissa _) => mantissa == 0
  | .float _ => false
  | .str t => t.isEmpty
  | .arr items => items.isEmpty
  | .obj fields => fields.isEmpty

def leastTokenLength : Nat := 16

/-- The token. -/
def tokenText (value : Json) : Reading String :=
  let s := strip (if isVoid value then "" else value.shown.shown)
  if s.length < leastTokenLength then
    .error (objection ("must be at least " ++ toString leastTokenLength ++ " characters"))
  else .ok s

def addressText (value : Json) : Reading String :=
  let s := strip value.shown.shown
  if (address? s.toList).isSome then .ok s
  else .error (objection (quoted s ++ " does not appear to be an IPv4 or IPv6 address"))

def logLevels : List String :=
  ["CRITICAL", "FATAL", "ERROR", "WARN", "WARNING", "INFO", "DEBUG", "NOTSET"]

/-- The level of the log, in capitals. -/
def levelName (value : Json) : Reading String :=
  let level := upper (strip value.shown.shown)
  if logLevels.contains level then .ok level
  else .error (objection ("unknown log level: " ++ value.shown.shown))

/-! ## Networks -/

def networkOfText (s : String) : Reading Network :=
  (Network.read s).mapError fun e => objection e.message

/-- The network of a value that is no text. -/
def networkOfValue (value : Json) : Reading Network :=
  let found :=
    match value with
    | .int n => Network.ofInt? n
    | .bool b => Network.ofInt? (if b then 1 else 0)
    | _ => none
  match found with
  | some net => .ok net
  | none => .error "Input is not a valid IPv4 network"

/-- A network; nothing for a blank text. -/
def network? : Json → Reading (Option Network)
  | .null => .ok none
  | .str (.chars s) => if blank s then .ok none else (networkOfText s).map some
  | value => (networkOfValue value).map some

/-- The networks of texts, without the blank ones. -/
def networksOfTexts (texts : List String) : Reading (List Network) :=
  (texts.filter fun s => !blank s).mapM networkOfText

/-- The network of an item of a list; nothing for a blank text. -/
def networkOfItem : Json → Reading (Option Network)
  | .str (.chars s) => if blank s then .ok none else (networkOfText s).map some
  | value => (networkOfValue value).map some

/-- The texts among the items of a list. -/
def textsOf (items : List Json) : List String :=
  items.filterMap fun
    | .str t => t.chars?
    | _ => none

/-- The networks of the items of a list.  Objections to texts come before those
to other values. -/
def networksOfItems (items : List Json) : Reading (List Network) := do
  let _ ← networksOfTexts (textsOf items)
  let found ← items.mapM networkOfItem
  return found.filterMap id

end HostMonitor.Setting
