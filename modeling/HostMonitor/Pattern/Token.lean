import HostMonitor.Number.Reader
import HostMonitor.Pattern.Node
import HostMonitor.Text.Code

/-!
# The written form of patterns: tokens and escapes

A backslash and the character after it are one token, so that an escaped bracket
is never taken for a bracket.  A backslash at the very end has nothing to escape.

An escape stands for a code, for a class of characters, for a place or for the
text of a group.  Inside brackets only codes and classes are allowed, and `\b`
is a control there and not a place.  Up to three octal digits are a code.  A
digit that starts no code names a group.  A code can also be given by the name of
its character, and what is named so is looked up in a table.
-/

namespace HostMonitor.Pattern

open Number Text

inductive PatternError where
  | malformed
  /-- A count is out of range, the nesting is too deep, or two alphabets are
  asked for at once. -/
  | beyondReach
  deriving DecidableEq, Repr

/-- The codes of characters by their names. -/
abbrev CharNames := List Char → Option Nat

/-- A piece of a written pattern. -/
inductive Token where
  | plain (c : Char)
  | escaped (c : Char)
  /-- A surrogate, be it escaped or not. -/
  | lone (point : Nat)
  | dangling
  deriving DecidableEq, Repr

/-- The piece that a code point is, with or without a backslash before it. -/
def Token.ofPoint (escape : Bool) (point : Nat) : Token :=
  if point.isValidChar then
    if escape then .escaped (Char.ofNat point) else .plain (Char.ofNat point)
  else .lone point

/-- The pieces of the code points of a pattern. -/
def tokens : List Nat → List Token
  | [] => []
  | [0x5C] => [.dangling]
  | 0x5C :: point :: rest => .ofPoint true point :: tokens rest
  | point :: rest => .ofPoint false point :: tokens rest

/-- What was read, with the tokens after it. -/
abbrev Scan (α : Type) := Except PatternError (α × List Token)

/-! ## Runs of characters -/

/-- The characters of a class at the front, at most so many. -/
def charsAtMost (p : Char → Bool) : (most : Nat) → List Token → List Char × List Token
  | most + 1, .plain c :: rest =>
    if p c then
      let (cs, rest) := charsAtMost p most rest
      (c :: cs, rest)
    else ([], .plain c :: rest)
  | _, ts => ([], ts)

/-- The characters of a class at the front. -/
def charsWhile (p : Char → Bool) (ts : List Token) : List Char × List Token :=
  charsAtMost p ts.length ts

def isOctal (c : Char) : Bool := decide ('0' ≤ c) && decide (c ≤ '7')

def natOfOctal (ds : List Char) : Nat := ds.foldl (fun n d => n * 8 + (d.toNat - 0x30)) 0

def natOfHex (ds : List Char) : Nat := ds.foldl (fun n d => n * 16 + (hexValue? d).getD 0) 0

def lastCode : Nat := 0x10FFFF

/-- A code of exactly so many hexadecimal digits. -/
def hexCode (width : Nat) (ts : List Token) : Scan Nat :=
  let (ds, rest) := charsAtMost (fun c => (hexValue? c).isSome) width ts
  let n := natOfHex ds
  if ds.length = width ∧ n ≤ lastCode then .ok (n, rest) else .error .malformed

/-- A code whose first octal digit has been read, of at most three digits. -/
def octalCode (first : Char) (ts : List Token) : Scan Nat :=
  let (ds, rest) := charsAtMost isOctal 2 ts
  let n := natOfOctal (first :: ds)
  if n ≤ 0xFF then .ok (n, rest) else .error .malformed

/-! ## Escapes -/

/-- The code of an escape of one letter. -/
def letterCode? (c : Char) : Option Nat :=
  match c with
  | 'a' => some 0x07
  | 'f' => some 0x0C
  | 'n' => some 0x0A
  | 'r' => some 0x0D
  | 't' => some 0x09
  | 'v' => some 0x0B
  | '\\' => some 0x5C
  | _ => none

/-- The class of an escape, in ASCII or in all scripts.  A capital stands for
what is outside. -/
def classItem? (ascii : Bool) (c : Char) : Option CharItem :=
  match c with
  | 'd' => some (.cls .digit false ascii)
  | 'D' => some (.cls .digit true ascii)
  | 's' => some (.cls .blank false ascii)
  | 'S' => some (.cls .blank true ascii)
  | 'w' => some (.cls .word false ascii)
  | 'W' => some (.cls .word true ascii)
  | _ => none

/-- The place of an escape. -/
def spot? (ascii : Bool) (c : Char) : Option Spot :=
  match c with
  | 'A' => some .textStart
  | 'Z' => some .textEnd
  | 'b' => some (.wordEdge ascii)
  | 'B' => some (.noWordEdge ascii)
  | _ => none

/-- The characters of a piece as they were written, if it is made of characters. -/
def Token.text? : Token → Option (List Char)
  | .plain c => some [c]
  | .escaped c => some ['\\', c]
  | .lone _ => none
  | .dangling => some ['\\']

/-- The code of a character whose name stands in braces. -/
def namedCode (names : CharNames) (ts : List Token) : Scan Nat :=
  let opens := ts.head? = some (.plain (Char.ofNat 0x7B))
  let name := (ts.drop 1).takeWhile fun t => t ≠ .plain (Char.ofNat 0x7D)
  match ts.drop (name.length + 1) with
  | [] => .error .malformed
  | _ :: rest =>
    if !opens || name.isEmpty then .error .malformed
    else
      match (name.mapM Token.text?).bind fun pieces => names pieces.flatten with
      | some code => .ok (code, rest)
      | none => .error .malformed

/-- The code of an escape that is neither a class nor a place nor a group.  A
letter without a meaning is refused, every other character stands for itself. -/
def codeEscape (names : CharNames) (c : Char) (ts : List Token) : Scan Nat :=
  match letterCode? c with
  | some n => .ok (n, ts)
  | none =>
    if c == 'x' then hexCode 2 ts
    else if c == 'u' then hexCode 4 ts
    else if c == 'U' then hexCode 8 ts
    else if c == 'N' then namedCode names ts
    else if c.isAlphanum then .error .malformed
    else .ok (c.toNat, ts)

/-- An escape inside brackets. -/
def memberEscape (names : CharNames) (ascii : Bool) (c : Char) (ts : List Token) : Scan CharItem :=
  match classItem? ascii c with
  | some item => .ok (item, ts)
  | none =>
    if c == 'b' then .ok (.code 0x08, ts)
    else if isOctal c then (octalCode c ts).map fun (n, rest) => (.code n, rest)
    else (codeEscape names c ts).map fun (n, rest) => (.code n, rest)

/-- An escape that starts with a digit: a code, or the number of a group. -/
def digitEscape (c : Char) (ts : List Token) : Scan (Nat ⊕ Nat) :=
  if c == '0' then (octalCode c ts).map fun (n, rest) => (.inl n, rest)
  else
    match ts with
    | .plain d :: rest =>
      if d.isDigit then
        match rest with
        | .plain e :: more =>
          if isOctal c && isOctal d && isOctal e then
            let n := natOfOctal [c, d, e]
            if n ≤ 0xFF then .ok (.inl n, more) else .error .malformed
          else .ok (.inr (natOfDigits [c, d]), rest)
        | _ => .ok (.inr (natOfDigits [c, d]), rest)
      else .ok (.inr (natOfDigits [c]), ts)
    | _ => .ok (.inr (natOfDigits [c]), ts)

/-! ## Brackets -/

/-- One member of brackets. -/
def member (names : CharNames) (ascii : Bool) : List Token → Scan CharItem
  | .plain c :: rest => .ok (.code c.toNat, rest)
  | .escaped c :: rest => memberEscape names ascii c rest
  | .lone point :: rest => .ok (.code point, rest)
  | _ => .error .malformed

/-- The range between two members. -/
def rangeOf (first last : CharItem) : Except PatternError CharItem :=
  match first, last with
  | .code a, .code b => if a ≤ b then .ok (.range a b) else .error .malformed
  | _, _ => .error .malformed

/-- The members up to the closing bracket.  A closing bracket that comes first
is a member. -/
def members (names : CharNames) (ascii : Bool) : (fuel : Nat) → List CharItem → List Token →
    Except PatternError (List CharItem × List Token)
  | 0, _, _ => .error .malformed
  | fuel + 1, found, ts =>
    match ts with
    | [] => .error .malformed
    | t :: rest =>
      if t = .plain ']' ∧ !found.isEmpty then .ok (found.reverse, rest)
      else do
        let (first, rest) ← member names ascii (t :: rest)
        match rest with
        | .plain '-' :: .plain ']' :: rest => .ok ((.code 0x2D :: first :: found).reverse, rest)
        | .plain '-' :: rest =>
          let (last, rest) ← member names ascii rest
          let item ← rangeOf first last
          members names ascii fuel (item :: found) rest
        | rest => members names ascii fuel (first :: found) rest

/-- A test in brackets whose opening bracket has been read. -/
def brackets (names : CharNames) (ascii : Bool) (fold : Fold) (ts : List Token) : Scan CharTest :=
  let (negated, body) :=
    match ts with
    | .plain '^' :: rest => (true, rest)
    | _ => (false, ts)
  (members names ascii (body.length + 1) [] body).map fun (items, rest) =>
    (⟨negated, items, fold⟩, rest)

/-! ## Counts -/

/-- The least and the most repetitions, and the tokens after them. -/
abbrev Counts := Nat × Option Nat × List Token

/-- The first count that is too great. -/
def countLimit : Nat := 4294967295

/-- A count in digits, if there are any. -/
def count? (ds : List Char) : Except PatternError (Option Nat) :=
  if ds.isEmpty then .ok none
  else
    let n := natOfDigits ds
    if ds.length > digitLimit || n ≥ countLimit then .error .beyondReach else .ok (some n)

/-- The counts in braces whose opening brace has been read, or nothing when the
brace stands for itself. -/
def braceCounts (ts : List Token) : Except PatternError (Option Counts) :=
  match ts with
  | .plain c :: _ =>
    if c.toNat = 0x7D then .ok none
    else
      let (low, rest) := charsWhile Char.isDigit ts
      let (high, rest) :=
        match rest with
        | .plain ',' :: rest => charsWhile Char.isDigit rest
        | _ => (low, rest)
      match rest with
      | .plain d :: rest =>
        if d.toNat ≠ 0x7D then .ok none
        else if rest = [.dangling] then .error .malformed
        else do
          let least := (← count? low).getD 0
          let most ← count? high
          match most with
          | some n => if n < least then .error .malformed else .ok (some (least, most, rest))
          | none => .ok (some (least, none, rest))
      | _ => .ok none
  | _ => .ok none

/-- The counts a character asks for, or nothing when it stands for itself. -/
def countsOf (c : Char) (ts : List Token) : Except PatternError (Option Counts) :=
  if c == '?' then .ok (some (0, some 1, ts))
  else if c == '*' then .ok (some (0, none, ts))
  else if c == '+' then .ok (some (1, none, ts))
  else braceCounts ts

/-- How the counts are tried, by the sign after them. -/
def greedOf : List Token → Greed × List Token
  | .plain '?' :: rest => (.lazy, rest)
  | .plain '+' :: rest => (.possessive, rest)
  | ts => (.greedy, ts)

end HostMonitor.Pattern
