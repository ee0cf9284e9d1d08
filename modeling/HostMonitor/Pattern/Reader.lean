import HostMonitor.Pattern.Flags
import HostMonitor.Pattern.Lead

/-!
# Reading patterns

The grammar is that of the usual regular expressions.  A pattern is a list of
alternatives, an alternative is a list of items, and a quantifier repeats the
item before it.  A place cannot be repeated, nor can a repetition.  In brackets
stand groups, with or without a number, and the forms that begin with a question
mark: looks ahead and back, conditions, references by name, flags and comments.

Three rules need more than the text at hand.  A reference is only to a group
that is closed already, and inside a look back only to one that was there before
it.  A condition may name a group that comes later.  A look back has a fixed
width.  The last two are settled once the whole text is read, so what they need
is gathered in `Gathered`.

`Expression.read` gives a text its meaning.  The readers of alternatives and of
items call each other on less fuel.  Two calls in a row take at least one token,
so twice the number of tokens is enough.
-/

namespace HostMonitor.Pattern

open Number Text

/-- What was gathered so far. -/
structure Gathered where
  rest : List Token
  /-- The number of the next group. -/
  next : Nat
  names : List (List Char × Nat)
  /-- The widths of the groups that are closed. -/
  widths : List (Nat × Width)
  /-- The number of the next group at the start of the outermost look back. -/
  lookback : Option Nat
  /-- The greatest number that a condition asks for. -/
  asked : Nat
  flags : Flags
  /-- The pattern is refused once it is read. -/
  refused : Bool
  deriving Repr

/-- A reader of a part of a pattern. -/
abbrev Reading := StateT Gathered (Except PatternError)

/-- What a quantifier needs to know of the item before it. -/
inductive Kind where
  /-- It can be repeated. -/
  | plain
  /-- It is a place. -/
  | spot
  /-- It is a repetition. -/
  | loop
  deriving DecidableEq, Repr

/-- An item and its kind. -/
abbrev Item := Kind × Node

/-- How deep groups may stand inside each other.  Reading takes two calls for each level,
and about forty of the thousand that the interpreter follows are in use before. -/
def depthLimit : Nat := 480

/-- The first number that is too great for a group. -/
def groupLimit : Nat := 1073741823

def widthLimit : Nat := 4294967295

/-! ## Steps -/

def malformed {α : Type} : Reading α := throw .malformed

def peek : Reading (Option Token) := do return (← get).rest.head?

def pop : Reading Token := do
  match (← get).rest with
  | [] => malformed
  | t :: rest => do
    modify ({ · with rest })
    return t

/-- Takes the character if it is next. -/
def took (c : Char) : Reading Bool := do
  match (← get).rest with
  | t :: rest =>
    if t = .plain c then do
      modify ({ · with rest })
      return true
    else return false
  | [] => return false

/-- Takes the character, which has to be next. -/
def expect (c : Char) : Reading Unit := do
  if !(← took c) then malformed

/-- Reads with a function on tokens. -/
def scan {α : Type} (f : List Token → Scan α) : Reading α := do
  let (found, rest) ← f (← get).rest
  modify ({ · with rest })
  return found

/-- The characters before a closing sign, which is taken too. -/
def upTo (close : Char) : Reading (List Char) := do
  let cs ← scan fun ts => .ok (charsWhile (· != close) ts)
  expect close
  return cs

/-- The name before a closing sign. -/
def nameUntil (close : Char) : Reading (List Char) := do
  let name ← upTo close
  if isName name then return name else malformed

/-- Leaves out a comment up to the end of its line. -/
def skipLine : Reading Unit := do
  let ts := (← get).rest
  let comment := ts.takeWhile (· != .plain '\n')
  if comment.contains .dangling then malformed
  modify ({ · with rest := ts.drop (comment.length + 1) })

/-- Leaves out a comment up to its closing bracket. -/
def skipComment : Reading Unit := do
  modify fun g => { g with rest := g.rest.dropWhile (· != .plain ')') }
  expect ')'

/-! ## Groups -/

/-- The group can be referred to from here. -/
def isReachable (g : Gathered) (index : Nat) : Bool :=
  (g.widths.lookup index).isSome &&
    match g.lookback with
    | some first => decide (index < first)
    | none => true

/-- The text of a group again. -/
def reference (fold : Fold) (index : Nat) : Reading Item := do
  if isReachable (← get) index then return (.plain, .again index fold) else malformed

def groupNamed (name : List Char) : Reading Nat := do
  match (← get).names.lookup name with
  | some index => return index
  | none => malformed

/-- The group that a condition asks for. -/
def conditionGroup (text : List Char) : Reading Nat := do
  let index ←
    if isName text then groupNamed text
    else
      match int? text with
      | some n =>
        if 0 < n ∧ n < groupLimit then do
          modify fun g => { g with asked := max g.asked n.toNat }
          pure n.toNat
        else malformed
      | none => malformed
  let g ← get
  if g.lookback.isSome && !isReachable g index then malformed
  return index

/-- Opens a group, with its name if it has one. -/
def openGroup (name : Option (List Char)) : Reading Nat := do
  let g ← get
  match name with
  | some n =>
    if (g.names.lookup n).isSome then malformed
    set { g with next := g.next + 1, names := (n, g.next) :: g.names }
  | none => set { g with next := g.next + 1 }
  return g.next

def closeGroup (index : Nat) (body : Node) : Reading Unit :=
  modify fun g => { g with widths := (index, body.width g.widths) :: g.widths }

/-! ## Items -/

/-- A test of one character as an item. -/
def testItem (fold : Fold) (item : CharItem) : Item := (.plain, .one ⟨false, [item], fold⟩)

section

variable (names : CharNames)

/-- The item of an escape. -/
def escapeItem (flags : Flags) (c : Char) : Reading Item := do
  match classItem? flags.ascii c, spot? flags.ascii c with
  | some item, _ => return testItem flags.fold item
  | none, some place => return (.spot, .spot place)
  | none, none =>
    if c.isDigit then
      match ← scan (digitEscape c) with
      | .inl code => return testItem flags.fold (.code code)
      | .inr index => reference flags.fold index
    else return testItem flags.fold (.code (← scan (codeEscape names c)))

/-- The item before a quantifier, repeated. -/
def repeatItem (counts : Counts) (held : List Item) : Reading (List Item) := do
  match held with
  | (.plain, body) :: before => do
    let (greed, rest) := greedOf counts.2.2
    modify fun g => { g with rest, refused := g.refused || g.flags.noLoops }
    return (.loop, .loop greed counts.1 counts.2.1 body) :: before
  | _ => malformed

/-- What becomes of the items so far at a character that begins a count. -/
def quantify (flags : Flags) (c : Char) (held : List Item) : Reading (List Item) := do
  match ← countsOf c (← get).rest with
  | some counts => repeatItem counts held
  | none => return testItem flags.fold (.code c.toNat) :: held

/-- The item of a character that is no bracket and begins no count. -/
def plainItem (flags : Flags) (c : Char) : Reading Item := do
  if c == '[' then return (.plain, .one (← scan (brackets names flags.ascii flags.fold)))
  else if c == '.' then return (.plain, .one (if flags.dotAll then .anything else .inLine))
  else if c == '^' then return (.spot, .spot (if flags.lines then .lineStart else .textStart))
  else if c == '$' then return (.spot, .spot (if flags.lines then .lineEnd else .lastEnd))
  else return testItem flags.fold (.code c.toNat)

/-- The pattern of items, given backwards. -/
def joinItems (held : List Item) : Node :=
  held.foldl (fun after item => match after with
    | .empty => item.2
    | _ => .seq item.2 after) .empty

/-- A look back at a pattern, which has to have a fixed width. -/
def lookBack (negated : Bool) (body : Node) : Reading Item := do
  let w := body.width (← get).widths
  let fixed := w.most = some w.least && decide (w.least ≤ widthLimit)
  modify fun g => { g with refused := g.refused || !fixed }
  return (.plain, .behind negated w.least body)

/-- A blank that is left out between items. -/
def isSpacing (c : Char) : Bool := c == ' ' || (decide (0x09 ≤ c.toNat) && decide (c.toNat ≤ 0x0D))

/-- The characters that begin a count. -/
def isQuantifier (c : Char) : Bool := c == '*' || c == '+' || c == '?' || c.toNat == 0x7B

/-! ## The grammar -/

mutual

/-- The alternatives up to a closing bracket.  `depth` is how much deeper groups
may nest, and `top` says that the alternatives are in no group. -/
def alternatives : (fuel depth : Nat) → (top : Bool) → Flags → Reading Node
  | 0, _, _, _ => malformed
  | _, 0, _, _ => throw .beyondReach
  | fuel + 1, depth + 1, top, flags => do
    let first ← sequence fuel depth top [] flags
    if ← took '|' then do
      let g ← get
      let flags := if top then g.flags else flags
      return .alt first (← moreAlternatives fuel depth top flags)
    else return first

/-- The alternatives after the first. -/
def moreAlternatives : (fuel depth : Nat) → (top : Bool) → Flags → Reading Node
  | 0, _, _, _ => malformed
  | fuel + 1, depth, top, flags => do
    let one ← sequence fuel depth false [] flags
    if ← took '|' then return .alt one (← moreAlternatives fuel depth top flags)
    else return one

/-- The items up to a bar or a closing bracket, where `held` holds those before,
backwards.  `start` says that flags for the whole pattern may stand before the
first item. -/
def sequence : (fuel depth : Nat) → (start : Bool) → (held : List Item) → Flags → Reading Node
  | 0, _, _, _, _ => malformed
  | fuel + 1, depth, start, held, flags => do
    match ← peek with
    | none => return joinItems held
    | some .dangling => malformed
    | some (.lone point) => do
      let _ ← pop
      sequence fuel depth start (testItem flags.fold (.code point) :: held) flags
    | some (.escaped c) => do
      let _ ← pop
      let item ← escapeItem names flags c
      sequence fuel depth start (item :: held) flags
    | some (.plain c) =>
      if c == '|' || c == ')' then return joinItems held
      let _ ← pop
      if flags.spaced && isSpacing c then sequence fuel depth start held flags
      else if flags.spaced && c == '#' then do
        skipLine
        sequence fuel depth start held flags
      else if isQuantifier c then do
        let held ← quantify flags c held
        sequence fuel depth start held flags
      else if c == '(' then bracket fuel depth start held flags
      else do
        let item ← plainItem names flags c
        sequence fuel depth start (item :: held) flags

/-- What an opening bracket begins, and the items after it. -/
def bracket : (fuel depth : Nat) → (start : Bool) → (held : List Item) → Flags → Reading Node
  | 0, _, _, _, _ => malformed
  | fuel + 1, depth, start, held, flags => do
    let item ←
      if !(← took '?') then group fuel depth none flags
      else
        match ← pop with
        | .plain 'P' =>
          if ← took '<' then do
            let name ← nameUntil '>'
            group fuel depth (some name) flags
          else do
            expect '='
            let name ← nameUntil ')'
            reference flags.fold (← groupNamed name)
        | .plain ':' => do
          let body ← closed fuel depth flags
          pure (.plain, body)
        | .plain '>' => do
          let body ← closed fuel depth flags
          pure (.plain, .atomic body)
        | .plain '#' => do
          skipComment
          return ← sequence fuel depth start held flags
        | .plain '=' => do
          let body ← closed fuel depth flags
          pure (.plain, .ahead false body)
        | .plain '!' => do
          let body ← closed fuel depth flags
          pure (.plain, .ahead true body)
        | .plain '<' => behind fuel depth flags
        | .plain '(' => condition fuel depth flags
        | .plain c =>
          if isFlagLetter c || c == '-' then do
            modify fun g => { g with rest := .plain c :: g.rest }
            match ← scan flagScope with
            | .whole on => do
              if !start || !held.isEmpty then malformed
              let g ← get
              set { g with flags := g.flags.union on }
              return ← sequence fuel depth start held (g.flags.union on)
            | .group on off => do
              let body ← closed fuel depth (flags.inside on off)
              pure (.plain, .scoped body)
          else malformed
        | _ => malformed
    sequence fuel depth start (item :: held) flags

/-- Alternatives and the bracket that closes them. -/
def closed : (fuel depth : Nat) → Flags → Reading Node
  | 0, _, _ => malformed
  | fuel + 1, depth, flags => do
    let body ← alternatives fuel depth false flags
    expect ')'
    return body

/-- A group with a number. -/
def group : (fuel depth : Nat) → (name : Option (List Char)) → Flags → Reading Item
  | 0, _, _, _ => malformed
  | fuel + 1, depth, name, flags => do
    let index ← openGroup name
    let body ← closed fuel depth flags
    closeGroup index body
    return (.plain, .group index body)

/-- A look back. -/
def behind : (fuel depth : Nat) → Flags → Reading Item
  | 0, _, _ => malformed
  | fuel + 1, depth, flags => do
    let negated ←
      match ← pop with
      | .plain '=' => pure false
      | .plain '!' => pure true
      | _ => malformed
    let around := (← get).lookback
    if around.isNone then modify fun g => { g with lookback := some g.next }
    let body ← alternatives fuel depth false flags
    modify ({ · with lookback := around })
    expect ')'
    lookBack negated body

/-- A condition with its one or two branches. -/
def condition : (fuel depth : Nat) → Flags → Reading Item
  | 0, _, _ => malformed
  | fuel + 1, depth, flags => do
    let text ← upTo ')'
    let index ← conditionGroup text
    let yes ← sequence fuel depth false [] flags
    let no ← if ← took '|' then sequence fuel depth false [] flags else pure .empty
    expect ')'
    return (.plain, .whether index yes no)

end

/-- The expression that the code points of a text give. -/
def Expression.read (points : List Nat) : Except PatternError Expression := do
  let ts := tokens points
  let begun : Gathered := ⟨ts, 1, [], [], none, 0, .none, false⟩
  let (node, g) ← (alternatives names (4 * ts.length + 4) depthLimit true .none).run begun
  if g.flags.clashes then .error .beyondReach
  else if !g.rest.isEmpty || g.asked ≥ g.next || g.refused then .error .malformed
  else .ok (.of node g.flags.ascii)

end

end HostMonitor.Pattern
