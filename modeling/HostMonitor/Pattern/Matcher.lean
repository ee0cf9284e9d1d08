import HostMonitor.Pattern.Node

/-!
# Matching

A pattern matches at a place of a text in several ways, one after the other.
`Node.run` hands each way to what is to match next, and goes on to the next way
when that fails.  So the first way that lets all the rest match is the one that
is found.

A repetition that takes no character ends there: the ways after it are those of
what follows.  That is also why matching ends, since every other repetition
leaves less of the text.
-/

namespace HostMonitor.Pattern

/-- The codes of the characters of the text. -/
abbrev Subject := Array Nat

/-- How far the matching is. -/
structure Progress where
  /-- The number of characters before the place. -/
  pos : Nat
  /-- Where each group was last entered. -/
  opened : List (Nat × Nat)
  /-- Where each group was last left. -/
  closed : List (Nat × Nat)
  deriving Repr

/-- What is to match next. -/
abbrev Next := Progress → Option Progress

/-- Something that matches in several ways. -/
abbrev Ways := Progress → Next → Option Progress

namespace Progress

def set (index place : Nat) (l : List (Nat × Nat)) : List (Nat × Nat) :=
  (index, place) :: l.filter (·.1 != index)

def enter (p : Progress) (index : Nat) : Progress :=
  { p with opened := set index p.pos p.opened }

def leave (p : Progress) (index : Nat) : Progress :=
  { p with closed := set index p.pos p.closed }

/-- The start and the end of what the group matched.  A group that was entered
after it was last left has matched nothing. -/
def span? (p : Progress) (index : Nat) : Option (Nat × Nat) :=
  match p.opened.lookup index, p.closed.lookup index with
  | some first, some last => if first ≤ last then some (first, last) else none
  | _, _ => none

/-- The place moved on. -/
def moved (p : Progress) (pos : Nat) : Progress := { p with pos }

end Progress

/-! ## Places -/

/-- A word character stands before, or after, the place. -/
def wordAt (s : Subject) (ascii : Bool) (i : Nat) : Bool :=
  match s[i]? with
  | some c => CharClass.word.has ascii c
  | none => false

def isWordEdge (s : Subject) (ascii : Bool) (pos : Nat) : Bool :=
  (pos > 0 && wordAt s ascii (pos - 1)) != wordAt s ascii pos

/-- The place is of the kind.  The empty text has neither word edges nor places
without one. -/
def Spot.holds (s : Subject) (pos : Nat) : Spot → Bool
  | .textStart => pos == 0
  | .lineStart => pos == 0 || s[pos - 1]? == some 0x0A
  | .textEnd => pos == s.size
  | .lastEnd => pos == s.size || (pos + 1 == s.size && s[pos]? == some 0x0A)
  | .lineEnd => pos == s.size || s[pos]? == some 0x0A
  | .wordEdge ascii => s.size != 0 && isWordEdge s ascii pos
  | .noWordEdge ascii => s.size != 0 && !isWordEdge s ascii pos

/-! ## Repetitions -/

/-- Something exactly so many times. -/
def exactly (m : Ways) : Nat → Ways
  | 0, p, k => k p
  | n + 1, p, k => m p fun p' => exactly m n p' k

/-- Something at most so many times, the most first. -/
def greedily (m : Ways) (size : Nat) (most : Option Nat) (p : Progress) (k : Next) :
    Option Progress :=
  if most = some 0 then k p
  else
    match m p fun p' =>
      if p.pos < p'.pos ∧ p'.pos ≤ size then greedily m size (most.map (· - 1)) p' k
      else k p' with
    | some found => some found
    | none => k p
termination_by size - p.pos

/-- Something at most so many times, the fewest first. -/
def lazily (m : Ways) (size : Nat) (most : Option Nat) (p : Progress) (k : Next) :
    Option Progress :=
  match k p with
  | some found => some found
  | none =>
    if most = some 0 then none
    else
      m p fun p' =>
        if p.pos < p'.pos ∧ p'.pos ≤ size then lazily m size (most.map (· - 1)) p' k
        else k p'
termination_by size - p.pos

/-- Something exactly so many times, each time in its first way. -/
def firstWays (m : Ways) : Nat → Next
  | 0, p => some p
  | n + 1, p => (m p some).bind (firstWays m n)

/-- Something as often as it matches and at most so many times, each time in its
first way. -/
def possessively (m : Ways) (size : Nat) (most : Option Nat) (p : Progress) : Progress :=
  if most = some 0 then p
  else
    match m p some with
    | none => p
    | some p' =>
      if p.pos < p'.pos ∧ p'.pos ≤ size then possessively m size (most.map (· - 1)) p' else p'
termination_by size - p.pos

/-- A repetition. -/
def repeated (greed : Greed) (least : Nat) (most : Option Nat) (size : Nat) (m : Ways) : Ways :=
  fun p k =>
    let more := most.map (· - least)
    match greed with
    | .greedy => exactly m least p fun p' => greedily m size more p' k
    | .lazy => exactly m least p fun p' => lazily m size more p' k
    | .possessive => (firstWays m least p).bind fun p' => k (possessively m size more p')

/-! ## Repetitions of one character -/

/-- How many characters from a place on pass the test, looking at no more than
`look`. -/
def runLength (s : Subject) (t : CharTest) : (look pos count : Nat) → Nat
  | 0, _, count => count
  | look + 1, pos, count =>
    match s[pos]? with
    | some c => if t.has c then runLength s t look (pos + 1) (count + 1) else count
    | none => count

/-- Tries the places from `extra` characters on down to the first. -/
def backing (p : Progress) (k : Next) : (extra : Nat) → Option Progress
  | 0 => k p
  | extra + 1 =>
    match k (p.moved (p.pos + extra + 1)) with
    | some found => some found
    | none => backing p k extra

/-- Tries the places from the first up to `extra` characters on. -/
def advancing (p : Progress) (k : Next) : (extra : Nat) → Option Progress
  | 0 => k p
  | extra + 1 =>
    match k p with
    | some found => some found
    | none => advancing (p.moved (p.pos + 1)) k extra

def repeatedOne (s : Subject) (greed : Greed) (least : Nat) (most : Option Nat)
    (t : CharTest) : Ways :=
  fun p k =>
    let look := s.size - p.pos
    let run := runLength s t (match most with | some n => min n look | none => look) p.pos 0
    if run < least then none
    else
      let extra := run - least
      let p' := p.moved (p.pos + least)
      match greed with
      | .greedy => backing p' k extra
      | .lazy => advancing p' k extra
      | .possessive => k (p'.moved (p.pos + run))

/-! ## Patterns -/

/-- The text from `first` to `last` stands at the place again. -/
def sameText (s : Subject) (fold : Fold) (first last pos : Nat) : Bool :=
  (List.range (last - first)).all fun i =>
    match s[first + i]?, s[pos + i]? with
    | some a, some b => fold.small a == fold.small b
    | _, _ => false

/-- The ways in which a pattern matches. -/
def Node.run (s : Subject) : Node → Ways
  | .empty, p, k => k p
  | .one t, p, k =>
    match s[p.pos]? with
    | some c => if t.has c then k (p.moved (p.pos + 1)) else none
    | none => none
  | .seq a b, p, k => a.run s p fun p' => b.run s p' k
  | .alt a b, p, k =>
    match a.run s p k with
    | some found => some found
    | none => b.run s p k
  | .group index body, p, k => body.run s (p.enter index) fun p' => k (p'.leave index)
  | .scoped body, p, k => body.run s p k
  | .loop greed least most body, p, k =>
    match body with
    | .one t => repeatedOne s greed least most t p k
    | _ => repeated greed least most s.size (fun p' k' => body.run s p' k') p k
  | .atomic body, p, k => (body.run s p some).bind k
  | .ahead negated body, p, k =>
    match body.run s p some, negated with
    | some found, false => k (found.moved p.pos)
    | none, true => k p
    | _, _ => none
  | .behind negated width body, p, k =>
    let found? := if width ≤ p.pos then body.run s (p.moved (p.pos - width)) some else none
    match found?, negated with
    | some found, false => k (found.moved p.pos)
    | none, true => k p
    | _, _ => none
  | .again index fold, p, k =>
    match p.span? index with
    | some (first, last) =>
      if sameText s fold first last p.pos then k (p.moved (p.pos + (last - first))) else none
    | none => none
  | .whether index yes no, p, k =>
    if (p.span? index).isSome then yes.run s p k else no.run s p k
  | .spot place, p, k => if place.holds s p.pos then k p else none

/-- The pattern matches at one of the places of a text that are looked at. -/
def Node.search (n : Node) (s : Subject) (isStart : Nat → Bool) : Bool :=
  (List.range (s.size + 1)).any fun start =>
    isStart start && (n.run s ⟨start, [], []⟩ some).isSome

end HostMonitor.Pattern
