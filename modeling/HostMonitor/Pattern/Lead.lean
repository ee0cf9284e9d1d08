import HostMonitor.Pattern.Matcher

/-!
# The first character of a match

A search does not try every place of a text.  When a pattern begins with a test of
one character, only the places where a character passes that test are tried.

The test is made before the flags of groups are known, so its classes are those of
the alphabet of the whole pattern.  A pattern that begins with a class of another
alphabet therefore matches only where both alphabets agree.  A test that ignores
the case of a letter is not made in advance.
-/

namespace HostMonitor.Pattern

open Text

/-- The code has another case. -/
def isCased (fold : Fold) (n : Nat) : Bool :=
  fold.small n != n || (fold.sources n).length != 1 || (fold.alike n).length != 1

/-- The item tests the same characters when the case is ignored. -/
def CharItem.isCaseless (fold : Fold) : CharItem → Bool
  | .code n => !isCased fold n
  | .range first last =>
    decide (last ≤ 0xFFFF) &&
      (List.range (last + 1 - first)).all fun i => !isCased fold (first + i)
  | .cls .. => true

/-- The test can be made in advance. -/
def CharTest.isCaseless (t : CharTest) : Bool :=
  t.fold == .exact || t.items.all (·.isCaseless t.fold)

/-- The item with the classes of the given alphabet. -/
def CharItem.inAlphabet (ascii : Bool) : CharItem → CharItem
  | .cls c negated _ => .cls c negated ascii
  | item => item

/-- The test with the classes of the given alphabet, letter by letter. -/
def CharTest.inAlphabet (t : CharTest) (ascii : Bool) : CharTest :=
  ⟨t.negated, t.items.map (·.inAlphabet ascii), .exact⟩

/-- The test that two alternatives of one character make together. -/
def bothTests? (a b : Node) : Option CharTest :=
  match a, b with
  | .one s, .one t =>
    if s.negated || t.negated then none else some ⟨false, s.items ++ t.items, s.fold⟩
  | _, _ => none

/-- The test a pattern begins with outside its groups.  Alternatives begin with
one when they are tests of one character, or all begin with the same. -/
def Node.head? : Node → Option CharTest
  | .one t => some t
  | .seq .empty b => b.head?
  | .seq a _ => a.head?
  | .alt a b =>
    match bothTests? a b with
    | some t => some t
    | none => if a.head? = b.head? then a.head? else none
  | _ => none

/-- The test a pattern begins with. -/
def Node.lead? : Node → Option CharTest
  | .group _ body => body.lead?
  | .scoped body => body.lead?
  | .seq .empty b => b.lead?
  | .seq a _ => a.lead?
  | n => n.head?

/-! ## Expressions -/

/-- A pattern with the test that the first character of a match has to pass. -/
structure Expression where
  body : Node
  /-- The test, if one is made in advance. -/
  lead : Option CharTest
  deriving Repr

/-- The expression of a pattern, by the alphabet of the whole. -/
def Expression.of (body : Node) (ascii : Bool) : Expression :=
  ⟨body, (body.lead?.filter CharTest.isCaseless).map (·.inAlphabet ascii)⟩

/-- The character at the place passes the test. -/
def passes (s : Subject) (lead : Option CharTest) (place : Nat) : Bool :=
  match lead, s[place]? with
  | none, _ => true
  | some t, some c => t.has c
  | some _, none => false

/-- The expression matches somewhere in the text. -/
def Expression.occursIn (e : Expression) (text : List Nat) : Bool :=
  let s := text.toArray
  e.body.search s (passes s e.lead)

end HostMonitor.Pattern
