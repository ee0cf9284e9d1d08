import HostMonitor.Pattern.CharTest

/-!
# Patterns

A pattern is a tree.  Its leaves test one character or a place in the text, or
ask for the text of an earlier group again.  Groups are numbered from one in
the order of their opening brackets.
-/

namespace HostMonitor.Pattern

inductive Spot where
  | textStart
  | lineStart
  | textEnd
  /-- The end of the text, or before a line feed that ends it. -/
  | lastEnd
  | lineEnd
  /-- Between a word character and another, of ASCII or of all scripts. -/
  | wordEdge (ascii : Bool)
  | noWordEdge (ascii : Bool)
  deriving DecidableEq, Repr

/-- In which order the counts of a repetition are tried. -/
inductive Greed where
  | greedy
  | lazy
  /-- The most repetitions and no other. -/
  | possessive
  deriving DecidableEq, Repr

/-- A pattern. -/
inductive Node where
  | empty
  | one (test : CharTest)
  | seq (first second : Node)
  | alt (first second : Node)
  | group (index : Nat) (body : Node)
  /-- A pattern with flags of its own. -/
  | scoped (body : Node)
  | loop (greed : Greed) (least : Nat) (most : Option Nat) (body : Node)
  /-- A pattern in the first way it matches and no other. -/
  | atomic (body : Node)
  | ahead (negated : Bool) (body : Node)
  /-- A place where the pattern matches that many characters back, or does not. -/
  | behind (negated : Bool) (width : Nat) (body : Node)
  /-- The text of a group again. -/
  | again (index : Nat) (fold : Fold)
  /-- One pattern if the group has matched, else the other. -/
  | whether (index : Nat) (yes no : Node)
  | spot (place : Spot)
  deriving Repr, Inhabited

/-- The least and the most characters a pattern takes; no most when there is no
bound. -/
structure Width where
  least : Nat
  most : Option Nat
  deriving DecidableEq, Repr

namespace Width

def zero : Width := ⟨0, some 0⟩

/-- The width of one pattern and then another. -/
def add (a b : Width) : Width :=
  ⟨a.least + b.least, do some ((← a.most) + (← b.most))⟩

def join (a b : Width) : Width :=
  ⟨min a.least b.least, do some (max (← a.most) (← b.most))⟩

/-- The width of a repetition.  No repetition takes no character. -/
def times (a : Width) (least : Nat) (most : Option Nat) : Width :=
  ⟨a.least * least,
    match a.most, most with
    | some 0, _ => some 0
    | _, some 0 => some 0
    | some n, some m => some (n * m)
    | _, _ => none⟩

end Width

/-- The width of a pattern, where `known` gives the widths of groups. -/
def Node.width (known : List (Nat × Width)) : Node → Width
  | .empty => .zero
  | .one _ => ⟨1, some 1⟩
  | .seq a b => (a.width known).add (b.width known)
  | .alt a b => (a.width known).join (b.width known)
  | .group _ body => body.width known
  | .scoped body => body.width known
  | .loop _ least most body => (body.width known).times least most
  | .atomic body => body.width known
  | .ahead .. => .zero
  | .behind .. => .zero
  | .again index _ => (known.lookup index).getD .zero
  | .whether _ yes no => (yes.width known).join (no.width known)
  | .spot _ => .zero

end HostMonitor.Pattern
