import HostMonitor.Pattern.Token

/-!
# Flags

A flag is a letter inside an opening bracket.  Flags before a closing bracket
hold for the whole pattern.  Flags before a colon hold up to the closing bracket
of the group, and there a minus sign turns flags off.

`a` and `u` choose an alphabet, ASCII or all scripts.  Only one of them can be
chosen, and neither can be turned off.  Under `t` no repetition is allowed, and
it holds for the whole pattern or not at all.
-/

namespace HostMonitor.Pattern

/-- What holds where a part of a pattern stands. -/
structure Flags where
  ignoreCase : Bool
  /-- The places of lines count, and not those of the text. -/
  lines : Bool
  dotAll : Bool
  spaced : Bool
  ascii : Bool
  /-- Classes were asked to be those of all scripts. -/
  allScripts : Bool
  /-- No repetition is allowed. -/
  noLoops : Bool
  deriving DecidableEq, Repr

namespace Flags

def none : Flags := ⟨false, false, false, false, false, false, false⟩

/-- The flags with the one of a letter set.  `L` has no meaning here. -/
def withLetter? (f : Flags) : Char → Option Flags
  | 'i' => some { f with ignoreCase := true }
  | 'm' => some { f with lines := true }
  | 's' => some { f with dotAll := true }
  | 'x' => some { f with spaced := true }
  | 'a' => some { f with ascii := true }
  | 'u' => some { f with allScripts := true }
  | 't' => some { f with noLoops := true }
  | _ => Option.none

/-- The flags of the letters. -/
def ofLetters? (letters : List Char) : Option Flags := letters.foldlM withLetter? none

/-- An alphabet is chosen. -/
def choosesAlphabet (f : Flags) : Bool := f.ascii || f.allScripts

/-- Both alphabets are chosen. -/
def clashes (f : Flags) : Bool := f.ascii && f.allScripts

def union (f g : Flags) : Flags :=
  ⟨f.ignoreCase || g.ignoreCase, f.lines || g.lines, f.dotAll || g.dotAll, f.spaced || g.spaced,
    f.ascii || g.ascii, f.allScripts || g.allScripts, f.noLoops || g.noLoops⟩

/-- The flags of the first that are not in the second. -/
def without (f g : Flags) : Flags :=
  ⟨f.ignoreCase && !g.ignoreCase, f.lines && !g.lines, f.dotAll && !g.dotAll,
    f.spaced && !g.spaced, f.ascii && !g.ascii, f.allScripts && !g.allScripts,
    f.noLoops && !g.noLoops⟩

/-- What holds inside a group that turns flags on and off.  An alphabet chosen
there replaces the one around it. -/
def inside (around on off : Flags) : Flags :=
  let kept :=
    if on.choosesAlphabet then { around with ascii := false, allScripts := false } else around
  (kept.union on).without off

def fold (f : Flags) : Fold :=
  if !f.ignoreCase then .exact else if f.ascii then .ascii else .all

end Flags

/-! ## Reading -/

/-- What flags inside an opening bracket say. -/
inductive FlagScope where
  | whole (on : Flags)
  | group (on off : Flags)
  deriving DecidableEq, Repr

def isFlagLetter (c : Char) : Bool := "aiLmstux".toList.contains c

def flagLetters (ts : List Token) : Scan Flags :=
  let (letters, rest) := charsWhile isFlagLetter ts
  match Flags.ofLetters? letters with
  | some f => if f.clashes then .error .malformed else .ok (f, rest)
  | none => .error .malformed

/-- Flags from their first letter or minus sign on. -/
def flagScope (ts : List Token) : Except PatternError (FlagScope × List Token) := do
  let (on, rest) ← flagLetters ts
  match rest with
  | .plain ')' :: rest => .ok (.whole on, rest)
  | .plain ':' :: rest => if on.noLoops then .error .malformed else .ok (.group on .none, rest)
  | .plain '-' :: rest =>
    let (off, after) ← flagLetters rest
    match after with
    | .plain ':' :: after =>
      if after.length + 1 = rest.length || on.noLoops || off.noLoops || off.choosesAlphabet ||
          on.without off != on then
        .error .malformed
      else .ok (.group on off, after)
    | _ => .error .malformed
  | _ => .error .malformed

end HostMonitor.Pattern
