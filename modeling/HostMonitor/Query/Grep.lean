import HostMonitor.Pattern.Reader
import HostMonitor.Query.Arguments
import HostMonitor.Run.Basic

/-!
# Searching messages

A search text between two slashes is a pattern, any other is looked for as it
stands.  Messages are made clean before they are searched: controls become
blanks, and blanks at the ends are taken off.
-/

namespace HostMonitor.Query

open Text

/-- A way to choose messages. -/
inductive Matcher where
  | holding (needle : WireText)
  | pattern (expression : Pattern.Expression)
  deriving Repr

def Matcher.chooses (m : Matcher) (message : WireText) : Bool :=
  match m with
  | .holding needle => occursIn needle.points message.points
  | .pattern expression => expression.occursIn message.points

/-- The code points of a text without blanks around it. -/
def trimmedPoints (text : WireText) : List Nat := trimBy isBlankCode text.points

def betweenSlashes? (points : List Nat) : Option (List Nat) :=
  match points with
  | 0x2F :: rest => if rest.getLast? = some 0x2F then some rest.dropLast else none
  | _ => none

/-- The failure of a pattern that cannot be compiled although its form is right. -/
def beyondReach : Fault := .breakdown "pattern cannot be compiled"

/-- The way to choose messages that a search text gives; nothing when it is
blank. -/
def matcher (names : Pattern.CharNames) (given : Option WireText) :
    Except Fault (Option Matcher) :=
  match given with
  | none => .ok none
  | some text =>
    let points := trimmedPoints text
    if points.isEmpty then .ok none
    else
      match betweenSlashes? points with
      | none => .ok (some (.holding (.ofPoints points)))
      | some inner =>
        match Pattern.Expression.read names inner with
        | .ok expression => .ok (some (.pattern expression))
        | .error .malformed =>
          .error (.reported (.argument "grep regex pattern is invalid" "invalid_grep"
            [("grep", .str text)]))
        | .error .beyondReach => .error beyondReach

/-! ## Clean messages -/

/-- The code of a control that is replaced.  Line ends and tabs are kept. -/
def isReplaced (n : Nat) : Bool :=
  decide (n ≤ 0x08) || n == 0x0B || n == 0x0C || (decide (0x0E ≤ n) && decide (n ≤ 0x1F)) ||
    (decide (0x7F ≤ n) && decide (n ≤ 0x9F))

/-- The message in clean form; nothing when nothing is left of it. -/
def cleaned (message : WireText) : Option WireText :=
  let points := trimBy isBlankCode (message.points.map fun p => if isReplaced p then 0x20 else p)
  if points.isEmpty then none else some (.ofPoints points)

end HostMonitor.Query
