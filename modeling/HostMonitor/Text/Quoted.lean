import HostMonitor.Text.Code
import HostMonitor.Text.Letters

/-!
# Quoted texts in messages

A message shows a foreign text inside quotes, so that blanks at its ends and
characters without a printed form can be seen.  The quotes are single, unless
the text holds a single quote and no double one.  A backslash and the quote in
use are written with a backslash before them, three controls have letters of
their own, and what does not print is written by its code.
-/

namespace HostMonitor.Text

def singleQuote : Char := Char.ofNat 0x27

def doubleQuote : Char := Char.ofNat 0x22

/-- How one code point is written inside the given quotes. -/
def quotedPoint (quote : Char) (point : Nat) : List Char :=
  let c := Char.ofNat point
  if point.isValidChar && (c == quote || c == '\\') then ['\\', c]
  else if point = 0x0A then ['\\', 'n']
  else if point = 0x0D then ['\\', 'r']
  else if point = 0x09 then ['\\', 't']
  else if point.isValidChar && isPrintable c then [c]
  else if point ≤ 0xFF then '\\' :: 'x' :: hexDigits 2 point
  else if point ≤ 0xFFFF then '\\' :: 'u' :: hexDigits 4 point
  else '\\' :: 'U' :: hexDigits 8 point

/-- A text of code points inside quotes. -/
def quotedPoints (points : List Nat) : List Char :=
  let quote :=
    if points.contains singleQuote.toNat && !points.contains doubleQuote.toNat then doubleQuote
    else singleQuote
  quote :: points.flatMap (quotedPoint quote) ++ [quote]

/-- A text inside quotes. -/
def quoted (s : String) : String :=
  String.ofList (quotedPoints (s.toList.map Char.toNat))

end HostMonitor.Text
