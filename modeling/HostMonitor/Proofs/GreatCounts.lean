import HostMonitor.Proofs.PatternScans

/-!
# Counts that are too great

A pattern can be followed through the reader as long as it is known from its front.  A word
stands for itself, so reading goes on after it, and the count after the word is the first
thing that can fail.  One that is too great puts the pattern beyond reach, whatever stands
after it.  A repetition at the front has nothing to repeat, and the pattern is malformed.
-/

namespace HostMonitor.Pattern

open Number Text

/-! ## Tokens -/

section

variable {names : CharNames} {c : Char}

end

section

variable {names : CharNames} {word ds : List Char} {after : List Token}

end

/-! ## Patterns -/

end HostMonitor.Pattern
