import HostMonitor.Proofs.GreatCounts
import HostMonitor.Proofs.PatternReach
import HostMonitor.Proofs.Resources
import HostMonitor.Proofs.Validating

/-!
# Searches that cannot be made

A search text is blank, looked for as it stands, or a pattern between slashes.  A pattern
that is malformed is reported under the name of its argument.  A pattern that is beyond
reach is not reported: it breaks the query down, and the client is told of an internal
error.

Only a pattern that overreaches is beyond reach.  Such patterns are there: a word repeated
too many times is one, whatever stands after it.
-/

namespace HostMonitor

open Pattern Text

namespace Query

open Time

/-! ## Search texts -/

section

variable {names : CharNames} {text : WireText}

end

end Query

namespace Gateway

open Query Rpc Time Tool

end Gateway

end HostMonitor
