import HtGate.Proofs.Evaluation
import HtGate.Proofs.Files
import HtGate.Proofs.Access.Consulting
import HtGate.Proofs.Access.Reach
/-!
# Where evaluations break down

A configuration that is read need not come to a report for every request. What a statement says is looked at
only when a request comes for which it counts, and some of it can then not be dealt with: a pattern with too
many repetitions, hosts with too many digits, a file name with U+0000, a lifetime that ends in no year. The
request may bring such things too. Where there is nothing of the kind, there is a report.

A limit on how deeply blocks may stand in one another is left out. A stack that holds a bounded number of calls
overflows on about a thousand of them; the limit that follows from it is stated for the groups of a pattern
(`Pattern.maxDepth`) and for the values in the body of a request (`Web.Body.maxNesting`), while configurations
are read, selected and decided by to any depth. But for that limit these are all the reasons.
-/

namespace HtGate

open Access (addressAnswer course)
open Authentication (Setup)
open Directive (Everywhere)

variable {world : Surroundings} {ds : List Directive} {s : Session} {fault : Fault}

namespace Authentication

variable {verify : Verifier} {files : Files} {header : Option Text}

end Authentication

namespace Access

end Access

namespace GuardPolicy

variable {policy : GuardPolicy}

end GuardPolicy

namespace Expires

variable {now : Rat}

end Expires

namespace Selection

variable {modules : Modules}

end Selection

namespace Evaluation

end Evaluation

namespace Obstacle

end Obstacle

namespace Breakdown

end Breakdown

namespace Report

end Report

end HtGate
