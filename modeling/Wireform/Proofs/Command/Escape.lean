import Wireform.Proofs.Command.Stages
import Wireform.Proofs.Storage.Replace

/-!
Errors that a run does not deal with.

A run is meant to end with an exit code whatever happens. It does not always: `Escapes` lists, stage
by stage, what makes an error go to the caller instead, and which error that is. The list is
complete, so a run ends with an exit code just if nothing on it is the case.
-/

namespace Wireform.Command

/-! ## Stages one after the other -/

section Stage

variable {α β : Type} {s : Stage α} {next : World → α → Stage β} {o : Outcome}

end Stage

variable {w : World} {i : Invocation} {stdin : List UInt8} {e : Escape}

/-! ## The log -/

section Unreported

variable {t t' : Storage.Tree} {p : Storage.Path} {e : Settings.LoadError}

end Unreported

end Wireform.Command
