import Std.Data.HashSet.Lemmas
import SignedResponse.Proofs.Capture.Document

/-!
Captures with more headers than there is room for.

Headers whose names are different and in small letters leave no room exactly when there are more of
them than a message can hold. There are documents that say so.
-/

namespace SignedResponse

namespace Capture

section Crowd

variable {size : Nat} (bound : size ≤ 456976)
include bound

end Crowd

end Capture

end SignedResponse
