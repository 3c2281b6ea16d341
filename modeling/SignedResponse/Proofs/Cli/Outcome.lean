import SignedResponse.Crypto.Ed25519
import SignedResponse.Proofs.Capture.Overflow
import SignedResponse.Proofs.Cli.CommandLine
import SignedResponse.Proofs.Cli.Run

/-!
What a run of the program comes to, for every file, key, time and mode.

The exit code tells which of three things has happened, so that whoever starts the program need not
read what it prints.
-/

namespace SignedResponse.Cli

variable {Outside : Type} (scheme : SignatureScheme) (world : World (StateM Outside))
variable (before : Outside)

end SignedResponse.Cli
