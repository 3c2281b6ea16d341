import Mathlib.Data.List.TakeWhile
import SignedResponse.Cli.Arguments

/-!
Command lines that ask for given things.

Whatever a run can be asked for, some command line asks for it: each option takes its value after an
equals sign, so that the value may be any text, and the operand stands after `--`, so that it may be
any name but the empty one.
-/

namespace SignedResponse

theorem Utf8.decode_encode (text : String) : Utf8.decode? (Utf8.encode text) = some text := by
  simp only [decode?, encode, Array.toArray_toList]
  exact dif_pos text.isValidUTF8

namespace Cli

def Switch.alone (switch : Switch) : List UInt8 :=
  Progress.dash :: Progress.dash :: Utf8.encode switch.name

namespace Arguments

end Arguments

namespace Switch

end Switch

namespace Progress

variable {progress : Progress} {switch : Switch} {value : String}

variable {arguments : Arguments} {given : List Switch}

end Progress

end Cli

end SignedResponse
