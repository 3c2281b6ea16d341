import SignedResponse.Text.Hex
import SignedResponse.Text.HiddenTable
import SignedResponse.Text.Ranges

/-!
Text in quotation marks, as diagnostics show it.

Quotation marks and backslashes get a backslash, four control characters a letter, and what would
not show at all its number in braces.
-/

namespace SignedResponse.Quoted

def escape (char : Char) : List Char :=
  if char = '"' then ['\\', '"']
  else if char = '\\' then ['\\', '\\']
  else if char = '\n' then ['\\', 'n']
  else if char = '\r' then ['\\', 'r']
  else if char = '\t' then ['\\', 't']
  else if char.toNat = 0 then ['\\', '0']
  else if Ranges.contains HiddenTable.ranges char.toNat then
    '\\' :: 'u' :: '\x7b' :: Hex.digits char.toNat ++ ['\x7d']
  else [char]

def quote (text : String) : String :=
  String.ofList ('"' :: text.toList.flatMap escape ++ ['"'])

example : "a\"\n\u00ad".toList.flatMap escape = "a\\\"\\n\\u\x7bad\x7d".toList := by decide

end SignedResponse.Quoted
