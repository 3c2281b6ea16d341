import SignedResponse.Text.CaseTable
import SignedResponse.Text.Ranges

/-!
Lower-case forms of text in all scripts.

Each character has its own form, with one exception: a sigma that ends a word has another form
than one within it.
-/

namespace SignedResponse.Lowercase

def ofChar (char : Char) : List Char :=
  if char.toNat = 0x130 then ['i', '\u0307']
  else
    match CaseTable.runs.find? fun run => run.first ≤ char.toNat && char.toNat ≤ run.last with
    | some run =>
        if (char.toNat - run.first) % run.step = 0 then
          [Char.ofNat (run.lower + (char.toNat - run.first))]
        else [char]
    | none => [char]

def startsCased (chars : List Char) : Bool :=
  match chars.dropWhile fun char => Ranges.contains CaseTable.caseIgnorable char.toNat with
  | char :: _ => Ranges.contains CaseTable.cased char.toNat
  | [] => false

/-- The lower-case form of a sigma; `before` is the text before it, the last character first. -/
def sigma (before after : List Char) : Char :=
  if startsCased before && !startsCased after then 'ς' else 'σ'

/-- The lower-case form of the text that follows `before`, which is given last character first. -/
def following (before : List Char) : List Char → List Char
  | [] => []
  | char :: rest =>
      (if char = 'Σ' then [sigma before rest] else ofChar char) ++ following (char :: before) rest

def ofChars (chars : List Char) : List Char := following [] chars

example : ofChars ['Σ', 'Α', 'Σ'] = ['σ', 'α', 'ς'] := by decide

end SignedResponse.Lowercase
