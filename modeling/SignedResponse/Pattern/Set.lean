import SignedResponse.Pattern.Atom
import SignedResponse.Pattern.Row

/-!
The bracketed sets of a pattern.

A set has characters, ranges of them, named sets and other bracketed sets as its elements, and
operators between rows of elements. It may be about all characters but those; where a pattern is
about bytes it may not, for the bytes beyond ASCII are no characters.
-/

namespace SignedResponse.Pattern

/-! ## Elements -/

namespace Atom

def isElement (mode : Mode) : Atom → Bool
  | literal char _ => mode.admits char true
  | shorthand => true
  | anchor | wordEdge => false

def isRange (mode : Mode) : Atom → Atom → Bool
  | literal first _, literal last _ =>
      first ≤ last && mode.admits first true && mode.admits last true
  | _, _ => false

end Atom

def setNames : List String :=
  ["alnum", "alpha", "ascii", "blank", "cntrl", "digit", "graph", "lower", "print", "punct",
    "space", "upper", "word", "xdigit"]

def readNamedSet : List Char → Option (Bool × List Char)
  | ':' :: rest =>
      let (negated, rest) := match rest with
        | '^' :: rest => (true, rest)
        | _ => (false, rest)
      let name := rest.takeWhile (· ≠ ':')
      match rest.drop name.length with
      | ':' :: ']' :: rest =>
          if String.ofList name ∈ setNames then some (negated, rest) else none
      | _ => none
  | _ => none

/-- Reads a character, an escape or a range, and gives the text after it. A dash before a closing
bracket or another dash makes no range. -/
def readElement (mode : Mode) (text : List Char) : Option (List Char) := do
  let (first, rest) ← Atom.read mode text
  match mode.skip rest with
  | '-' :: after =>
      if mode.peek after = some ']' ∨ mode.peek after = some '-' then
        if first.isElement mode then some ('-' :: after) else none
      else
        let (last, rest) ← Atom.read mode (mode.skip after)
        if first.isRange mode last then some rest else none
  | rest => if first.isElement mode then some rest else none

/-! ## Sets -/

structure OpenSet where
  elements : Row := {}
  /-- The depth of what stands before the last operator. -/
  operand : Option Nat := none
  /-- Whether only dashes have been read. Dashes are elements there, and after no dash a closing
  bracket is one too. -/
  opening : Bool := true
deriving DecidableEq

namespace OpenSet

def add (set : OpenSet) (depth : Nat) : OpenSet :=
  { set with elements := set.elements.add depth, opening := false }

/-- The depth of what the set consists of so far. An operator is one level above its operands. -/
def content (set : OpenSet) : Nat :=
  match set.operand with
  | none => set.elements.depth
  | some depth => max depth set.elements.depth + 1

def afterOperator (set : OpenSet) : OpenSet := ⟨{}, some set.content, false⟩

def leads (set : OpenSet) (char : Char) : Bool :=
  set.opening && (char = '-' || char = ']' && set.elements.count = 0)

def start? (mode : Mode) (text : List Char) : Option (List Char) :=
  match mode.skip text with
  | '^' :: rest => if mode.ofCharacters then some rest else none
  | rest => some rest

def admitsNamed (mode : Mode) (negated : Bool) : Bool :=
  if mode.ofCharacters then !mode.ignoresCase else !negated

/-- Reads on in a set and those around it up to the last closing bracket. The result is the depth
of the outermost one, and the text after it. Each step reads at least one character, so that the
length of the text is enough fuel. -/
def read (mode : Mode) : Nat → OpenSet → List OpenSet → List Char → Option (Nat × List Char)
  | 0, _, _, _ => none
  | fuel + 1, set, around, text =>
      match mode.skip text with
      | [] => none
      | char :: rest =>
          if set.leads char then
            if mode.admits char true then
              read mode fuel { set.add 0 with opening := char = '-' } around rest
            else none
          else
            match char, rest with
            | ']', _ =>
                match around with
                | [] => some (set.content + 1, rest)
                | outer :: around => read mode fuel (outer.add (set.content + 1)) around rest
            | '&', '&' :: rest | '-', '-' :: rest | '~', '~' :: rest =>
                read mode fuel set.afterOperator around rest
            | '[', _ =>
                match readNamedSet rest with
                | some (negated, rest) =>
                    if admitsNamed mode negated then read mode fuel (set.add 0) around rest
                    else none
                | none =>
                    match start? mode rest with
                    | some rest => read mode fuel {} (set :: around) rest
                    | none => none
            | _, _ =>
                match readElement mode (char :: rest) with
                | some rest => read mode fuel (set.add 0) around rest
                | none => none

end OpenSet

def readSet (mode : Mode) (text : List Char) : Option (Nat × List Char) := do
  let text ← OpenSet.start? mode text
  OpenSet.read mode (text.length + 1) {} [] text

example : readSet {} "]a-c&&[^[:alpha:]-]]b".toList = some (4, ['b']) := by decide

end SignedResponse.Pattern
