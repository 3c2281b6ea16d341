import SignedResponse.Pattern.Set
import SignedResponse.Text.Letter

/-!
Which texts are patterns that can be used.

A pattern is a sequence of items, or several with bars between them. An item is an atom, a set or a
group, and may be repeated. No text is ever compared with a pattern here, so all that is kept of one
is how deep its parts lie in one another and whether it asks for an edge of a word. Patterns stand
in braces, and so hold no closing one: counts and numbers in braces are never complete.
-/

namespace SignedResponse.Pattern

inductive Fault where
  /-- It is no pattern at all, or needs more of Unicode than is known. -/
  | unreadable
  | wordEdge
deriving DecidableEq

namespace Fault

def message : Fault → String
  | unreadable => "error building NFA"
  | wordEdge => "unsupported regex feature for DFAs: cannot build DFAs for regexes with Unicode " ++
      "word boundaries; switch to ASCII word boundaries, or heuristically enable Unicode word " ++
      "boundaries or use a different regex engine"

end Fault

def maxDepth : Nat := 250

/-! ## Groups -/

/-- A group that has not been closed yet, or the pattern as a whole. -/
structure OpenGroup where
  branches : Row := {}
  items : Row := {}
  /-- The depth of the item before, if there is one that may be repeated. -/
  last : Option Nat := none
  outer : Mode := {}
deriving DecidableEq

namespace OpenGroup

def add (group : OpenGroup) (depth : Nat) : OpenGroup :=
  { group with items := group.items.add depth, last := some depth }

def addFlags (group : OpenGroup) : OpenGroup :=
  { group with items := group.items.add 0, last := none }

def repeat? (group : OpenGroup) : Option OpenGroup :=
  group.last.map fun depth =>
    { group with items := group.items.deepen depth, last := some (depth + 1) }

def branch (group : OpenGroup) : OpenGroup :=
  { group with branches := group.branches.add group.items.depth, items := {}, last := none }

def content (group : OpenGroup) : Nat := (group.branches.add group.items.depth).depth

end OpenGroup

def isGroupName : List Char → Bool
  | [] => false
  | first :: rest =>
      (first = '_' || Letter.isLetter first) &&
        rest.all fun char => char ∈ ['_', '.', '[', ']'] || Letter.isLetterOrNumber char

/-! ## Reading -/

structure Progress where
  mode : Mode := {}
  group : OpenGroup := {}
  around : List OpenGroup := []
  names : List (List Char) := []
  hasWordEdge : Bool := false
deriving DecidableEq

namespace Progress

def add (progress : Progress) (depth : Nat) : Progress :=
  { progress with group := progress.group.add depth }

def enter (progress : Progress) (mode : Mode) : Progress :=
  { progress with
    mode
    group := { outer := progress.mode }
    around := progress.group :: progress.around }

/-- The progress after the end of the innermost group. Flags within it do not count any more. -/
def leave? (progress : Progress) : Option Progress :=
  match progress.around with
  | [] => none
  | group :: around =>
      some { progress with
        mode := progress.group.outer
        group := group.add (progress.group.content + 1)
        around }

def enterNamed (progress : Progress) (text : List Char) : Option (Progress × List Char) :=
  let name := text.takeWhile (· ≠ '>')
  match text.drop name.length with
  | [] => none
  | _ :: rest =>
      if isGroupName name ∧ name ∉ progress.names then
        some ({ progress.enter progress.mode with names := name :: progress.names }, rest)
      else none

/-- Reads flags: those of a group, up to a colon, or those that count from there to the end of the
innermost group, up to a closing parenthesis. -/
def readFlags (progress : Progress) (text : List Char) : Option (Progress × List Char) := do
  let flags := text.takeWhile fun char => char ≠ ':' ∧ char ≠ ')'
  let mode ← progress.mode.afterFlags? flags
  match text.drop flags.length with
  | ':' :: rest => some (progress.enter mode, rest)
  | _ :: rest =>
      if flags = [] then none
      else some ({ progress with mode, group := progress.group.addFlags }, rest)
  | [] => none

def readGroup (progress : Progress) (text : List Char) : Option (Progress × List Char) :=
  match progress.mode.skip text with
  | '?' :: 'P' :: '<' :: rest | '?' :: '<' :: rest => progress.enterNamed rest
  | '?' :: rest => progress.readFlags rest
  | rest => some (progress.enter progress.mode, rest)

/-- The progress after an atom that is an item. -/
def addAtom (progress : Progress) : Atom → Option Progress
  | .literal char asByte =>
      if progress.mode.admits char asByte then some (progress.add 0) else none
  | .wordEdge =>
      let hasWordEdge := progress.hasWordEdge || progress.mode.ofCharacters
      some { progress.add 0 with hasWordEdge }
  | .shorthand | .anchor => some (progress.add 0)

/-- Reads what begins with a character that counts. Where the pattern is about bytes no point can
stand for one of them, which might be a part of a character. -/
def next (progress : Progress) (char : Char) (rest : List Char) :
    Option (Progress × List Char) :=
  match char with
  | '(' => progress.readGroup rest
  | ')' => progress.leave?.map (·, rest)
  | '|' => some ({ progress with group := progress.group.branch }, rest)
  | '[' => (readSet progress.mode rest).map fun (depth, rest) => (progress.add depth, rest)
  | '?' | '*' | '+' =>
      let rest := match rest with
        | '?' :: rest => rest
        | _ => rest
      progress.group.repeat?.map fun group => ({ progress with group }, rest)
  | '\x7b' => none
  | '.' => if progress.mode.ofCharacters then some (progress.add 0, rest) else none
  | '^' | '$' => some (progress.add 0, rest)
  | _ => do
      let (atom, rest) ← Atom.read progress.mode (char :: rest)
      return (← progress.addAtom atom, rest)

/-- Reads a text to its end, where all groups have to be closed. Each step reads at least one
character, so that the length of the text is enough fuel. -/
def read : Nat → Progress → List Char → Option Progress
  | 0, _, _ => none
  | fuel + 1, progress, text =>
      match progress.mode.skip text with
      | [] => if progress.around = [] then some progress else none
      | char :: rest =>
          match progress.next char rest with
          | some (progress, rest) => read fuel progress rest
          | none => none

end Progress

def fault? (text : List Char) : Option Fault :=
  match Progress.read (text.length + 1) {} text with
  | none => some .unreadable
  | some progress =>
      if maxDepth < progress.group.content then some .unreadable
      else if progress.hasWordEdge then some .wordEdge
      else none

example : fault? "(?x: a+? | (?<b>[^c]) ) # d".toList = none := by decide

example : fault? "(?i)a".toList = some .unreadable := by decide

example : fault? "\\b(?-u:\\w)".toList = some .wordEdge := by decide

end SignedResponse.Pattern
