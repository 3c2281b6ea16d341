import SignedResponse.Text.Utf8

/-!
What is visible of a text on a terminal.

An escape character starts a sequence that a terminal acts on and does not show, and all other
control characters but four blanks are not shown either. Outside of sequences everything else is
visible (`visible_eq_self`).
-/

namespace SignedResponse.Terminal

inductive State where
  | ground
  | escape
  | escapeMarks
  | control
  | device
  | deviceNumbers
  | deviceMarks
  | string
  | command
deriving DecidableEq

namespace State

/-- The state after a character that is not shown. A sequence ends early at another escape
character, which starts one, or at one of the two characters that cancel it. A string also ends at
the byte 9C, within a character too. -/
def after (state : State) (char : Char) : State :=
  let code := char.toNat
  let isMark : Bool := 0x20 ≤ code && code ≤ 0x2F
  if code = 0x1B then .escape
  else if code = 0x18 ∨ code = 0x1A then .ground
  else match state with
    | .ground => .ground
    | .escape =>
        if isMark then .escapeMarks
        else if char = '[' then .control
        else if char = ']' then .command
        else if char = 'P' then .device
        else if char = 'X' ∨ char = '^' ∨ char = '_' then .string
        else if 0x30 ≤ code ∧ code ≤ 0x7E then .ground else .escape
    | .escapeMarks => if 0x30 ≤ code ∧ code ≤ 0x7E then .ground else .escapeMarks
    | .control => if 0x40 ≤ code ∧ code ≤ 0x7E then .ground else .control
    | .device =>
        if isMark then .deviceMarks
        else if 0x30 ≤ code ∧ code ≤ 0x3F then .deviceNumbers
        else if 0x40 ≤ code ∧ code ≤ 0x7E then .string else .device
    | .deviceNumbers =>
        if isMark then .deviceMarks
        else if 0x3C ≤ code ∧ code ≤ 0x7E then .string else .deviceNumbers
    | .deviceMarks => if 0x30 ≤ code ∧ code ≤ 0x7E then .string else .deviceMarks
    | .string => if 0x9C ∈ Utf8.encode (String.singleton char) then .ground else .string
    | .command => if code = 0x07 then .ground else .command

def showsBlanks : State → Bool
  | .ground | .escape | .escapeMarks | .control => true
  | .device | .deviceNumbers | .deviceMarks | .string | .command => false

end State

def isBlank (char : Char) : Bool := char = '\t' || char = '\n' || char = '\x0c' || char = '\r'

def isShown (char : Char) : Bool := (0x20 ≤ char.toNat && char.toNat ≠ 0x7F) || isBlank char

/-- A terminal that reads a text. A blank that is shown within a sequence interrupts the sequence:
what follows is shown too, up to the next character that is not. -/
structure Reader where
  state : State := .ground
  showing : Bool := false
deriving DecidableEq

namespace Reader

def shows (reader : Reader) (char : Char) : Bool :=
  if reader.showing || reader.state = .ground then isShown char
  else reader.state.showsBlanks && isBlank char

def next (reader : Reader) (char : Char) : Reader :=
  if reader.shows char then ⟨if char.toNat < 0x80 then reader.state else .ground, true⟩
  else ⟨reader.state.after char, false⟩

def read (reader : Reader) : List Char → List Char
  | [] => []
  | char :: rest =>
      if reader.shows char then char :: (reader.next char).read rest
      else (reader.next char).read rest

end Reader

def visible (text : String) : String := String.ofList (({} : Reader).read text.toList)

example : ({} : Reader).read "a\x1b[1;31mb\x0b\n\x1b]0;c\x07d".toList = "ab\nd".toList := by
  decide

example : ({} : Reader).read "a\x1b[\tb\x01c".toList = "a\tb".toList := by decide

theorem read_eq_self {reader : Reader} (start : reader.state = .ground) {chars : List Char}
    (shown : ∀ char ∈ chars, isShown char = true) : reader.read chars = chars := by
  induction chars generalizing reader with
  | nil => rfl
  | cons char rest ih =>
      have head : reader.shows char = true := by
        simp [Reader.shows, start, shown char (by simp)]
      have state : (reader.next char).state = .ground := by
        simp [Reader.next, head, start]
      simp only [Reader.read, head, if_true]
      rw [ih state fun other member => shown other (by simp [member])]

theorem visible_eq_self {text : String} (shown : ∀ char ∈ text.toList, isShown char = true) :
    visible text = text := by
  rw [visible, read_eq_self rfl shown, String.ofList_toList]

end SignedResponse.Terminal
