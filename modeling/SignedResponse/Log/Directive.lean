import SignedResponse.Log.Condition
import SignedResponse.Log.Event
import SignedResponse.Text.Utf8

/-!
Directives, of which log filters consist.

A directive is a level for all events, or it says which events it is about and then a level:
`target[span{field=value}]=level`. A target stands for all targets that start with it. Each part can
be left out; without a level everything is shown.
-/

namespace SignedResponse

structure LogDirective where
  target : Option String := none
  span : Option String := none
  condition : Option LogCondition := none
  detail : Nat := 5
deriving DecidableEq

inductive FilterFault where
  | level
  | directive
  | condition (fault : Pattern.Fault)
deriving DecidableEq

namespace FilterFault

def message : FilterFault → String
  | .level => "error parsing level filter: expected one of \"off\", \"error\", \"warn\", " ++
      "\"info\", \"debug\", \"trace\", or a number 0-5"
  | .directive => "invalid filter directive"
  | .condition fault => "invalid field filter: " ++ fault.message

end FilterFault

namespace LogDirective

/-! ## Reading -/

/-- The detail that a level name in any letter case or a number up to five stands for. -/
def detail? (text : String) : Option Nat :=
  match Decimal.read? 6 text.toList with
  | some detail => some detail
  | none =>
      let names := ["off", "error", "warn", "info", "debug", "trace"]
      names.findIdx? fun name => name.toList = text.toList.map Char.toLower

/-- Whether a target may start so: with a letter or digit of any script or one of three marks. -/
def isStart (char : Char) : Bool :=
  char = '-' || char = ':' || char = '_' || Letter.isLetterOrNumber char

/-- A byte of a directive: the one that is looked at, and the one that is taken for it. -/
abbrev Cell := UInt8 × UInt8

def textOf (cells : List Cell) : String := Utf8.decodeLossy (cells.map (·.2))

/-- The cells before the first of some marks, the mark, and the cells after it. -/
def cut? (marks : List Char) (cells : List Cell) : Option (List Cell × Char × List Cell) :=
  let before := cells.takeWhile fun cell => !marks.any fun mark => mark.toUInt8 = cell.1
  match cells.drop before.length with
  | [] => none
  | (mark, _) :: after => some (before, Char.ofNat mark.toNat, after)

def withLevel (directive : LogDirective) (text : String) : Except FilterFault LogDirective :=
  if text = "" then .ok directive
  else
    match detail? text with
    | some detail => .ok { directive with detail }
    | none => .error .level

/-- Reads the brackets after the opening one, and a level after them, to which the bytes `tail`
belong too. The condition in the braces is read before anything after it. -/
def readBrackets (directive : LogDirective) (tail : List Cell) (cells : List Cell) :
    Except FilterFault LogDirective := do
  let some (name, mark, rest) := cut? [']', '\x7b'] cells | throw .directive
  let (directive, rest) ←
    if mark = ']' then pure ({ directive with span := some (textOf name) }, rest)
    else
      match cut? ['\x7d'] rest with
      | none | some ([], _, _) => throw .directive
      | some (text, _, rest) =>
          let condition ← (LogCondition.read (textOf text)).mapError .condition
          let span := if name = [] then none else some (textOf name)
          match rest with
          | bracket :: rest =>
              if bracket.1 = Char.toUInt8 ']' then
                pure ({ directive with span, condition := some condition }, rest)
              else throw .directive
          | [] => throw .directive
  match rest with
  | [] => return directive
  | sign :: level =>
      if sign.1 = Char.toUInt8 '=' then directive.withLevel (textOf (level ++ tail))
      else throw .directive

/-- One directive. Blanks around it do not help to find its parts, but they belong to them: the
parts are found as if the blanks were not there, and cut at the same places out of the text that
has them. -/
def read (text : String) : Except FilterFault LogDirective := do
  let trimmed := Blank.trim text.toList
  let bytes := Utf8.encode text
  let cells := (Utf8.encode (String.ofList trimmed)).zip bytes
  let tail := (bytes.drop cells.length).map fun byte => (byte, byte)
  match trimmed with
  | [] => throw .directive
  | '[' :: _ => readBrackets {} tail (cells.drop 1)
  | first :: _ =>
      if isStart first = false then throw .directive
      match cut? ['=', '['] cells with
      | some (target, '=', level) =>
          withLevel { target := some (textOf target) } (textOf (level ++ tail))
      | some (target, _, rest) => readBrackets { target := some (textOf target) } tail rest
      | none =>
          match detail? text with
          | some detail => return { detail }
          | none => return { target := some text }

/-! ## Use -/

/-- Whether the directive is about an event. No event of the program lies in a span, and only spans
are asked for the values of their fields. -/
def covers (directive : LogDirective) (event : LogEvent) : Bool :=
  (match directive.target with
    | none => true
    | some start => start.toList.isPrefixOf event.target.toList) &&
  directive.span.isNone &&
  (match directive.condition with
    | none => true
    | some condition => condition.value.isNone && event.fieldNames.contains condition.field)

def targetLength (directive : LogDirective) : Nat :=
  match directive.target with
  | none => 0
  | some target => target.length + 1

/-- Whether the directive counts rather than another one before it, when both are about an event:
it names more of the target or, when both name the same, has a condition, whose field is not before
the other's. -/
def supersedes (directive other : LogDirective) : Bool :=
  if directive.targetLength = other.targetLength then
    match other.condition, directive.condition with
    | none, _ => true
    | some _, none => false
    | some old, some new => !(new.field < old.field)
  else other.targetLength < directive.targetLength

end LogDirective

end SignedResponse
