import SignedResponse.Config.Mode
import SignedResponse.Text.Terminal

/-!
The command line: its options, and what is said about arguments that do not fit.

An option takes its value from the same argument, after an equals sign, or from the next one. What
an option is given is looked at when the next option or operand comes, or the end; an argument that
is not known at all is told before that. After `--` everything is an operand.
-/

namespace SignedResponse.Cli

structure Arguments where
  capture : List UInt8
  publicKey : Option String := none
  now : Option String := none
  mode : Mode := .informational
  metrics : Bool := false
deriving DecidableEq

inductive Switch where
  | publicKey
  | now
  | mode
  | metrics
  | help
deriving DecidableEq

namespace Switch

def all : List Switch := [.publicKey, .now, .mode, .metrics, .help]

def name : Switch → String
  | .publicKey => "public-key"
  | .now => "now"
  | .mode => "mode"
  | .metrics => "metrics"
  | .help => "help"

def takesValue : Switch → Bool
  | .publicKey | .now | .mode => true
  | .metrics | .help => false

def usage : Switch → String
  | .publicKey => "--public-key <PUBLIC_KEY>"
  | .now => "--now <NOW>"
  | .mode => "--mode <MODE>"
  | .metrics => "--metrics"
  | .help => "--help"

end Switch

inductive UsageFault where
  | unexpected (argument : String)
  | missingValue (usage : String)
  | unneededValue (switch : Switch) (value : String)
  | repeated (switch : Switch)
  | badMode (text : String) (error : ConfigError)
  | missingCapture
  | notText
deriving DecidableEq

namespace UsageFault

def close (words : String) : List String :=
  [words ++ "\n\nFor more information, try '", Switch.help.usage, "'."]

def parts : UsageFault → List String
  | .unexpected argument => "unexpected argument '" :: argument :: close "' found"
  | .missingValue usage =>
      "a value is required for '" :: usage :: close "' but none was supplied"
  | .unneededValue switch value =>
      "unexpected value '" :: value :: "' for '" :: switch.usage ::
        close "' found; no more were expected"
  | .repeated switch =>
      "the argument '" :: switch.usage :: close "' cannot be used multiple times"
  | .badMode text error =>
      "invalid value '" :: text :: "' for '" :: Switch.mode.usage :: close ("': " ++ error.message)
  | .missingCapture => close "the following required arguments were not provided:\n  <CAPTURE>"
  | .notText => close "invalid UTF-8 was detected in one or more arguments"

/-- The message as far as it is visible on a terminal. A sequence for the terminal that one part
leaves open does not reach into the next. -/
def message (fault : UsageFault) : String :=
  String.join (fault.parts.map Terminal.visible)

end UsageFault

inductive Stop where
  | help
  | fault (fault : UsageFault)
deriving DecidableEq

inductive Pending where
  | nothing
  | switch (switch : Switch)
  | value (switch : Switch) (value : List UInt8)
  | operand (value : List UInt8)
deriving DecidableEq

structure Progress where
  arguments : Arguments := { capture := [] }
  given : List Switch := []
  pending : Pending := .nothing
  hasOperand : Bool := false
  operandsOnly : Bool := false
deriving DecidableEq

namespace Progress

def textOf (value : List UInt8) : Except Stop String :=
  match Utf8.decode? value with
  | some text => .ok text
  | none => .error (.fault .notText)

def assign (arguments : Arguments) (value : List UInt8) : Switch → Except Stop Arguments
  | .publicKey => return { arguments with publicKey := some (← textOf value) }
  | .now => return { arguments with now := some (← textOf value) }
  | .mode => do
      let text ← textOf value
      match Mode.ofText text with
      | .ok mode => return { arguments with mode }
      | .error error => throw (.fault (.badMode text error))
  | .metrics => return { arguments with metrics := true }
  | .help => throw .help

def accept (progress : Progress) (switch : Switch) (value : List UInt8) :
    Except Stop Progress := do
  if switch ∈ progress.given then throw (.fault (.repeated switch))
  return { progress with
    arguments := ← assign progress.arguments value switch
    given := switch :: progress.given }

def settle (progress : Progress) : Except Stop Progress :=
  let settled := { progress with pending := .nothing }
  match progress.pending with
  | .nothing => .ok settled
  | .switch switch => .error (.fault (.missingValue switch.usage))
  | .value switch value => settled.accept switch value
  | .operand [] => .error (.fault (.missingValue "<CAPTURE>"))
  | .operand value =>
      .ok { settled with arguments := { settled.arguments with capture := value } }

def unexpected (argument : List UInt8) : Except Stop Progress :=
  .error (.fault (.unexpected (Utf8.decodeLossy argument)))

def operand (progress : Progress) (argument : List UInt8) : Except Stop Progress := do
  if progress.hasOperand then unexpected argument
  else return { ← progress.settle with pending := .operand argument, hasOperand := true }

def dash : UInt8 := 0x2D

def equalsSign : UInt8 := 0x3D

def long (progress : Progress) (argument : List UInt8) : Except Stop Progress :=
  let name := argument.takeWhile (· ≠ equalsSign)
  let attached := argument.drop (name.length + 1)
  let hasValue := name.length < argument.length
  match Switch.all.find? fun switch => Utf8.encode switch.name = name with
  | none => unexpected ([dash, dash] ++ name)
  | some switch =>
      if switch.takesValue then do
        let settled ← progress.settle
        if hasValue then settled.accept switch attached
        else return { settled with pending := .switch switch }
      else if hasValue then
        .error (.fault (.unneededValue switch (Utf8.decodeLossy attached)))
      else do (← progress.settle).accept switch []

def short (progress : Progress) (first : UInt8) (rest : List UInt8) : Except Stop Progress :=
  if first = 0x68 then do (← progress.settle).accept .help []
  else
    let shown := match Utf8.headChar? first rest with
      | some letter => String.ofList [letter]
      | none => Utf8.decodeLossy (first :: rest)
    .error (.fault (.unexpected ("-" ++ shown)))

/-- An argument without a dash is the value of an option that waits for one, or an operand. -/
def plain (progress : Progress) (argument : List UInt8) : Except Stop Progress :=
  match progress.pending with
  | .switch switch => .ok { progress with pending := .value switch argument }
  | _ => progress.operand argument

def next (progress : Progress) (argument : List UInt8) : Except Stop Progress :=
  if progress.operandsOnly then progress.operand argument
  else
    match argument with
    | first :: second :: rest =>
        if first = dash ∧ second = dash then
          if rest = [] then .ok { progress with operandsOnly := true } else progress.long rest
        else if first = dash then progress.short second rest
        else progress.plain argument
    | _ => progress.plain argument

end Progress

namespace Arguments

/-- The arguments of a command line without the name of the program. -/
def read (arguments : List (List UInt8)) : Except Stop Arguments := do
  let progress ← (← arguments.foldlM Progress.next {}).settle
  if progress.hasOperand then return progress.arguments else throw (.fault .missingCapture)

end Arguments

end SignedResponse.Cli
