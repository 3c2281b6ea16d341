/-!
Diagnostics: what is said and how severe it is, and a journal that keeps them in order.
-/

namespace SignedResponse

inductive Level where
  | error
  | warn
  | info
  | debug
  | trace
deriving DecidableEq, Repr

namespace Level

def text : Level → String
  | .error => "ERROR"
  | .warn => "WARN"
  | .info => "INFO"
  | .debug => "DEBUG"
  | .trace => "TRACE"

/-- How much detail a level admits: 1 for errors only, 5 for everything. -/
def detail : Level → Nat
  | .error => 1
  | .warn => 2
  | .info => 3
  | .debug => 4
  | .trace => 5

end Level

structure LogRecord where
  level : Level
  message : String
deriving DecidableEq

structure Journal where
  records : List LogRecord := []
deriving DecidableEq

namespace Journal

def empty : Journal := {}

def log (journal : Journal) (record : LogRecord) : Journal :=
  { journal with records := journal.records ++ [record] }

def isEmpty (journal : Journal) : Bool := journal.records.isEmpty

def occursIn (needle : List Char) : List Char → Bool
  | [] => needle.isEmpty
  | char :: rest => needle.isPrefixOf (char :: rest) || occursIn needle rest

def contains (journal : Journal) (level : Level) (needle : String) : Bool :=
  journal.records.any fun record =>
    record.level == level && occursIn needle.toList record.message.toList

theorem records_log (journal : Journal) (record : LogRecord) :
    (journal.log record).records = journal.records ++ [record] := rfl

end Journal

end SignedResponse
