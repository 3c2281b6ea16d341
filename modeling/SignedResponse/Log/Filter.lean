import SignedResponse.Log.Directive

/-!
Filters, which say how much detail a log shows about each event.

A filter is written as a list of directives with commas between them. Of several directives that
are about an event the most specific one counts.
-/

namespace SignedResponse

structure LogFilter where
  directives : List LogDirective
deriving DecidableEq

namespace LogFilter

/-- A filter from its text. With no directive at all nothing is shown. -/
def read (text : String) : Except FilterFault LogFilter := do
  let parts := (text.toList.splitOn ',').filter (· ≠ [])
  let directives ← parts.mapM fun part => LogDirective.read (String.ofList part)
  return ⟨if directives = [] then [{ detail := 0 }] else directives⟩

/-- A filter that shows a level and all that are more severe. -/
def upTo (level : Level) : LogFilter := ⟨[{ detail := level.detail }]⟩

/-- The directive that counts for an event; of equally specific ones the last. -/
def directiveFor? (filter : LogFilter) (event : LogEvent) : Option LogDirective :=
  (filter.directives.filter (·.covers event)).foldl
    (fun best directive => match best with
      | some other => if directive.supersedes other then some directive else some other
      | none => some directive) none

def admits (filter : LogFilter) (event : LogEvent) : Bool :=
  match filter.directiveFor? event with
  | some directive => event.level.detail ≤ directive.detail
  | none => false

end LogFilter

end SignedResponse
