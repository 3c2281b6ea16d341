import Mathlib.Tactic.Common
import SignedResponse.Cli.Run

/-!
What a run shows: printed lines, the error stream and the exit code.

Events of the log stand between the lines of the output and change nothing of this, so each step of
a run has one law that says what it adds, whatever is logged on the way.
-/

namespace SignedResponse.Cli

/-- What a run tells its user, the log left out. -/
structure Shown where
  lines : List String := []
  errors : List String := []
  exitCode : Nat := 0

namespace Output

def line? : Output → Option String
  | .line text => some text
  | .event _ _ => none

end Output

namespace Report

def shown (report : Report) : Shown where
  lines := report.output.filterMap Output.line?
  errors := report.errors
  exitCode := report.exitCode

end Report

variable {Outside Value Other : Type}

def runFrom (program : StateT Report (StateM Outside) Value) (report : Report) (before : Outside) :
    (Value × Report) × Outside :=
  (program.run report).run before

theorem run_from_bind (program : StateT Report (StateM Outside) Value)
    (next : Value → StateT Report (StateM Outside) Other) (report : Report) (before : Outside) :
    runFrom (program >>= next) report before =
      let ran := runFrom program report before
      runFrom (next ran.1.1) ran.1.2 ran.2 :=
  rfl

end SignedResponse.Cli
