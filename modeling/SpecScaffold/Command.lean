import SpecScaffold.Error
import SpecScaffold.Report

/-!
# Running a command

A command ends with a value, with a failure of its own, or with a fault: something that should not
have happened.  `Command.run` is the border at which a fault becomes a failure with a report, so
that a fault never leaves the program.
-/

namespace SpecScaffold

/-- How a command ended. -/
inductive Attempt (α : Type) where
  | done (value : α)
  | failed (error : Error)
  /-- A fault, with its message if it has one. -/
  | fault (message? : Option String)

/-- The result of a command, with a fault turned into a report. -/
def Command.run {α : Type} (host : Host) (command : String) : Attempt α → Except Error α
  | .done value => .ok value
  | .failed error => .error error
  | .fault message? =>
    .error (.unexpected command (Report.render ⟨host, command, message?.getD "unknown panic"⟩))

end SpecScaffold
