import SpecScaffold.Workspace.FileError

/-!
# Failures of the commands

Every failure is one that the user is told about.  Some only inform: nothing went wrong, there was
nothing to generate.
-/

namespace SpecScaffold

inductive Error where
  | unsupportedFileKind (command path : String)
  | specFileRefused (path : String)
  | noAnalyzableNode (command : String)
  | noMethodsFound
  | emptyExtraction (path : String)
  | targetWriteFailure (command target : String) (cause : FileError) (report : String)
  | invalidArgument (name : String)
  | read (path : String) (cause : FileError)
  | parse (path message : String)
  | unexpected (command report : String)
deriving DecidableEq, Repr

namespace Error

/-- The wording of a failure. -/
def message : Error → String
  | .unsupportedFileKind command path =>
    "'" ++ command ++ "' only supports JavaScript or TypeScript files (" ++ path ++ ")."
  | .specFileRefused path => "Spec files cannot be mocked (" ++ path ++ ")."
  | .noAnalyzableNode command =>
    "Sorry! '" ++ command ++ "' wasn't able to produce spec at the current caret position."
  | .noMethodsFound => "No methods found."
  | .emptyExtraction path => "No constructor or methods found in " ++ path ++ "."
  | .targetWriteFailure command target cause report =>
    "Sorry! '" ++ command ++ "' could not write specs to " ++ target ++ ": " ++ cause.message ++
      "\n\nDiagnostic report:\n" ++ report
  | .invalidArgument name => "Missing or invalid '" ++ name ++ "' argument"
  | .read path cause => "Failed to read file " ++ path ++ ": " ++ cause.message
  | .parse path message => "Failed to parse " ++ path ++ ": " ++ message
  | .unexpected command report =>
    "Sorry! '" ++ command ++ "' encountered an error.\n\nDiagnostic report:\n" ++ report

/-- Whether a failure only informs the user. -/
def onlyInforms : Error → Bool
  | .specFileRefused _ => true
  | .noAnalyzableNode _ => true
  | .noMethodsFound => true
  | .emptyExtraction _ => true
  | _ => false

end Error

end SpecScaffold
