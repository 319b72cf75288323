import SpecScaffold.Text.Lines
import SpecScaffold.Text.Quoted

/-!
# Diagnostic reports

What a user is asked to pass on when a command fails: where it ran, which command it was and what
went wrong, as an indented JSON object.
-/

namespace SpecScaffold

/-- The machine that a command runs on. -/
structure Host where
  platform : String
  arch : String

structure Report where
  host : Host
  command : String
  error : String

namespace Report

open Text

def version : String := "0.1.0"

/-- The entries of a report in the order in which they are written. -/
def entries (r : Report) : List (String × String) :=
  [("platform", r.host.platform), ("arch", r.host.arch), ("version", version),
    ("command", r.command), ("error", r.error)]

/-- One entry of an indented object. -/
def entryText (entry : String × String) : List Char :=
  "  ".toList ++ quoted entry.1.toList ++ ": ".toList ++ quoted entry.2.toList

/-- The report as an indented JSON object. -/
def render (r : Report) : String :=
  String.ofList ("\x7b\n".toList ++ joined ",\n".toList (r.entries.map entryText) ++
    "\n\x7d".toList)

end Report

end SpecScaffold
