import SpecScaffold.Config
import SpecScaffold.Path.Basic
import SpecScaffold.Workspace.Basic

/-!
# Companion test files

A source file `D/B.E` has a companion `D/B<suffix>.E` for every suffix.  Tests go to the first
companion that exists among those with a suffix other than the default, and to the default one
otherwise.
-/

namespace SpecScaffold.Companion

/-- Whether a path names a test file. -/
def isTestFile (config : Config) (p : Path) : Bool :=
  p.stem?.any fun stem =>
    config.specSuffixes.any fun suffix => suffix.toList.isSuffixOf stem.toList

/-- The companion of a source file with a suffix. -/
def path (source : Path) (suffix : String) : Path :=
  source.withFileName (source.stem?.getD "" ++ suffix ++ source.dottedExtension)

/-- The companions that are looked for before the default one. -/
def alternatives (config : Config) (source : Path) : List Path :=
  (config.specSuffixes.filter (· != config.newFileSuffix)).map (path source)

/-- The companion that tests of a source file go to. -/
def target (w : Workspace) (config : Config) (source : Path) : Path :=
  ((alternatives config source).find? w.exists?).getD (path source config.newFileSuffix)

end SpecScaffold.Companion
