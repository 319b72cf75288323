/-!
# Glob patterns

A pattern is a list of tokens that is matched against the bytes of a whole path.  A star matches any
bytes, slashes included; two stars stand for directories only next to slashes, where the three
tokens `anyDirs`, `underneath` and `between` take the place of the stars and the slashes beside
them.
-/

namespace SpecScaffold.Glob

/-- One element of a pattern. -/
inductive Token where
  /-- A character that stands for itself. -/
  | literal (c : Char)
  /-- `?`: one byte. -/
  | any
  /-- `*`: any number of bytes. -/
  | run
  /-- `**/` at the start: any number of directories, none included. -/
  | anyDirs
  /-- `/**` at the end: everything below a directory. -/
  | underneath
  /-- `/**/` in the middle: a slash, with any number of directories after it. -/
  | between
  /-- `[a-z]`: one byte of the ranges, or, negated, one byte outside them. -/
  | oneOf (negated : Bool) (ranges : List (Char × Char))
  /-- `{a,b}`: one of the patterns. -/
  | either (branches : List (List Token))

/-- A pattern that has been read. -/
structure Pattern where
  tokens : List Token

/-- Why a text is not a pattern. -/
inductive Fault where
  | unclosedSet
  | reversedRange
  | unclosedBranches
  | strayClosing
  | danglingEscape
deriving DecidableEq, Repr

end SpecScaffold.Glob
