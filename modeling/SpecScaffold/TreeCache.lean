import SpecScaffold.Language
import SpecScaffold.Path.Basic
import SpecScaffold.Source.Basic

/-!
# The tree cache

Trees of files that have been parsed, by the components of their paths.  An entry is used again only
for the same text in the same language, so a tree never meets a text that it was not parsed from.
-/

namespace SpecScaffold

/-- The tree of a text in a language.  Every text has one, with error nodes where it is not code, so
loading a source never ends in `Error.parse`. -/
abbrev Parser := Language → String → Node

/-- A source and the language it was parsed in. -/
structure Parsed where
  source : Source
  language : Language

structure TreeCache where
  entries : List (List Component × Parsed) := []

namespace TreeCache

def get? (c : TreeCache) (p : Path) : Option Parsed :=
  c.entries.lookup p.components

/-- Drops the entry of a path. -/
def forget (c : TreeCache) (p : Path) : TreeCache :=
  ⟨c.entries.filter fun e => e.1 != p.components⟩

/-- Stores an entry in the place of an earlier one of the same path. -/
def put (c : TreeCache) (p : Path) (entry : Parsed) : TreeCache :=
  ⟨(p.components, entry) :: (c.forget p).entries⟩

def size (c : TreeCache) : Nat :=
  c.entries.length

/-- The entry of a path, if it is of that text in that language. -/
def fresh? (c : TreeCache) (p : Path) (text : String) (language : Language) : Option Parsed :=
  (c.get? p).filter fun entry => entry.source.text == text && entry.language == language

/-- The entry of a text, parsed only if there is none, and the cache that holds it. -/
def parse (c : TreeCache) (parser : Parser) (p : Path) (text : String) (language : Language) :
    Parsed × TreeCache :=
  match c.fresh? p text language with
  | some entry => (entry, c)
  | none =>
    let entry : Parsed := ⟨⟨text, parser language text⟩, language⟩
    (entry, c.put p entry)

end TreeCache

end SpecScaffold
