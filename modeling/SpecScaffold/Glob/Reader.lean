import SpecScaffold.Glob.Basic

/-!
# Reading a pattern

The text is first cut into marks, which settles escapes and sets of characters; then stars and
braces are resolved on the list of marks.  Both passes go once through their list.

A star next to another is resolved by its neighbours.  At the start of a pattern or branch, `**` is
`anyDirs` before a slash or the end.  After a slash it is `underneath` at the end of the pattern or
branch and `between` before another slash, and then replaces the slash before it.  Anywhere else it
is two plain stars.
-/

namespace SpecScaffold.Glob

/-! ## Marks -/

/-- What a piece of the text is before stars and braces are resolved. -/
inductive Mark where
  | plain (c : Char)
  | escaped (c : Char)
  | question
  | star
  | opening
  | closing
  | comma
  | set (negated : Bool) (ranges : List (Char × Char))

/-- A set of characters that is being read: its ranges so far, last one first. -/
structure OpenSet where
  negated : Bool
  ranges : List (Char × Char) := []
  /-- Nothing of the set has been read, so that a bracket or a dash stands for itself. -/
  first : Bool := true
  /-- A dash has been read that may extend the last range. -/
  dashed : Bool := false

/-- Where the reader stands in the text. -/
inductive Place where
  | outside
  | afterBackslash
  | afterBracket
  | inside (set : OpenSet)

/-- The mark of a character outside sets and escapes. -/
def Mark.ofChar : Char → Mark
  | '?' => .question
  | '*' => .star
  | '{' => .opening
  | '}' => .closing
  | ',' => .comma
  | c => .plain c

/-- The set at its closing bracket; a dash before the bracket stands for itself. -/
def OpenSet.close (s : OpenSet) : Mark :=
  .set s.negated (if s.dashed then ('-', '-') :: s.ranges else s.ranges).reverse

/-- The set with one more character, which ends the last range if a dash stands between; a range may
not run backwards. -/
def OpenSet.add (s : OpenSet) (c : Char) : Except Fault OpenSet :=
  match s.dashed, s.ranges with
  | true, (lo, _) :: ranges =>
    if c < lo then .error .reversedRange
    else .ok { s with ranges := (lo, c) :: ranges, first := false, dashed := false }
  | _, ranges => .ok { s with ranges := (c, c) :: ranges, first := false, dashed := false }

/-- Cuts a text into marks. -/
def marks : Place → List Char → Except Fault (List Mark)
  | .outside, [] => .ok []
  | .afterBackslash, [] => .error .danglingEscape
  | .afterBracket, [] => .error .unclosedSet
  | .inside _, [] => .error .unclosedSet
  | .outside, c :: cs =>
    if c = '\\' then marks .afterBackslash cs
    else if c = '[' then marks .afterBracket cs
    else (marks .outside cs).map (Mark.ofChar c :: ·)
  | .afterBackslash, c :: cs => (marks .outside cs).map (.escaped c :: ·)
  | .afterBracket, c :: cs =>
    if c = '!' || c = '^' then marks (.inside ⟨true, [], true, false⟩) cs
    else marks (.inside ⟨false, [(c, c)], false, false⟩) cs
  | .inside s, c :: cs =>
    if c = ']' && !s.first then (marks .outside cs).map (s.close :: ·)
    else if c = '-' && !s.first && !s.dashed then marks (.inside { s with dashed := true }) cs
    else match s.add c with
      | .error e => .error e
      | .ok s => marks (.inside s) cs

/-! ## Tokens -/

/-- An alternation that is being read: the tokens before it and its finished branches, both last one
first. -/
structure OpenBranches where
  before : List Token
  branches : List (List Token)

/-- The tokens of the branch that is being read, last one first, and the alternations around it,
innermost first. -/
structure Progress where
  tokens : List Token := []
  around : List OpenBranches := []

namespace Progress

def push (p : Progress) (t : Token) : Progress :=
  { p with tokens := t :: p.tokens }

/-- Two stars that stand for no directories. -/
def pushStars (p : Progress) : Progress :=
  (p.push .run).push .run

/-- Puts a token for directories in the place of the slash before it; directories already stand for
what follows them. -/
def replaceLast (p : Progress) (t : Token) : Progress :=
  match p.tokens with
  | .anyDirs :: _ => p
  | .underneath :: _ => p
  | _ :: before => { p with tokens := t :: before }
  | [] => p.push t

def openBranches (p : Progress) : Progress :=
  ⟨[], ⟨p.tokens, []⟩ :: p.around⟩

def closeBranches (p : Progress) : Except Fault Progress :=
  match p.around with
  | [] => .error .strayClosing
  | b :: around => .ok ⟨.either (p.tokens.reverse :: b.branches).reverse :: b.before, around⟩

def comma (p : Progress) : Progress :=
  match p.around with
  | [] => p.push (.literal ',')
  | b :: around => ⟨[], ⟨b.before, p.tokens.reverse :: b.branches⟩ :: around⟩

def finish (p : Progress) : Except Fault Pattern :=
  match p.around with
  | [] => .ok ⟨p.tokens.reverse⟩
  | _ :: _ => .error .unclosedBranches

end Progress

/-- What two stars stand for. -/
inductive Stars where
  /-- Any bytes. -/
  | plain
  /-- Directories at the start; a slash after the stars belongs to them. -/
  | leading
  /-- Directories after a slash, up to the end. -/
  | trailing
  /-- Directories between two slashes, both of which belong to the stars. -/
  | inner

/-- What two stars stand for between the character `prev` and the mark `next?`. -/
def Progress.stars (p : Progress) (prev : Option Char) (next? : Option Mark) : Stars :=
  let nested := !p.around.isEmpty
  let afterSlash := prev == some '/' || (nested && (prev == some ',' || prev == some '{'))
  match p.tokens, afterSlash, next? with
  | [], _, none => .leading
  | [], _, some (.plain '/') => .leading
  | [], _, _ => .plain
  | _, false, _ => .plain
  | _, true, none => .trailing
  | _, true, some (.plain '/') => .inner
  | _, true, some .comma => if nested then .trailing else .plain
  | _, true, some .closing => if nested then .trailing else .plain
  | _, true, _ => .plain

/-- Two stars read as `s`. -/
def Progress.pushDirs (p : Progress) : Stars → Progress
  | .plain => p.pushStars
  | .leading => p.push .anyDirs
  | .trailing => p.replaceLast .underneath
  | .inner => p.replaceLast .between

/-- Reads the tokens of a list of marks that follows the character `prev`. -/
def resolve (p : Progress) (prev : Option Char) : List Mark → Except Fault Pattern
  | [] => p.finish
  | .star :: .star :: .plain '/' :: ms =>
    match p.stars prev (some (.plain '/')) with
    | .plain => resolve (p.pushStars.push (.literal '/')) (some '/') ms
    | s => resolve (p.pushDirs s) (some '/') ms
  | .star :: .star :: ms => resolve (p.pushDirs (p.stars prev ms.head?)) (some '*') ms
  | .star :: ms => resolve (p.push .run) (some '*') ms
  | .question :: ms => resolve (p.push .any) (some '?') ms
  | .plain c :: ms => resolve (p.push (.literal c)) (some c) ms
  | .escaped c :: ms => resolve (p.push (.literal c)) (some c) ms
  | .set negated ranges :: ms => resolve (p.push (.oneOf negated ranges)) (some ']') ms
  | .opening :: ms => resolve p.openBranches (some '{') ms
  | .comma :: ms => resolve p.comma (some ',') ms
  | .closing :: ms =>
    match p.closeBranches with
    | .error e => .error e
    | .ok p => resolve p (some '}') ms

/-- Reads a pattern. -/
def Pattern.read (text : String) : Except Fault Pattern :=
  (marks .outside text.toList).bind (resolve {} none)

end SpecScaffold.Glob
