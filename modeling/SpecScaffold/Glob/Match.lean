import SpecScaffold.Glob.Basic
import SpecScaffold.Text.Bytes

/-!
# Matching a pattern

A token leads from places in a text to places further on, and a pattern matches when it leads from
the start to the end.  The places of a text of `n` bytes are the `n + 1` gaps before, between and
after them; a set of places says of each gap whether it belongs to the set, so a match costs one
pass over the text for each token.  Ranges of a set are taken byte by byte: of a range between
characters of several bytes, only the last byte of the lower and the first byte of the upper end
span a range.

A path whose last name is `..` has no file name, so a pattern that is looked up by file name or
extension (`byName`) does not match it.
-/

namespace SpecScaffold.Glob

open Text

/-! ## Sets of bytes -/

/-- The ranges of bytes of a range of characters. -/
def byteRanges (r : Char × Char) : List (UInt8 × UInt8) :=
  let single := fun b => (b, b)
  if r.1 = r.2 then (utf8 [r.1]).map single
  else match (utf8 [r.1]).reverse, utf8 [r.2] with
    | lo :: los, hi :: his => los.reverse.map single ++ (lo, hi) :: his.map single
    | _, _ => []

/-- Whether a byte lies in one of the ranges or, if they are negated, in none. -/
def inSet (negated : Bool) (ranges : List (UInt8 × UInt8)) (b : UInt8) : Bool :=
  negated != ranges.any fun r => r.1 ≤ b && b ≤ r.2

def isSlash (b : UInt8) : Bool :=
  b == 0x2F

/-! ## Places -/

/-- A set of places in a text: the first element is for the place before the first byte, the last
one for the place after the last byte. -/
abbrev Places := List Bool

namespace Places

/-- The start of a text only. -/
def start (bs : List UInt8) : Places :=
  true :: bs.map fun _ => false

/-- No place of a text. -/
def nowhere (bs : List UInt8) : Places :=
  false :: bs.map fun _ => false

def union (ps qs : Places) : Places :=
  List.zipWith (· || ·) ps qs

/-- One byte further, over the bytes that pass the test. -/
def across (test : UInt8 → Bool) (bs : List UInt8) (ps : Places) : Places :=
  false :: List.zipWith (fun b p => p && test b) bs ps

/-- Any number of bytes further; `reached` says that a place before these is in the set. -/
def onwards (reached : Bool) : Places → Places
  | [] => []
  | p :: ps => (reached || p) :: onwards (reached || p) ps

/-- Over the bytes of a word. -/
def acrossWord (word bs : List UInt8) (ps : Places) : Places :=
  word.foldl (fun ps b => across (· == b) bs ps) ps

/-- Over any number of directories, none included. -/
def acrossDirs (bs : List UInt8) (ps : Places) : Places :=
  union ps (across isSlash bs (onwards false ps))

end Places

mutual

/-- Whether a token can take nothing but the empty text because it has no branch that is not empty.
-/
def Token.isVoid : Token → Bool
  | .either branches => branchesVoid branches
  | _ => false

/-- Whether all tokens of a branch are void. -/
def branchVoid : List Token → Bool
  | [] => true
  | t :: ts => t.isVoid && branchVoid ts

/-- Whether all branches are void. -/
def branchesVoid : List (List Token) → Bool
  | [] => true
  | b :: bs => branchVoid b && branchesVoid bs

end

mutual

/-- Where a token leads to from `ps`. -/
def Token.lead (bs : List UInt8) (ps : Places) : Token → Places
  | .literal c => Places.acrossWord (utf8 [c]) bs ps
  | .any => Places.across (fun _ => true) bs ps
  | .run => Places.onwards false ps
  | .anyDirs => Places.acrossDirs bs ps
  | .underneath => Places.onwards false (Places.across isSlash bs ps)
  | .between => Places.acrossDirs bs (Places.across isSlash bs ps)
  | .oneOf negated ranges => Places.across (inSet negated (ranges.flatMap byteRanges)) bs ps
  | .either branches => if branchesVoid branches then ps else leadEither bs ps branches

/-- Where the tokens of a branch lead to, one after the other. -/
def leadAll (bs : List UInt8) (ps : Places) : List Token → Places
  | [] => ps
  | t :: ts => leadAll bs (t.lead bs ps) ts

/-- Where one of the branches leads to; void branches do not count. -/
def leadEither (bs : List UInt8) (ps : Places) : List (List Token) → Places
  | [] => Places.nowhere bs
  | b :: branches =>
    if branchVoid b then leadEither bs ps branches
    else Places.union (leadAll bs ps b) (leadEither bs ps branches)

end

/-! ## Patterns -/

def Token.isLiteral : Token → Bool
  | .literal _ => true
  | _ => false

def Token.isChar (c : Char) : Token → Bool
  | .literal d => c == d
  | _ => false

/-- A literal that can stand in a file name. -/
def Token.inName (t : Token) : Bool :=
  t.isLiteral && !t.isChar '/'

/-- A literal that can stand in an extension. -/
def Token.inExtension (t : Token) : Bool :=
  t.inName && !t.isChar '.'

/-- Whether a pattern without its leading directories is a star and an extension. -/
def isExtension : List Token → Bool
  | .run :: .literal '.' :: ts => ts.all Token.inExtension
  | _ => false

/-- Whether a pattern without its leading directories is a literal text, or a star and one. -/
def isEnding : List Token → Bool
  | .run :: ts => ts.all Token.isLiteral
  | ts => ts.all Token.isLiteral

/-- Whether a pattern that ends in a dot is looked up by the file name or the extension of a path,
and not compared with the path or its end. -/
def byName (tokens : List Token) : Bool :=
  match tokens with
  | .anyDirs :: ts => ts.all Token.inName || isExtension ts || !isEnding ts
  | ts => isExtension ts || !isEnding ts

/-- Whether the last name of a path is `..`. -/
def endsInParent (bs : List UInt8) : Bool :=
  bs.reverse.takeWhile (fun b => !isSlash b) == [0x2E, 0x2E]

namespace Pattern

/-- Whether a pattern ends in a dot and compares it with a file name. -/
def needsName (p : Pattern) : Bool :=
  (match p.tokens.getLast? with
    | some t => t.isChar '.'
    | none => false) && byName p.tokens

/-- Whether the tokens of a pattern lead from the start of a text to its end. -/
def spans (p : Pattern) (bs : List UInt8) : Bool :=
  (leadAll bs (Places.start bs) p.tokens).getLast? == some true

/-- Whether a pattern matches the bytes of a path. -/
def matchesBytes (p : Pattern) (bs : List UInt8) : Bool :=
  match p.tokens with
  | [.anyDirs] => true
  | _ => p.spans bs && !(p.needsName && endsInParent bs)

/-- Whether a pattern matches a whole path. -/
def isMatch (p : Pattern) (path : String) : Bool :=
  p.matchesBytes (utf8 path.toList)

end Pattern

end SpecScaffold.Glob
