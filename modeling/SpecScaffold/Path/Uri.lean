import SpecScaffold.Path.Basic
import SpecScaffold.Text.Bytes
import SpecScaffold.Text.Hex

/-!
# File URIs

The URI of an absolute path: every name is percent-encoded byte by byte, with upper-case digits, for
control characters, bytes outside ASCII, the blank and the characters that have a meaning in a URI.
-/

namespace SpecScaffold.Path

/-- Whether a byte of a name is written as it is. -/
def staysRaw (b : UInt8) : Bool :=
  0x20 < b.toNat && b.toNat < 0x7F &&
    !("\"#<>?`\x7b\x7d%/\\".toList.map Char.toNat).contains b.toNat

/-- One byte of a name in a URI. -/
def encodeByte (b : UInt8) : List Char :=
  if staysRaw b then [Char.ofNat b.toNat]
  else '%' :: (Text.hexPair b.toNat).map Char.toUpper

/-- One name of a path in a URI. -/
def encodeName (name : String) : List Char :=
  (Text.utf8 name.toList).flatMap encodeByte

/-- The URI of the file with these names below the root. -/
def fileUri (names : List String) : String :=
  "file://" ++ String.ofList (match names with
    | [] => ['/']
    | names => names.flatMap fun name => '/' :: encodeName name)

end SpecScaffold.Path
