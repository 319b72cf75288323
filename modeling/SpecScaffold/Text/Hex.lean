/-!
# Hexadecimal digits
-/

namespace SpecScaffold.Text

/-- A digit below sixteen in lower case. -/
def hexDigit (n : Nat) : Char :=
  Char.ofNat (if n < 10 then 48 + n else 87 + n)

/-- A number below 256 as two digits. -/
def hexPair (n : Nat) : List Char :=
  [hexDigit (n / 16), hexDigit (n % 16)]

end SpecScaffold.Text
