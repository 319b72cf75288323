/-!
# JSON values

The values that arguments and results are made of.  Whole numbers are kept apart from numbers that
were written with a fraction or an exponent, because only the former count as line or column
numbers.
-/

namespace SpecScaffold

inductive Json where
  | null
  | bool (b : Bool)
  | int (n : Int)
  /-- A number with a fraction: `mantissa / 10 ^ places`. -/
  | decimal (mantissa : Int) (places : Nat)
  | str (s : String)
  | arr (items : List Json)
  | obj (fields : List (String × Json))
deriving Inhabited

namespace Json

/-! ## Looking at a value -/

/-- The field of an object; `null` if there is none or the value is not an object. -/
def field (key : String) : Json → Json
  | .obj fields => (fields.lookup key).getD .null
  | _ => .null

/-- The field of an object, if there is one. -/
def field? (key : String) : Json → Option Json
  | .obj fields => fields.lookup key
  | _ => none

def str? : Json → Option String
  | .str s => some s
  | _ => none

def bool? : Json → Option Bool
  | .bool b => some b
  | _ => none

/-- A whole number of 32 bits. -/
def word? : Json → Option Nat
  | .int n => if 0 ≤ n ∧ n < 4294967296 then some n.toNat else none
  | _ => none

/-- A list of strings and nothing else. -/
def strings? : Json → Option (List String)
  | .arr items => items.mapM str?
  | _ => none

/-- The strings of a list, whatever else is in it. -/
def someStrings? : Json → Option (List String)
  | .arr items => some (items.filterMap str?)
  | _ => none

/-- Reads a value that may be `null`. -/
def nullable? {α : Type} (read : Json → Option α) : Json → Option (Option α)
  | .null => some none
  | value => (read value).map some

/-! ## Building a value -/

def ofNat (n : Nat) : Json :=
  .int n

def ofOption {α : Type} (encode : α → Json) : Option α → Json
  | none => .null
  | some a => encode a

def ofStrings (ss : List String) : Json :=
  .arr (ss.map .str)

end Json

end SpecScaffold
