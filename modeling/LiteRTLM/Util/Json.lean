/-!
Contract: JSON values as `nlohmann::ordered_json` holds them.

Owns: the values, over the type of their numbers; the members of an object keep their
order.

Does not own: the text of a value, which belongs to the parsers and formatters.
-/

namespace LiteRTLM.Util

/-- A string as its characters. -/
abbrev Text := List Char

inductive Json (Number : Type) where
  | null
  | boolean (value : Bool)
  | number (value : Number)
  | string (value : Text)
  | array (elements : List (Json Number))
  | object (members : List (Text × Json Number))

/-- `dump()` of an integer. -/
def dumpInt (value : Int) : Text :=
  if value < 0 then '-' :: Nat.toDigits 10 value.natAbs else Nat.toDigits 10 value.natAbs

theorem isDigit_of_mem_toDigits {value : Nat} {letter : Char}
    (member : letter ∈ Nat.toDigits 10 value) : letter.isDigit = true :=
  Nat.isDigit_of_mem_toDigits (by decide) (by decide) member

end LiteRTLM.Util
