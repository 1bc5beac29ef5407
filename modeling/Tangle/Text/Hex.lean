/-
This file writes and reads hexadecimal digits. Writing uses lower case and a
fixed width; reading takes both cases.
-/

namespace Tangle.Text

/-- The last `width` hexadecimal digits of a number. -/
def hexFixed : (width : Nat) → Nat → List Char
  | 0, _ => []
  | width + 1, n => hexFixed width (n / 16) ++ [Nat.digitChar (n % 16)]

/-- The value of a hexadecimal digit. -/
def hexValue? (c : Char) : Option Nat :=
  if '0' ≤ c && c ≤ '9' then some (c.toNat - '0'.toNat)
  else if 'a' ≤ c && c ≤ 'f' then some (c.toNat - 'a'.toNat + 10)
  else if 'A' ≤ c && c ≤ 'F' then some (c.toNat - 'A'.toNat + 10)
  else none

end Tangle.Text
