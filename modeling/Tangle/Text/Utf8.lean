/-
This file reads and writes UTF-8. Reading never fails: every maximal ill-formed
part of the input becomes one replacement character, so a truncated or overlong
sequence costs one character and not one per byte. The strict reader accepts
exactly the inputs that hold no such part.
-/

namespace Tangle.Text.Utf8

/-- The character that stands for an ill-formed part. -/
def replacement : Char := Char.ofNat 0xFFFD

/-- What the first byte of a longer character asks of the bytes behind it: how many there must be,
and the range of the nearest one. All later ones lie in `0x80`–`0xBF`. -/
structure Opening where
  following : Nat
  low : UInt8
  high : UInt8

/-- The bounds of the nearest byte keep out overlong forms (after `E0` and `F0`), surrogates
(after `ED`) and values above `10FFFF` (after `F4`). -/
def opening? (lead : UInt8) : Option Opening :=
  if 0xC2 ≤ lead && lead ≤ 0xDF then some ⟨1, 0x80, 0xBF⟩
  else if lead = 0xE0 then some ⟨2, 0xA0, 0xBF⟩
  else if lead = 0xED then some ⟨2, 0x80, 0x9F⟩
  else if 0xE1 ≤ lead && lead ≤ 0xEF then some ⟨2, 0x80, 0xBF⟩
  else if lead = 0xF0 then some ⟨3, 0x90, 0xBF⟩
  else if 0xF1 ≤ lead && lead ≤ 0xF3 then some ⟨3, 0x80, 0xBF⟩
  else if lead = 0xF4 then some ⟨3, 0x80, 0x8F⟩
  else none

/-- How many of the next `count` bytes continue a character, the nearest one being held to
`low`–`high`. -/
def continued : (count : Nat) → (low high : UInt8) → List UInt8 → Nat
  | count + 1, low, high, byte :: rest =>
    if low ≤ byte && byte ≤ high then continued count 0x80 0xBF rest + 1 else 0
  | _, _, _, _ => 0

/-- The number spelled by a lead byte and its continuation bytes: the payload bits of the lead
byte, then six bits from each of the others. -/
def assemble (lead : UInt8) (rest : List UInt8) : Nat :=
  rest.foldl (fun value byte => value * 64 + byte.toNat % 64)
    (lead.toNat % Nat.pow 2 (6 - rest.length))

/-- Reads the character at the head of `lead :: rest`: the character, or `none` for an ill-formed
part, and how many bytes of `rest` it takes up. -/
def readOne (lead : UInt8) (rest : List UInt8) : Option Char × Nat :=
  if lead < 0x80 then (some (Char.ofNat lead.toNat), 0)
  else
    match opening? lead with
    | none => (none, 0)
    | some opening =>
      let taken := continued opening.following opening.low opening.high rest
      if taken = opening.following then (some (Char.ofNat (assemble lead (rest.take taken))), taken)
      else (none, taken)

/-- Reads all of the input behind the characters already `seen`, which are held in reverse. -/
def readOnto (seen : List (Option Char)) : List UInt8 → List (Option Char)
  | [] => seen.reverse
  | lead :: rest =>
    let one := readOne lead rest
    readOnto (one.1 :: seen) (rest.drop one.2)
termination_by bytes => bytes.length
decreasing_by
  rw [List.length_cons, List.length_drop]
  omega

/-- The characters and ill-formed parts (`none`) of the input, in order. -/
def parts (bytes : List UInt8) : List (Option Char) :=
  readOnto [] bytes

/-- Reads any bytes, with one replacement character for each ill-formed part. -/
def decodeLossy (bytes : List UInt8) : List Char :=
  (parts bytes).map (·.getD replacement)

/-- Reads well-formed bytes only. -/
def decode? (bytes : List UInt8) : Option (List Char) :=
  (parts bytes).mapM id

/-- The bytes of a text. -/
def encode (text : List Char) : List UInt8 :=
  text.flatMap String.utf8EncodeChar

end Tangle.Text.Utf8
