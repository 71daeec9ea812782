import DeviceAllocation.Text.Hexadecimal

namespace DeviceAllocation.Text

/-- A character that has begun, with its bits so far and the number of bytes that are missing. The
next byte lies between `low` and `high`. -/
structure PartialChar where
  value : Nat
  missing : Nat
  low : Nat
  high : Nat

def replacement : Char := '\ufffd'

def firstByte (byte : Nat) : List Char × Option PartialChar :=
  if byte < 0x80 then ([Char.ofNat byte], none)
  else if 0xc2 ≤ byte ∧ byte < 0xe0 then ([], some ⟨byte - 0xc0, 1, 0x80, 0xbf⟩)
  else if 0xe0 ≤ byte ∧ byte < 0xf0 then
    ([], some ⟨byte - 0xe0, 2, if byte = 0xe0 then 0xa0 else 0x80,
      if byte = 0xed then 0x9f else 0xbf⟩)
  else if 0xf0 ≤ byte ∧ byte < 0xf5 then
    ([], some ⟨byte - 0xf0, 3, if byte = 0xf0 then 0x90 else 0x80,
      if byte = 0xf4 then 0x8f else 0xbf⟩)
  else ([replacement], none)

def nextByte (part : PartialChar) (byte : Nat) : List Char × Option PartialChar :=
  let value := part.value * 0x40 + (byte - 0x80)
  if byte < part.low ∨ part.high < byte then
    (replacement :: (firstByte byte).1, (firstByte byte).2)
  else if part.missing ≤ 1 then ([Char.ofNat value], none)
  else ([], some ⟨value, part.missing - 1, 0x80, 0xbf⟩)

def charsOfBytes (part : Option PartialChar) : List Nat → List Char
  | [] => if part.isSome then [replacement] else []
  | byte :: bytes =>
    let (chars, part) := (part.map (nextByte · byte)).getD (firstByte byte)
    chars ++ charsOfBytes part bytes

def percentBytes : List Char → List Nat
  | [] => []
  | [c] => [c.toNat]
  | [c, d] => [c.toNat, d.toNat]
  | c :: d :: e :: rest =>
    match if c = '%' then (hexValue? d).bind fun x => (hexValue? e).map (16 * x + ·) else none with
    | some byte => byte :: percentBytes rest
    | none => c.toNat :: percentBytes (d :: e :: rest)

/-- The characters that a text stands for, the first of which are the ASCII ones in `begun`, latest
first. Characters beyond ASCII stand for themselves, and bytes before and after them make up no
character together. -/
def decodePercentAfter (begun : List Char) : List Char → List Char
  | [] => charsOfBytes none (percentBytes begun.reverse)
  | c :: rest =>
    if c.toNat < 0x80 then decodePercentAfter (c :: begun) rest
    else charsOfBytes none (percentBytes begun.reverse) ++ c :: decodePercentAfter [] rest

def decodePercent (text : List Char) : List Char :=
  decodePercentAfter [] text

end DeviceAllocation.Text
