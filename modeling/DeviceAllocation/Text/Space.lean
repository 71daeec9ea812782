namespace DeviceAllocation.Text

def isSpace (c : Char) : Bool :=
  let n := c.toNat
  (0x9 ≤ n && n ≤ 0xd) || n = 0x20 || n = 0x85 || n = 0xa0 || n = 0x1680 ||
    (0x2000 ≤ n && n ≤ 0x200a) || n = 0x2028 || n = 0x2029 || n = 0x202f || n = 0x205f || n = 0x3000

def isPlainSpace (c : Char) : Bool :=
  c.toNat < 0x80 && isSpace c

/-- Whether a character separates, as white space does, but also the four control characters that
end units of information. -/
def isSeparator (c : Char) : Bool :=
  isSpace c || (0x1c ≤ c.toNat && c.toNat ≤ 0x1f)

def trimBy (blank : Char → Bool) (text : List Char) : List Char :=
  ((text.dropWhile blank).reverse.dropWhile blank).reverse

def trim (text : List Char) : List Char :=
  trimBy isSpace text

end DeviceAllocation.Text
