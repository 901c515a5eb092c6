namespace MarketSnapshot.Text

def isBlank (c : Char) : Bool :=
  let n := c.toNat
  (9 ≤ n && n ≤ 13) || n == 0x20 || n == 0x85 || n == 0xA0 || n == 0x1680
    || (0x2000 ≤ n && n ≤ 0x200A) || n == 0x2028 || n == 0x2029 || n == 0x202F
    || n == 0x205F || n == 0x3000

def isSpace (c : Char) : Bool := isBlank c || (0x1C ≤ c.toNat && c.toNat ≤ 0x1F)

def isLineBreak (c : Char) : Bool := c == '\n' || c == '\r'

def isLineSpace (c : Char) : Bool := isSpace c && !isLineBreak c

def trimBy (drop : Char → Bool) (cs : List Char) : List Char :=
  ((cs.dropWhile drop).reverse.dropWhile drop).reverse

end MarketSnapshot.Text
