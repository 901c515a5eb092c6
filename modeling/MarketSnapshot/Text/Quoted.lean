import MarketSnapshot.Text.Basic
import MarketSnapshot.Text.Printable

namespace MarketSnapshot.Text

def hexDigit (n : Nat) : Char :=
  if n < 10 then Char.ofNat (48 + n) else Char.ofNat (87 + n)

def hex : Nat → Nat → List Char
  | 0, _ => []
  | width + 1, n => hex width (n / 16) ++ [hexDigit (n % 16)]

def codeEscape (code : Nat) : List Char :=
  if code < 0x100 then '\\' :: 'x' :: hex 2 code
  else if code < 0x10000 then '\\' :: 'u' :: hex 4 code
  else '\\' :: 'U' :: hex 8 code

def quotedGlyph (mark : Char) : Glyph → List Char
  | .surrogate offset => codeEscape (0xD800 + offset.val)
  | .char c =>
    if c = mark ∨ c = '\\' then ['\\', c]
    else if c = '\n' then ['\\', 'n']
    else if c = '\r' then ['\\', 'r']
    else if c = '\t' then ['\\', 't']
    else if isPrintable c.toNat then [c]
    else codeEscape c.toNat

def quotationMark (t : Text) : Char :=
  if .char '\'' ∈ t ∧ .char '"' ∉ t then '"' else '\''

def quoted (t : Text) : String :=
  let mark := quotationMark t
  String.ofList (mark :: (t.flatMap (quotedGlyph mark)) ++ [mark])

end MarketSnapshot.Text
