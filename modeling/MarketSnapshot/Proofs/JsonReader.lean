import MarketSnapshot.Json.Writer
import MarketSnapshot.Text.Numeral

namespace MarketSnapshot.Json

open Text.Numeral (isDigit ofDigits splitMinus readExponent)

def isBlank (c : Char) : Bool := c = ' ' || c = '\t' || c = '\n' || c = '\r'

def skipBlanks (cs : List Char) : List Char := cs.dropWhile isBlank

def hexValue? (c : Char) : Option Nat :=
  if '0' ≤ c ∧ c ≤ '9' then some (c.toNat - 48)
  else if 'a' ≤ c ∧ c ≤ 'f' then some (c.toNat - 87)
  else if 'A' ≤ c ∧ c ≤ 'F' then some (c.toNat - 55)
  else none

def escaped? (c : Char) : Option Char :=
  if c = '"' ∨ c = '\\' ∨ c = '/' then some c
  else if c = 'n' then some '\n'
  else if c = 'r' then some '\r'
  else if c = 't' then some '\t'
  else if c = 'b' then some (Char.ofNat 8)
  else if c = 'f' then some (Char.ofNat 12)
  else none

/-- Puts a glyph before a text. A high surrogate before a low one makes one character. -/
def joinSurrogates (g : Glyph) (t : Text) : Text :=
  match g, t with
  | .surrogate high, .surrogate low :: rest =>
    if high.val < 0x400 ∧ 0x400 ≤ low.val then
      .char (Char.ofNat (0x10000 + 0x400 * high.val + (low.val - 0x400))) :: rest
    else g :: t
  | g, t => g :: t

/-- Where the reader of a string stands: among the characters, after a backslash, or in a code that
misses so many of its digits. -/
inductive Place where
  | plain
  | escape
  | code (missing value : Nat)

def readString : Place → List Char → Option (Text × List Char)
  | _, [] => none
  | .plain, c :: rest =>
    if c = '"' then some ([], rest)
    else if c = '\\' then readString .escape rest
    else if c.toNat < 32 then none
    else (readString .plain rest).map fun found => (joinSurrogates (.char c) found.1, found.2)
  | .escape, c :: rest =>
    if c = 'u' then readString (.code 4 0) rest
    else
      match escaped? c with
      | none => none
      | some d =>
        (readString .plain rest).map fun found => (joinSurrogates (.char d) found.1, found.2)
  | .code missing value, c :: rest =>
    match hexValue? c with
    | none => none
    | some digit =>
      let value := 16 * value + digit
      if 1 < missing then readString (.code (missing - 1) value) rest
      else
        match Glyph.ofCode? value with
        | none => none
        | some g => (readString .plain rest).map fun found => (joinSurrogates g found.1, found.2)

def isWordChar (c : Char) : Bool := c.isAlphanum || c = '-' || c = '+' || c = '.'

def isWhole (digits : List Char) : Bool :=
  !digits.isEmpty && (digits.head? ≠ some '0' || digits = ['0'])

def readNumber (word : List Char) : Option Value :=
  let (negative, body) := splitMinus word
  let whole := body.takeWhile isDigit
  if isWhole whole then
    match body.dropWhile isDigit with
    | [] => some (.int (if negative then -(ofDigits whole : Int) else ofDigits whole))
    | c :: rest =>
      if c = '.' then
        let fraction := rest.takeWhile isDigit
        if fraction.isEmpty then none
        else (readExponent (rest.dropWhile isDigit)).map fun e =>
          .float (Binary64.ofDecimal negative ⟨ofDigits (whole ++ fraction), e - fraction.length⟩)
      else (readExponent (c :: rest)).map fun e =>
        .float (Binary64.ofDecimal negative ⟨ofDigits whole, e⟩)
  else none

def readLiteral (word : List Char) : Option Value :=
  if word = ['n', 'u', 'l', 'l'] then some .null
  else if word = ['t', 'r', 'u', 'e'] then some (.bool true)
  else if word = ['f', 'a', 'l', 's', 'e'] then some (.bool false)
  else none

def readWord (word : List Char) : Option Value := (readNumber word).or (readLiteral word)

def readKey (cs : List Char) : Option (String × List Char) :=
  match skipBlanks cs with
  | [] => none
  | c :: rest =>
    if c = '"' then
      match readString .plain rest with
      | none => none
      | some (t, rest) =>
        match t.string?, skipBlanks rest with
        | some key, c :: rest => if c = ':' then some (key, rest) else none
        | _, _ => none
    else none

mutual

/-- Reads the value that a text begins with. The fuel is spent on every value and on every step of
a list or a dictionary; the length of the text is enough. -/
def readValue : Nat → List Char → Option (Value × List Char)
  | 0, _ => none
  | fuel + 1, cs =>
    match skipBlanks cs with
    | [] => none
    | c :: rest =>
      if c = '"' then
        (readString .plain rest).map fun found => (.text found.1, found.2)
      else if c = '[' then
        if (skipBlanks rest).head? = some ']' then some (.list [], (skipBlanks rest).tail)
        else (readItems fuel rest).map fun found => (.list found.1, found.2)
      else if c = '\x7b' then
        if (skipBlanks rest).head? = some '\x7d' then some (.dict [], (skipBlanks rest).tail)
        else (readEntries fuel rest).map fun found => (.dict found.1, found.2)
      else
        (readWord ((c :: rest).takeWhile isWordChar)).map fun v =>
          (v, (c :: rest).dropWhile isWordChar)

def readItems : Nat → List Char → Option (List Value × List Char)
  | 0, _ => none
  | fuel + 1, cs =>
    match readValue fuel cs with
    | none => none
    | some (v, rest) =>
      match skipBlanks rest with
      | [] => none
      | c :: rest =>
        if c = ',' then (readItems fuel rest).map fun found => (v :: found.1, found.2)
        else if c = ']' then some ([v], rest)
        else none

def readEntries : Nat → List Char → Option (List (String × Value) × List Char)
  | 0, _ => none
  | fuel + 1, cs =>
    match readKey cs with
    | none => none
    | some (key, rest) =>
      match readValue fuel rest with
      | none => none
      | some (v, rest) =>
        match skipBlanks rest with
        | [] => none
        | c :: rest =>
          if c = ',' then (readEntries fuel rest).map fun found => ((key, v) :: found.1, found.2)
          else if c = '\x7d' then some ([(key, v)], rest)
          else none

end

def read (cs : List Char) : Option Value :=
  match readValue cs.length cs with
  | some (v, rest) => if skipBlanks rest = [] then some v else none
  | none => none

end MarketSnapshot.Json
