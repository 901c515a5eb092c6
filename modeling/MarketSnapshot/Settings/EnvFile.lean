import MarketSnapshot.Table
import MarketSnapshot.Text.Basic
import MarketSnapshot.Text.Blank

namespace MarketSnapshot.EnvFile

open Text

def dropMark : List Char → List Char
  | '\uFEFF' :: rest => rest
  | cs => cs

def unifyBreaks : List Char → List Char
  | '\r' :: '\n' :: rest => '\n' :: unifyBreaks rest
  | '\r' :: rest => '\n' :: unifyBreaks rest
  | c :: rest => c :: unifyBreaks rest
  | [] => []

def dropLineSpace (cs : List Char) : List Char := cs.dropWhile isLineSpace

def restOfLine (cs : List Char) : List Char := cs.takeWhile fun c => !isLineBreak c

def skipLine (cs : List Char) : List Char := (cs.dropWhile fun c => !isLineBreak c).drop 1

def dropExport (cs : List Char) : List Char :=
  match cs with
  | 'e' :: 'x' :: 'p' :: 'o' :: 'r' :: 't' :: rest =>
    if (rest.head?.any isLineSpace) then dropLineSpace rest else cs
  | _ => cs

def isNameChar (c : Char) : Bool := c != '=' && c != '#' && !isSpace c

abbrev Piece (α : Type) := α × List Char

def name? (cs : List Char) : Option (Piece (Option (List Char))) :=
  match cs with
  | '#' :: _ => some (none, cs)
  | '\'' :: rest =>
    let name := rest.takeWhile (· ≠ '\'')
    match name, rest.dropWhile (· ≠ '\'') with
    | _ :: _, _ :: after => some (some name, after)
    | _, _ => none
  | _ =>
    let name := cs.takeWhile isNameChar
    if name.isEmpty then none else some (some name, cs.dropWhile isNameChar)

/-- The text up to the closing mark. A backslash takes the next character with it, so a mark after
one does not close. -/
def upToMark (mark : Char) : List Char → Option (Piece (List Char))
  | [] => none
  | '\\' :: c :: rest => (upToMark mark rest).map fun p => ('\\' :: c :: p.1, p.2)
  | c :: rest =>
    if c = mark then some ([], rest) else (upToMark mark rest).map fun p => (c :: p.1, p.2)

def singleEscape (c : Char) : Option Char := if c = '\\' ∨ c = '\'' then some c else none

def doubleEscape (c : Char) : Option Char :=
  match c with
  | '\\' | '\'' | '"' => some c
  | 'a' => some (Char.ofNat 7)
  | 'b' => some (Char.ofNat 8)
  | 'f' => some (Char.ofNat 12)
  | 'n' => some '\n'
  | 'r' => some '\r'
  | 't' => some '\t'
  | 'v' => some (Char.ofNat 11)
  | _ => none

def unescape (table : Char → Option Char) : List Char → List Char
  | '\\' :: c :: rest =>
    match table c with
    | some plain => plain :: unescape table rest
    | none => '\\' :: unescape table (c :: rest)
  | c :: rest => c :: unescape table rest
  | [] => []

def beforeComment (cs : List Char) : List Char :=
  match cs with
  | [] => []
  | c :: rest =>
    if isSpace c && (cs.dropWhile isSpace).head? == some '#' then [] else c :: beforeComment rest

/-- A value, which starts after the equals sign. Blanks before it are no part of it, but a number
sign after them begins a comment. -/
def value? (cs : List Char) : Option (Piece (List Char)) :=
  match dropLineSpace cs with
  | '\'' :: rest => (upToMark '\'' rest).map fun p => (unescape singleEscape p.1, p.2)
  | '"' :: rest => (upToMark '"' rest).map fun p => (unescape doubleEscape p.1, p.2)
  | _ =>
    some (trimBy isSpace (beforeComment (restOfLine cs)), cs.dropWhile fun c => !isLineBreak c)

def lineEnd? (cs : List Char) : Option (List Char) :=
  let cs := dropLineSpace cs
  let cs := if cs.head? = some '#' then cs.dropWhile fun c => !isLineBreak c else cs
  match cs with
  | [] => some []
  | c :: rest => if isLineBreak c then some rest else none

structure Binding where
  name : List Char
  value : Option (List Char)
deriving DecidableEq

/-- Reads one line, which starts at a character that is not blank. A fault skips the rest of the
line in which it stands. -/
def line (cs : List Char) : Piece (Option Binding) :=
  let cs := dropExport cs
  match name? cs with
  | none => (none, skipLine cs)
  | some (name, rest) =>
    let rest := dropLineSpace rest
    let bound :=
      match rest with
      | '=' :: more => (value? more).map fun p => (some p.1, p.2)
      | _ => some (none, rest)
    match bound with
    | none => (none, skipLine rest)
    | some (value, rest) =>
      match lineEnd? rest with
      | none => (none, skipLine rest)
      | some after => (name.map fun name => ⟨name, value⟩, after)

def bindingsWithin : Nat → List Char → List Binding
  | 0, _ => []
  | fuel + 1, cs =>
    match cs.dropWhile isSpace with
    | [] => []
    | start =>
      let (binding, rest) := line start
      binding.toList ++ bindingsWithin fuel rest

def bindings (cs : List Char) : List Binding :=
  bindingsWithin cs.length (unifyBreaks (dropMark cs))

def reference? (cs : List Char) : Option (Piece (List Char × List Char)) :=
  match cs with
  | '$' :: '\x7b' :: rest =>
    let name := rest.takeWhile fun c => c != '\x7d' && c != ':'
    match rest.dropWhile fun c => c != '\x7d' && c != ':' with
    | '\x7d' :: after => some ((name, []), after)
    | ':' :: '-' :: more =>
      match more.dropWhile (· ≠ '\x7d') with
      | _ :: after => some ((name, more.takeWhile (· ≠ '\x7d')), after)
      | [] => none
    | _ => none
  | _ => none

/-- Fills in references. A variable without a value counts as empty, an unknown one as its
default. -/
def expandWithin (lookup : List Char → Option (Option Text)) : Nat → List Char → Text
  | 0, cs => Text.ofChars cs
  | _ + 1, [] => []
  | fuel + 1, c :: rest =>
    match reference? (c :: rest) with
    | some ((name, fallback), after) =>
      (match lookup name with
        | some value => value.getD []
        | none => Text.ofChars fallback) ++ expandWithin lookup fuel after
    | none => .char c :: expandWithin lookup fuel rest

def expand (lookup : List Char → Option (Option Text)) (cs : List Char) : Text :=
  expandWithin lookup cs.length cs

def lookup (surroundings : Table Text Text) (table : Table (List Char) (Option Text))
    (name : List Char) : Option (Option Text) :=
  match Table.find? table name with
  | some value => some value
  | none => (Table.find? surroundings (Text.ofChars name)).map some

def bind (surroundings : Table Text Text) (table : Table (List Char) (Option Text))
    (binding : Binding) : Table (List Char) (Option Text) :=
  Table.put table binding.name (binding.value.map (expand (lookup surroundings table)))

def load (surroundings : Table Text Text) (cs : List Char) : Table (List Char) (Option Text) :=
  (bindings cs).foldl (bind surroundings) []

end MarketSnapshot.EnvFile
