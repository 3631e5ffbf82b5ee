/-
The JSON text of a tree: reading it, and writing it on one line or with one
field to a line.

Reading is liberal where the known types are to judge: keys may stand twice,
numbers have any size, and texts may hold lone surrogates and bare control
characters. It is strict about the grammar.
-/
import LanRelay.Document
import LanRelay.Text.Digits

namespace LanRelay.Json

open LanRelay.Text

/-- The characters that may stand around a value. -/
def isSpace (c : Char) : Bool :=
  c == ' ' || c == '\n' || c == '\t' || c == '\r'

def skipSpace (cs : List Char) : List Char := cs.dropWhile isSpace

/-- Join each pair of surrogates to the code point that it stands for. -/
def joinSurrogates : List Nat → List Nat
  | high :: low :: points =>
      if 0xD800 ≤ high ∧ high < 0xDC00 ∧ 0xDC00 ≤ low ∧ low < 0xE000 then
        (0x10000 + 1024 * (high - 0xD800) + (low - 0xDC00)) ::
          joinSurrogates points
      else high :: joinSurrogates (low :: points)
  | points => points

/-- The code point of an escape of one character. -/
def escaped? : Char → Option Nat
  | '"' => some 0x22
  | '\\' => some 0x5C
  | '/' => some 0x2F
  | 'b' => some 0x08
  | 'f' => some 0x0C
  | 'n' => some 0x0A
  | 'r' => some 0x0D
  | 't' => some 0x09
  | _ => none

/-- The four hexadecimal digits of an escape. -/
def hex4? (a b c d : Char) : Option Nat := do
  let digits ← [a, b, c, d].mapM (digit? 16)
  return ofDigits 16 digits

/-- Read a text from behind its opening quote; its surrogates are not yet
joined. -/
def readPoints : List Char → Option (Literal × List Char)
  | [] => none
  | '"' :: cs => some (⟨[], true⟩, cs)
  | '\\' :: 'u' :: a :: b :: c :: d :: cs => do
      let point ← hex4? a b c d
      let (literal, rest) ← readPoints cs
      return ({ literal with points := point :: literal.points }, rest)
  | '\\' :: c :: cs => do
      let point ← escaped? c
      let (literal, rest) ← readPoints cs
      return ({ literal with points := point :: literal.points }, rest)
  | c :: cs => do
      let (literal, rest) ← readPoints cs
      let isControl := c.toNat < 0x20
      return (⟨c.toNat :: literal.points, literal.plain && !isControl⟩, rest)

/-- Read a text from behind its opening quote. -/
def readLiteral (cs : List Char) : Option (Literal × List Char) :=
  (readPoints cs).map fun (literal, rest) =>
    ({ literal with points := joinSurrogates literal.points }, rest)

/-- Read at least one digit. -/
def readDigits (cs : List Char) : Option (List Nat × List Char) :=
  match leadingDigits 10 cs with
  | ([], _) => none
  | read => some read

/-- Skip the fraction of a number; says whether there is one. -/
def skipFraction : List Char → Option (Bool × List Char)
  | '.' :: cs => (readDigits cs).map fun (_, rest) => (true, rest)
  | cs => some (false, cs)

/-- Skip the exponent of a number; says whether there is one. -/
def skipExponent : List Char → Option (Bool × List Char)
  | c :: cs =>
      if c = 'e' ∨ c = 'E' then
        let digits :=
          match cs with
          | '+' :: cs | '-' :: cs => cs
          | cs => cs
        (readDigits digits).map fun (_, rest) => (true, rest)
      else some (false, c :: cs)
  | [] => some (false, [])

/-- Read a number from behind its sign. Digits have no leading zero, and minus
zero is no integer. -/
def readNumber (negative : Bool) (cs : List Char) :
    Option (Document × List Char) := do
  let (digits, cs) ← readDigits cs
  if digits.length ≠ 1 ∧ digits.head? = some 0 then failure
  let (fraction, cs) ← skipFraction cs
  let (exponent, cs) ← skipExponent cs
  let n := ofDigits 10 digits
  if fraction ∨ exponent ∨ (negative ∧ n = 0) then return (.fractional, cs)
  return (.whole (if negative then -n else n), cs)

/-- Read what begins with no bracket. -/
def readScalar : List Char → Option (Document × List Char)
  | 'n' :: 'u' :: 'l' :: 'l' :: cs => some (.null, cs)
  | 't' :: 'r' :: 'u' :: 'e' :: cs => some (.bool true, cs)
  | 'f' :: 'a' :: 'l' :: 's' :: 'e' :: cs => some (.bool false, cs)
  | '"' :: cs => (readLiteral cs).map fun (literal, rest) => (.text literal, rest)
  | '-' :: cs => readNumber true cs
  | cs => readNumber false cs

mutual

/-- Read a value, with blanks in front of it. Every step down takes one unit of
`fuel`. -/
def readValue : (fuel : Nat) → List Char → Option (Document × List Char)
  | 0, _ => none
  | fuel + 1, cs =>
      match skipSpace cs with
      | '[' :: cs =>
          match skipSpace cs with
          | ']' :: rest => some (.list [], rest)
          | cs => (readItems fuel cs).map fun (items, rest) => (.list items, rest)
      | '{' :: cs =>
          match skipSpace cs with
          | '}' :: rest => some (.record [], rest)
          | cs =>
              (readFields fuel cs).map fun (fields, rest) =>
                (.record fields, rest)
      | cs => readScalar cs

/-- Read the items of a list up to its closing bracket; there is one. -/
def readItems : (fuel : Nat) → List Char → Option (List Document × List Char)
  | 0, _ => none
  | fuel + 1, cs =>
      match readValue fuel cs with
      | none => none
      | some (item, cs) =>
          match skipSpace cs with
          | ']' :: rest => some ([item], rest)
          | ',' :: cs =>
              (readItems fuel cs).map fun (items, rest) => (item :: items, rest)
          | _ => none

/-- Read the fields of a record up to its closing bracket; there is one. -/
def readFields : (fuel : Nat) → List Char →
    Option (List (Literal × Document) × List Char)
  | 0, _ => none
  | fuel + 1, cs =>
      match readKey cs with
      | none => none
      | some (key, cs) =>
          match readValue fuel cs with
          | none => none
          | some (value, cs) =>
              match skipSpace cs with
              | '}' :: rest => some ([(key, value)], rest)
              | ',' :: cs =>
                  (readFields fuel cs).map fun (fields, rest) =>
                    ((key, value) :: fields, rest)
              | _ => none

/-- Read a key and the colon behind it. -/
def readKey (cs : List Char) : Option (Literal × List Char) :=
  match skipSpace cs with
  | '"' :: cs => do
      let (key, cs) ← readLiteral cs
      match skipSpace cs with
      | ':' :: rest => some (key, rest)
      | _ => none
  | _ => none

end

/-- The tree that a text spells. Each level of a value takes up at least one
character, so the text is long enough to bound the reading. -/
def parse? (text : String) : Option Document :=
  let cs := text.toList
  match readValue (2 * cs.length + 2) cs with
  | some (value, rest) => if (skipSpace rest).isEmpty then some value else none
  | none => none

/-- The characters of a code point inside quotes. -/
def escape (point : Nat) : List Char :=
  match point with
  | 0x22 => ['\\', '"']
  | 0x5C => ['\\', '\\']
  | 0x08 => ['\\', 'b']
  | 0x09 => ['\\', 't']
  | 0x0A => ['\\', 'n']
  | 0x0C => ['\\', 'f']
  | 0x0D => ['\\', 'r']
  | _ =>
      if point < 0x20 then
        "\\u".toList ++ (padStart '0' 4 (hexNumeral point)).toList
      else [Char.ofNat point]

/-- A text in quotes. -/
def quote (literal : Literal) : String :=
  String.ofList ('"' :: literal.points.flatMap escape ++ ['"'])

/-- What does not depend on the layout. -/
def renderScalar : Document → String
  | .null | .fractional | .tooLarge | .date => "null"
  | .bool value => if value then "true" else "false"
  | .whole value => toString value
  | .text literal => quote literal
  | .list _ => "[]"
  | .record _ => "\x7b\x7d"

mutual

/-- Write a tree without blanks. -/
def compact : Document → String
  | .list items => "[" ++ ",".intercalate (compactItems items) ++ "]"
  | .record fields =>
      "\x7b" ++ ",".intercalate (compactFields fields) ++ "\x7d"
  | scalar => renderScalar scalar

def compactItems : List Document → List String
  | [] => []
  | item :: items => compact item :: compactItems items

def compactFields : List (Literal × Document) → List String
  | [] => []
  | (key, value) :: fields =>
      (quote key ++ ":" ++ compact value) :: compactFields fields

end

/-- The blanks in front of a line of the given depth. -/
def indent (depth : Nat) : String :=
  String.ofList (List.replicate (2 * depth) ' ')

/-- Lines between brackets, one deeper than what stands around them; nothing
between the brackets if there is no line. -/
def block (opening closing : String) (depth : Nat) (lines : List String) :
    String :=
  if lines.isEmpty then opening ++ closing
  else
    opening ++ "\n" ++
      ",\n".intercalate (lines.map (indent (depth + 1) ++ ·)) ++ "\n" ++
      indent depth ++ closing

mutual

/-- Write a tree with one item or field to a line, indented by two blanks for
each level. -/
def pretty (depth : Nat) : Document → String
  | .list items => block "[" "]" depth (prettyItems (depth + 1) items)
  | .record fields =>
      block "\x7b" "\x7d" depth (prettyFields (depth + 1) fields)
  | scalar => renderScalar scalar

def prettyItems (depth : Nat) : List Document → List String
  | [] => []
  | item :: items => pretty depth item :: prettyItems depth items

def prettyFields (depth : Nat) : List (Literal × Document) → List String
  | [] => []
  | (key, value) :: fields =>
      (quote key ++ ": " ++ pretty depth value) :: prettyFields depth fields

end

/-- A null stands for nothing else; a list may not be longer than its
record. -/
def dialect : Document.Dialect where
  allowsSurplus := false
  isEmpty
    | .null => true
    | _ => false

/-- The value that a text spells. -/
def read? {α : Type} [AsDocument α] (text : String) : Option α :=
  (parse? text).bind (AsDocument.ofDocument? dialect)

/-- The text of a value. -/
def write {α : Type} [AsDocument α] (value : α) : String :=
  compact (AsDocument.toDocument value)

end LanRelay.Json
