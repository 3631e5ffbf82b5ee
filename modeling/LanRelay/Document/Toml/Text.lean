/-
Blanks, comments and quoted texts of a TOML document.

There are four kinds of quotes. Between double quotes a backslash begins an
escape, between single quotes it stands for itself, and between three quotes
of one kind a text may run over several lines. No control character but the
tab and, where lines may end, the line end stands in a text or comment.
-/
import LanRelay.Bytes
import LanRelay.Document
import LanRelay.Text.Digits

namespace LanRelay.Toml

open LanRelay.Text

/-- The characters that separate words on a line. -/
def isGap (c : Char) : Bool := c == ' ' || c == '\t'

def skipGap (cs : List Char) : List Char := cs.dropWhile isGap

/-- A character that may stand in a comment or between quotes. -/
def isTextChar (c : Char) : Bool :=
  c == '\t' || (0x20 ≤ c.toNat && c.toNat != 0x7F)

/-- Skip the rest of a comment; the line end is left. -/
def skipComment : List Char → Option (List Char)
  | [] => some []
  | '\n' :: cs => some ('\n' :: cs)
  | '\r' :: '\n' :: cs => some ('\r' :: '\n' :: cs)
  | c :: cs => if isTextChar c then skipComment cs else none

/-- Skip blanks, line ends and comments. -/
def skipFiller : (fuel : Nat) → List Char → Option (List Char)
  | 0, _ => none
  | fuel + 1, cs =>
      match skipGap cs with
      | '\n' :: cs => skipFiller fuel cs
      | '\r' :: '\n' :: cs => skipFiller fuel cs
      | '#' :: cs => (skipComment cs).bind (skipFiller fuel)
      | cs => some cs

/-- The character of an escape of one character. -/
def escaped? : Char → Option Char
  | 'b' => some '\x08'
  | 't' => some '\t'
  | 'n' => some '\n'
  | 'f' => some '\x0C'
  | 'r' => some '\r'
  | 'e' => some '\x1B'
  | '"' => some '"'
  | '\\' => some '\\'
  | _ => none

/-- The character whose number is given in hexadecimal. -/
def hexChar? (digits : List Char) : Option Char := do
  Literal.char? (ofDigits 16 (← digits.mapM (digit? 16)))

/-- Put a character in front of a text that has been read. -/
def prepend (c : Option Char) (read : Option (List Char × List Char)) :
    Option (List Char × List Char) := do
  let c ← c
  let (text, rest) ← read
  return (c :: text, rest)

/-- Read from behind a double quote. -/
def readBasic : List Char → Option (List Char × List Char)
  | [] => none
  | '"' :: cs => some ([], cs)
  | '\\' :: 'x' :: a :: b :: cs => prepend (hexChar? [a, b]) (readBasic cs)
  | '\\' :: 'u' :: a :: b :: c :: d :: cs =>
      prepend (hexChar? [a, b, c, d]) (readBasic cs)
  | '\\' :: 'U' :: a :: b :: c :: d :: e :: f :: g :: h :: cs =>
      prepend (hexChar? [a, b, c, d, e, f, g, h]) (readBasic cs)
  | '\\' :: c :: cs => prepend (escaped? c) (readBasic cs)
  | c :: cs =>
      if isTextChar c then prepend (some c) (readBasic cs) else none

/-- Read from behind a single quote. -/
def readVerbatim : List Char → Option (List Char × List Char)
  | [] => none
  | '\'' :: cs => some ([], cs)
  | c :: cs =>
      if isTextChar c then prepend (some c) (readVerbatim cs) else none

/-- Where the reading of several lines stands. -/
inductive LineState where
  /-- In the text. -/
  | text
  /-- Behind a backslash that joins two lines, in front of the line end. -/
  | joint
  /-- Behind that line end, in front of the text. -/
  | margin
deriving DecidableEq

/-- Read from behind three double quotes. One or two more quotes may stand in
front of the closing three. A backslash at the end of a line takes away the
line end and the blanks and line ends that follow. -/
def readBasicLines : LineState → List Char → Option (List Char × List Char)
  | _, [] => none
  | .joint, '\n' :: cs => readBasicLines .margin cs
  | .joint, '\r' :: '\n' :: cs => readBasicLines .margin cs
  | .joint, c :: cs => if isGap c then readBasicLines .joint cs else none
  | .margin, ' ' :: cs => readBasicLines .margin cs
  | .margin, '\t' :: cs => readBasicLines .margin cs
  | .margin, '\n' :: cs => readBasicLines .margin cs
  | .margin, '\r' :: '\n' :: cs => readBasicLines .margin cs
  | _, '"' :: '"' :: '"' :: '"' :: '"' :: cs => some (['"', '"'], cs)
  | _, '"' :: '"' :: '"' :: '"' :: cs => some (['"'], cs)
  | _, '"' :: '"' :: '"' :: cs => some ([], cs)
  | _, '\\' :: 'x' :: a :: b :: cs =>
      prepend (hexChar? [a, b]) (readBasicLines .text cs)
  | _, '\\' :: 'u' :: a :: b :: c :: d :: cs =>
      prepend (hexChar? [a, b, c, d]) (readBasicLines .text cs)
  | _, '\\' :: 'U' :: a :: b :: c :: d :: e :: f :: g :: h :: cs =>
      prepend (hexChar? [a, b, c, d, e, f, g, h]) (readBasicLines .text cs)
  | _, '\\' :: '\n' :: cs => readBasicLines .margin cs
  | _, '\\' :: '\r' :: '\n' :: cs => readBasicLines .margin cs
  | _, '\\' :: c :: cs =>
      if isGap c then readBasicLines .joint cs
      else prepend (escaped? c) (readBasicLines .text cs)
  | _, '\r' :: '\n' :: cs =>
      prepend (some '\r') (prepend (some '\n') (readBasicLines .text cs))
  | _, c :: cs =>
      if c = '\n' ∨ isTextChar c then
        prepend (some c) (readBasicLines .text cs)
      else none

/-- Read from behind three single quotes. -/
def readVerbatimLines : List Char → Option (List Char × List Char)
  | [] => none
  | '\'' :: '\'' :: '\'' :: '\'' :: '\'' :: cs => some (['\'', '\''], cs)
  | '\'' :: '\'' :: '\'' :: '\'' :: cs => some (['\''], cs)
  | '\'' :: '\'' :: '\'' :: cs => some ([], cs)
  | '\r' :: '\n' :: cs =>
      prepend (some '\r') (prepend (some '\n') (readVerbatimLines cs))
  | c :: cs =>
      if c = '\n' ∨ isTextChar c then
        prepend (some c) (readVerbatimLines cs)
      else none

/-- A line end right behind three opening quotes does not count. -/
def skipFirstLineEnd : List Char → List Char
  | '\n' :: cs => cs
  | '\r' :: '\n' :: cs => cs
  | cs => cs

/-- Read a text on one line with its quotes. -/
def readLine? : List Char → Option (List Char × List Char)
  | '"' :: cs => readBasic cs
  | '\'' :: cs => readVerbatim cs
  | _ => none

/-- Read a text of any kind with its quotes. -/
def readQuoted? : List Char → Option (List Char × List Char)
  | '"' :: '"' :: '"' :: cs => readBasicLines .text (skipFirstLineEnd cs)
  | '\'' :: '\'' :: '\'' :: cs => readVerbatimLines (skipFirstLineEnd cs)
  | cs => readLine? cs

end LanRelay.Toml
