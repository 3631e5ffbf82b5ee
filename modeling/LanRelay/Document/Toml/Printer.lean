/-
Writing a TOML document of sections.

A text is written in the first form that needs no escapes, tabs apart: between
double quotes, between single quotes, and then the same over several lines. If
none will do, it is written between double quotes with escapes.
-/
import LanRelay.Document.Toml.Text

namespace LanRelay.Toml

open LanRelay.Text

/-- The forms of a quoted text. -/
inductive Quoting where
  | basic
  | verbatim
  | basicLines
  | verbatimLines
deriving DecidableEq, Repr

namespace Quoting

/-- The quotes at either end. -/
def quotes : Quoting → String
  | basic => "\""
  | verbatim => "'"
  | basicLines => "\"\"\""
  | verbatimLines => "'''"

def isManyLines : Quoting → Bool
  | basicLines | verbatimLines => true
  | _ => false

end Quoting

/-- The longest run of a character in a text. -/
def longestRun (c : Char) : (current : Nat) → List Char → Nat
  | current, [] => current
  | current, d :: cs =>
      if d = c then longestRun c (current + 1) cs
      else max current (longestRun c 0 cs)

/-- A control character other than the tab and the line feed. -/
def isBareControl (c : Char) : Bool := c != '\n' && !isTextChar c

/-- The form in which a text is written. -/
def quotingOf (text : List Char) : Quoting :=
  let isFree := !text.any isBareControl
  let isOneLine := !text.contains '\n'
  let hasBackslash := text.contains '\\'
  if isFree ∧ isOneLine ∧ !hasBackslash ∧ !text.contains '"' then .basic
  else if isFree ∧ isOneLine ∧ !text.contains '\'' then .verbatim
  else if isFree ∧ !hasBackslash ∧ longestRun '"' 0 text ≤ 2 then .basicLines
  else if isFree ∧ longestRun '\'' 0 text ≤ 2 then .verbatimLines
  else if isOneLine then .basic
  else .basicLines

/-- An escape with the number of the character. -/
def numberEscape (c : Char) : List Char :=
  "\\u".toList ++
    (padStart '0' 4 (hexNumeral c.toNat)).toList.map Char.toUpper

/-- A text between double quotes. `allowed` quotes in a row need no escape,
and so many more, `room`, may follow here. -/
def escape (isManyLines : Bool) (allowed : Nat) :
    (room : Nat) → List Char → List Char
  | _, [] => []
  | 0, '"' :: cs => '\\' :: '"' :: escape isManyLines allowed allowed cs
  | room + 1, '"' :: cs => '"' :: escape isManyLines allowed room cs
  | _, c :: cs =>
      let written :=
        match c with
        | '\\' => ['\\', '\\']
        | '\x08' => ['\\', 'b']
        | '\t' => ['\\', 't']
        | '\n' => if isManyLines then ['\n'] else ['\\', 'n']
        | '\x0C' => ['\\', 'f']
        | '\r' => ['\\', 'r']
        | c => if isTextChar c then [c] else numberEscape c
      written ++ escape isManyLines allowed allowed cs

/-- A text with its quotes. A text of several lines begins on a line of its
own. -/
def quote (text : List Char) : List Char :=
  let quoting := quotingOf text
  let firstLineEnd :=
    if quoting.isManyLines ∧ text.contains '\n' then ['\n'] else []
  let body :=
    match quoting with
    | .basic => escape false 0 0 text
    | .basicLines => escape true 2 2 text
    | .verbatim | .verbatimLines => text
  quoting.quotes.toList ++ firstLineEnd ++ body ++ quoting.quotes.toList

/-- A text, an integer or a truth value; other values have no written form
here. -/
def renderValue? : Document → Option String
  | .text literal =>
      literal.text?.map fun text => String.ofList (quote text.toList)
  | .whole n => some (toString n)
  | .bool value => some (if value then "true" else "false")
  | _ => none

/-- A line with a key and its value. -/
def renderEntry? (entry : Literal × Document) : Option String := do
  let key ← entry.1.text?
  let value ← renderValue? entry.2
  return key ++ " = " ++ value ++ "\n"

/-- A header and the lines under it. -/
def renderSection? (entry : Literal × Document) : Option String := do
  let key ← entry.1.text?
  match entry.2 with
  | .record fields =>
      return "[" ++ key ++ "]\n" ++ String.join (← fields.mapM renderEntry?)
  | _ => none

/-- A record of records, as sections with an empty line between them. The keys
need no quotes. -/
def render? : Document → Option String
  | .record fields => do
      return "\n".intercalate (← fields.mapM renderSection?)
  | _ => none

end LanRelay.Toml
