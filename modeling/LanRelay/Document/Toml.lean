/-
Reading a TOML document.

A document is a sequence of lines: headers, keys with values, comments.
Brackets around lists and inline tables are nested at most eighty deep.
-/
import LanRelay.Document.Toml.Number
import LanRelay.Document.Toml.Table

namespace LanRelay.Toml

open LanRelay.Text

/-- How deep brackets may be nested. -/
def maxDepth : Nat := 80

/-- A character of a key without quotes. -/
def isKeyChar (c : Char) : Bool :=
  isDigit c || ('A' ≤ c && c ≤ 'Z') || ('a' ≤ c && c ≤ 'z') || c == '_' ||
    c == '-'

/-- Read one part of a key. -/
def readKeyPart (cs : List Char) : Option (String × List Char) :=
  match cs.span isKeyChar with
  | ([], rest) =>
      (readLine? rest).map fun (text, rest) => (String.ofList text, rest)
  | (text, rest) => some (String.ofList text, rest)

/-- Read a key: parts with dots between them. Gives the parts in front of the
last one, and the last one. -/
def readKey : (fuel : Nat) → List Char →
    Option ((List String × String) × List Char)
  | 0, _ => none
  | fuel + 1, cs => do
      let (part, cs) ← readKeyPart (skipGap cs)
      match skipGap cs with
      | '.' :: cs =>
          let ((path, key), rest) ← readKey fuel cs
          return ((part :: path, key), rest)
      | rest => return (([], part), rest)

/-- Read a value without brackets. -/
def readScalar : List Char → Option (Document × List Char)
  | 't' :: 'r' :: 'u' :: 'e' :: cs => some (.bool true, cs)
  | 'f' :: 'a' :: 'l' :: 's' :: 'e' :: cs => some (.bool false, cs)
  | c :: cs =>
      if c = '"' ∨ c = '\'' then
        (readQuoted? (c :: cs)).map fun (text, rest) =>
          (.text ⟨text.map Char.toNat, true⟩, rest)
      else readNumberOrDate (c :: cs)
  | [] => none

mutual

/-- Read a value. Every step down takes one unit of `fuel`, and every bracket
one of `depth`. -/
def readValue : (fuel depth : Nat) → List Char →
    Option (Document × List Char)
  | fuel + 1, depth + 1, '[' :: cs =>
      (readItems fuel depth cs).map fun (items, rest) => (.list items, rest)
  | fuel + 1, depth + 1, '\x7b' :: cs =>
      (readEntries fuel depth .empty cs).map fun (table, rest) =>
        (table.toDocument, rest)
  | _, _, cs => readScalar cs

/-- Read the items of a list up to its closing bracket. A comma may stand
behind the last one. -/
def readItems : (fuel depth : Nat) → List Char →
    Option (List Document × List Char)
  | 0, _, _ => none
  | fuel + 1, depth, cs => do
      match ← skipFiller (cs.length + 1) cs with
      | ']' :: rest => return ([], rest)
      | cs =>
          let (item, cs) ← readValue fuel depth cs
          match ← skipFiller (cs.length + 1) cs with
          | ']' :: rest => return ([item], rest)
          | ',' :: cs =>
              let (items, rest) ← readItems fuel depth cs
              return (item :: items, rest)
          | _ => none

/-- Read the entries of an inline table up to its closing bracket. A comma may
stand behind the last one. -/
def readEntries : (fuel depth : Nat) → Node → List Char →
    Option (Node × List Char)
  | 0, _, _, _ => none
  | fuel + 1, depth, table, cs => do
      match ← skipFiller (cs.length + 1) cs with
      | '\x7d' :: rest => return (table, rest)
      | cs =>
          let ((path, key), cs) ← readKey (cs.length + 1) cs
          let (value, cs) ← readValue fuel depth (skipGap (← skip '=' cs))
          let table ← table.assign path key value
          match ← skipFiller (cs.length + 1) cs with
          | '\x7d' :: rest => return (table, rest)
          | ',' :: cs => readEntries fuel depth table cs
          | _ => none

end

/-- Skip to the end of a line on which nothing else may stand. -/
def skipLineEnd (cs : List Char) : Option (List Char) := do
  let cs ←
    match skipGap cs with
    | '#' :: cs => skipComment cs
    | cs => some cs
  match cs with
  | [] => return []
  | '\n' :: cs => return cs
  | '\r' :: '\n' :: cs => return cs
  | _ => none

/-- Read the key of a header and what stands behind it. -/
def readHeader (closing : List Char) (cs : List Char) :
    Option ((List String × String) × List Char) := do
  let (key, cs) ← readKey (cs.length + 1) cs
  return (key, ← stripStart? closing cs)
where
  /-- What follows the given start of a text. -/
  stripStart? : List Char → List Char → Option (List Char)
    | [], cs => some cs
    | c :: start, cs => (skip c cs).bind (stripStart? start)

/-- Read the lines of a document. `path` leads to the table of the latest
header. -/
def readLines : (fuel : Nat) → (path : List String) → Node → List Char →
    Option Node
  | 0, _, _, _ => none
  | fuel + 1, path, root, cs => do
      match ← skipFiller (cs.length + 1) cs with
      | [] => return root
      | '[' :: '[' :: cs =>
          let ((path, key), cs) ← readHeader [']', ']'] cs
          let root ← root.change false (Node.extend key) path
          readLines fuel (path ++ [key]) root (← skipLineEnd cs)
      | '[' :: cs =>
          let ((path, key), cs) ← readHeader [']'] cs
          let root ← root.change false (Node.define key) path
          readLines fuel (path ++ [key]) root (← skipLineEnd cs)
      | cs =>
          let ((inner, key), cs) ← readKey (cs.length + 1) cs
          let (value, cs) ←
            readValue (2 * cs.length + 2) maxDepth (skipGap (← skip '=' cs))
          let root ← root.change false (Node.assign inner key value) path
          readLines fuel path root (← skipLineEnd cs)

/-- The tree that a text spells. A byte order mark may stand in front of it. -/
def parse? (text : String) : Option Document :=
  let cs :=
    match text.toList with
    | '\uFEFF' :: cs => cs
    | cs => cs
  (readLines (cs.length + 1) [] .empty cs).map Node.toDocument

/-- An empty list or table stands for nothing else; a list may be longer than
the record that it stands for. -/
def dialect : Document.Dialect where
  allowsSurplus := true
  isEmpty
    | .list [] => true
    | .record [] => true
    | _ => false

end LanRelay.Toml
