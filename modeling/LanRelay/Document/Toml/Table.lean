/-
Tables of a TOML document while it is read.

A table may be defined once. It may come into being before that, because the
path of a header or a dotted key leads through it; such a table is implicit,
and it is dotted if a dotted key made it. Main rule: a header may define an
implicit table that no dotted key made, and a dotted key may only add to a
table that a dotted key made.
-/
import LanRelay.Document

namespace LanRelay.Toml

/-- What stands under a key. -/
inductive Node where
  /-- A value; nothing can be added to it. -/
  | value (document : Document)
  | table (implicit dotted : Bool) (entries : List (String × Node))
  /-- Tables under one header, the latest first. -/
  | tables (items : List Node)

namespace Node

/-- A table as a header defines it. -/
def empty : Node := .table false false []

/-- Put a node under the first occurrence of a key, or else at the end. -/
def put (key : String) (node : Node) :
    List (String × Node) → List (String × Node)
  | [] => [(key, node)]
  | (k, n) :: entries =>
      if k = key then (k, node) :: entries else (k, n) :: put key node entries

/-- Change the table at the end of a path. Tables that are missing on the way
come into being. Of the tables under one header the path leads through the
latest. A path of a dotted key does not lead into a table that a header
defined. -/
def change (dotted : Bool) (f : Node → Option Node) :
    List String → Node → Option Node
  | [], node => f node
  | key :: path, table implicit isDotted entries => do
      let child ←
        match entries.lookup key with
        | none => change dotted f path (table true dotted [])
        | some (table true d inner) => change dotted f path (table true d inner)
        | some (table false d inner) =>
            if dotted then none else change dotted f path (table false d inner)
        | some (tables (latest :: earlier)) =>
            (change dotted f path latest).map fun latest =>
              tables (latest :: earlier)
        | some _ => none
      return table implicit isDotted (put key child entries)
  | _ :: _, _ => none

/-- Put a value under a new key. The table was made by a dotted key if and only
if the key is the last of a dotted one. -/
def insert (lastOfDotted : Bool) (key : String) (document : Document) :
    Node → Option Node
  | table implicit dotted entries =>
      if dotted = lastOfDotted ∧ (entries.lookup key).isNone then
        some (table implicit dotted (put key (.value document) entries))
      else none
  | _ => none

/-- Put a value under a key with its path. -/
def assign (path : List String) (key : String) (document : Document)
    (node : Node) : Option Node :=
  node.change (!path.isEmpty) (insert (!path.isEmpty) key document) path

/-- Define the table of a header. -/
def define (key : String) : Node → Option Node
  | table implicit dotted entries =>
      match entries.lookup key with
      | none => some (table implicit dotted (put key empty entries))
      | some (table true false inner) =>
          some (table implicit dotted (put key (table false false inner) entries))
      | some _ => none
  | _ => none

/-- Add a table under a header that may stand several times. -/
def extend (key : String) : Node → Option Node
  | table implicit dotted entries =>
      match entries.lookup key with
      | none =>
          some (table implicit dotted (put key (tables [empty]) entries))
      | some (tables items) =>
          some (table implicit dotted (put key (tables (empty :: items)) entries))
      | some _ => none
  | _ => none

mutual

/-- What has been read, as a tree. -/
def toDocument : Node → Document
  | value document => document
  | table _ _ entries => .record (toFields entries)
  | tables items => .list (toItems items).reverse

def toFields : List (String × Node) → List (Literal × Document)
  | [] => []
  | (key, node) :: entries => (.ofText key, toDocument node) :: toFields entries

def toItems : List Node → List Document
  | [] => []
  | node :: nodes => toDocument node :: toItems nodes

end

end Node

end LanRelay.Toml
