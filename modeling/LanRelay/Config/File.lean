/-
Configuration files: their formats, and loading and writing them.

The extension of a file's name tells its format. What is loaded keeps every
rule of the configuration.
-/
import LanRelay.Config.Record
import LanRelay.Config.Rule
import LanRelay.Document.Json
import LanRelay.Document.Toml
import LanRelay.Document.Toml.Printer

namespace LanRelay

/-- The formats of configuration files. -/
inductive ConfigFormat where
  | toml
  | json
deriving DecidableEq, Repr

namespace ConfigFormat

/-- The format that an extension stands for, in any case. -/
def ofExtension? (ext : String) : Option ConfigFormat :=
  if Text.sameIgnoringAsciiCase ext "toml" then some toml
  else if Text.sameIgnoringAsciiCase ext "json" then some json
  else none

/-- The last part of a path, unless it leads to a directory by its form. -/
def fileName? (path : List Char) : Option (List Char) :=
  let parts := (Text.splitAt '/' path).filter fun part =>
    !part.isEmpty && part != ['.']
  match parts.getLast? with
  | some ['.', '.'] | none => none
  | some name => some name

/-- What follows the last dot of a file name. A dot at the start does not
count. -/
def extension? (path : String) : Option String := do
  let name ← fileName? path.toList
  let pieces := Text.splitAt '.' name
  if pieces.length < 2 ∨ (pieces.length = 2 ∧ pieces.head? = some []) then none
  else pieces.getLast?.map String.ofList

/-- The format of a file, by its path. -/
def ofPath (path : String) : Except Fault ConfigFormat :=
  match extension? path with
  | none => .error (.configSyntax "cannot determine file format from extension")
  | some ext =>
      match ofExtension? ext with
      | none => .error (.configSyntax s!"unsupported config format: .{ext}")
      | some format => .ok format

end ConfigFormat

/-- What stands at a path. -/
inductive FileEntry where
  | file (bytes : Bytes)
  | directory

/-- The system's words for a file that cannot be read. -/
def FileEntry.read : Option FileEntry → Except Fault String
  | none => .error (.io "No such file or directory (os error 2)")
  | some .directory => .error (.io "Is a directory (os error 21)")
  | some (.file bytes) =>
      match bytes.toText? with
      | none => .error (.io "stream did not contain valid UTF-8")
      | some text => .ok text

namespace Blueprint

/-- The configuration that a text spells, whether it keeps the rules or
not. -/
def parse (format : ConfigFormat) (text : String) : Except Fault Blueprint :=
  match format with
  | .toml =>
      match (Toml.parse? text).bind (ofDocument? Toml.dialect) with
      | some blueprint => .ok blueprint
      | none => .error (.configSyntax "TOML parse error")
  | .json =>
      match Json.read? text with
      | some blueprint => .ok blueprint
      | none => .error (.configSyntax "JSON parse error")

/-- The configuration that a text spells; it keeps the rules. -/
def load (format : ConfigFormat) (text : String) : Except Fault Blueprint := do
  let blueprint ← parse format text
  blueprint.validate
  return blueprint

/-- The configuration at a path. -/
def loadFile (path : String) (entry : Option FileEntry) :
    Except Fault Blueprint := do
  let format ← ConfigFormat.ofPath path
  let text ← FileEntry.read entry
  load format text

def toToml (blueprint : Blueprint) : Except Fault String :=
  match Toml.render? blueprint.toDocument with
  | some text => .ok text
  | none => .error (.configSyntax "TOML serialize error")

def toJson (blueprint : Blueprint) : String :=
  Json.pretty 0 blueprint.toDocument

end Blueprint

end LanRelay
