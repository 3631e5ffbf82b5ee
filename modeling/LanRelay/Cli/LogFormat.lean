/-
The formats of the log.
-/
namespace LanRelay

inductive LogFormat where
  | json
  | pretty
  | compact
deriving DecidableEq, Repr

namespace LogFormat

def name : LogFormat → String
  | json => "json"
  | pretty => "pretty"
  | compact => "compact"

def all : List LogFormat := [json, pretty, compact]

/-- The format of exactly the given name. -/
def ofName? (text : String) : Option LogFormat := all.find? (·.name == text)

/-- The format of a name in any case, or the words for an unknown one. -/
def parse (text : String) : Except String LogFormat :=
  let name := text.map Char.toLower
  match ofName? name with
  | some format => .ok format
  | none =>
      .error s!"unknown log format '{name}' (expected json, pretty or compact)"

end LogFormat

end LanRelay
