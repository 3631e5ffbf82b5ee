/-
What the commands print.
-/
import LanRelay.Config.Advice
import LanRelay.Config.Rule
import LanRelay.Document.Json
import LanRelay.Net.Address.Printer

namespace LanRelay.Cli

/-- The name of a drop policy in a report. -/
def policyTitle : DropPolicy → String
  | .dropOldest => "DropOldest"
  | .dropNewest => "DropNewest"

/-- The name of a delivery target in a report. -/
def targetTitle : DeliveryTarget → String
  | .sourceHost => "SourceHost"
  | .selfReported => "SelfReported"

/-- A text of lines, each with its line end. -/
def linesText (lines : List String) : String :=
  String.join (lines.map (· ++ "\n"))

/-- What became of a configuration that was to be validated. One that is valid
comes with the advice on it. -/
structure Validation where
  path : String
  result : Except String (Blueprint × List Advice)

namespace Validation

def isValid (validation : Validation) : Bool :=
  match validation.result with
  | .ok _ => true
  | .error _ => false

/-- The settings that a report shows, under the names of their fields and
with the titles of their lines. -/
def highlights (blueprint : Blueprint) : List (String × String × String) :=
  [("bus_group", "Bus group", blueprint.bus.group.render),
    ("service", "Service", blueprint.bus.service),
    ("rtp_listen", "RTP listen", blueprint.rtp.listen.render),
    ("codec", "Codec", blueprint.session.codec),
    ("drop_policy", "Drop policy", policyTitle blueprint.sinks.dropPolicy)]

def renderText (validation : Validation) : String :=
  linesText <|
    match validation.result with
    | .error message =>
        [s!"✗ Configuration is invalid: {validation.path}", "",
          s!"  Error: {message}"]
    | .ok (blueprint, advice) =>
        let advice := advice.map Advice.message
        [s!"✓ Configuration is valid: {validation.path}", ""] ++
          (highlights blueprint).map
            (fun (_, title, value) => s!"  {title}: {value}") ++
          if advice.isEmpty then []
          else ["", "⚠ Warnings:"] ++ advice.map fun text => s!"  - {text}"

/-- The report as a record. It has a field for the advice only if there is
some. -/
def toDocument (validation : Validation) : Document :=
  Document.ofFields <|
    [("valid", .bool validation.isValid),
      ("config_path", .ofText validation.path)] ++
    match validation.result with
    | .error message => [("error", .ofText message)]
    | .ok (blueprint, advice) =>
        let advice := advice.map Advice.message
        let warnings :=
          if advice.isEmpty then []
          else [("warnings", .list (advice.map .ofText))]
        warnings ++ [("summary", .ofFields ((highlights blueprint).map
          fun (field, _, value) => (field, .ofText value)))]

def renderJson (validation : Validation) : String :=
  Json.pretty 0 validation.toDocument ++ "\n"

/-- The report, as a record or for the eye. -/
def render (validation : Validation) (asJson : Bool) : String :=
  if asJson then validation.renderJson else validation.renderText

end Validation

/-- A 32-bit word in hexadecimal, with all its digits. -/
def wordText (word : UInt32) : String :=
  "0x" ++ Text.padStart '0' 8 (Text.hexNumeral word.toNat)

/-- The settings that a run would use. -/
def settingsText (blueprint : Blueprint) : String :=
  let bus := blueprint.bus
  let sinks := blueprint.sinks
  linesText <|
    ["", "=== Configuration Summary ===", "", "Bus:",
      s!"  Group: {bus.group.render}",
      s!"  Interface: {bus.interface.render}",
      s!"  Service: {bus.service}",
      s!"  Announce every {bus.announceIntervalMs.toNat}ms, " ++
        s!"peer ttl {bus.peerTtlMs.toNat}ms",
      s!"  Delivery target: {targetTitle bus.deliveryTarget}",
      "", "RTP:",
      s!"  Listen: {blueprint.rtp.listen.render}",
      s!"  SSRC: {wordText blueprint.rtp.ssrc}",
      "", "Sessions:",
      s!"  Codec: {blueprint.session.codec}",
      s!"  Data channel frame: {blueprint.session.frameBytes.toNat} bytes",
      "", "Sinks:",
      s!"  Queues: rtp={sinks.rtpCapacity.toNat} " ++
        s!"event={sinks.eventCapacity.toNat}",
      s!"  Drop policy: {policyTitle sinks.dropPolicy}"] ++
    (if 0 < sinks.maxConsecutiveDrops then
      [s!"  Disconnect after {sinks.maxConsecutiveDrops.toNat} " ++
        "consecutive drops"]
    else []) ++ [""]

end LanRelay.Cli
