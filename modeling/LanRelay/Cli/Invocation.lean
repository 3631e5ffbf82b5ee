/-
The commands of the program, and what an invocation asks for.
-/
import LanRelay.Cli.Arguments
import LanRelay.Cli.LogFormat
import LanRelay.Net.Address.Parser

namespace LanRelay.Cli

open LanRelay.Text

/-- Settings that take the place of those in the configuration. -/
structure Overrides where
  config : Option String
  group : Option Endpoint4
  interface : Option Ipv4
  service : Option String

structure RunOptions where
  overrides : Overrides
  rtpListen : Option Endpoint
  logSink : Bool
  metricsPort : UInt16
  statsInterval : UInt64
  timeout : UInt64
  dryRun : Bool

/-- What is to be done. -/
inductive Task where
  | run (options : RunOptions)
  | listen (overrides : Overrides) (showState : Bool)
  | publish (overrides : Overrides) (name text : String) (discoverMs : UInt64)
  | validate (config : String) (asJson : Bool)

structure Invocation where
  verbose : Nat
  quiet : Bool
  logFormat : LogFormat
  task : Task

/-- Any text. -/
def checkAny : Check := fun _ => none

/-- A path is not empty. -/
def checkPath : Check := fun text =>
  if text.isEmpty then some .invalidValue else none

/-- A text that a reader accepts. -/
def checkRead {α : Type} (read : String → Option α) : Check := fun text =>
  if (read text).isSome then none else some .unreadableValue

def checkLogFormat : Check := fun text =>
  if (LogFormat.ofName? text).isSome then none else some .invalidValue

def environmentNameOf (name : String) : Option String :=
  some ("WEBRTC_PROXY_" ++ name)

/-- The options of every level. -/
def globalOptions : List OptionSpec := [
  { long := "verbose", letter := some 'v', kind := .count,
    environmentName := environmentNameOf "VERBOSE" },
  { long := "quiet", letter := some 'q', kind := .switch,
    excludes := some "verbose" },
  { long := "log-format", kind := .value checkLogFormat,
    environmentName := environmentNameOf "LOG_FORMAT" },
  { long := "help", letter := some 'h', kind := .help }]

/-- The options of every command that joins the bus. -/
def overrideOptions : List OptionSpec := [
  { long := "config", letter := some 'c', kind := .value checkPath,
    environmentName := environmentNameOf "CONFIG" },
  { long := "bus-group", kind := .value (checkRead Endpoint4.parse?),
    environmentName := environmentNameOf "BUS_GROUP" },
  { long := "interface", kind := .value (checkRead Ipv4.parse?),
    environmentName := environmentNameOf "BUS_INTERFACE" },
  { long := "service", kind := .value checkAny,
    environmentName := environmentNameOf "SERVICE" }]

def runCommand : Command := .leaf (overrideOptions ++ [
  { long := "rtp-listen", kind := .value (checkRead Endpoint.parse?),
    environmentName := environmentNameOf "RTP_LISTEN" },
  { long := "log-sink", kind := .switch,
    environmentName := environmentNameOf "LOG_SINK" },
  { long := "metrics-port", kind := .value (Level.checkInteger 65535),
    environmentName := environmentNameOf "METRICS_PORT" },
  { long := "stats-interval", kind := .value (checkRead word64?),
    environmentName := environmentNameOf "STATS_INTERVAL" },
  { long := "timeout", kind := .value (checkRead word64?),
    environmentName := environmentNameOf "TIMEOUT" },
  { long := "dry-run", kind := .switch }] ++ globalOptions)

def listenCommand : Command := .leaf (overrideOptions ++ [
  { long := "state", kind := .switch }] ++ globalOptions)

def publishCommand : Command := .leaf (overrideOptions ++ [
  { long := "name", kind := .value checkAny, required := true },
  { long := "text", kind := .value checkAny },
  { long := "discover-ms", kind := .value (checkRead word64?) }] ++
  globalOptions)

def validateCommand : Command := .leaf ([
  { long := "config", letter := some 'c', kind := .value checkPath },
  { long := "json", kind := .switch }] ++ globalOptions)

def program : Command := .group (globalOptions ++ [
  { long := "version", letter := some 'V', kind := .version }]) [
  ("run", runCommand),
  ("bus", .group globalOptions [
    ("listen", listenCommand), ("publish", publishCommand)]),
  ("validate", validateCommand)]

/-- The variables that stand in for options; all of these are options of
`run`. -/
def environmentNames : List String :=
  runCommand.options.filterMap (·.environmentName)

namespace Level

def switch (level : Level) (name : String) : Bool :=
  level.value? name == some "true"

def word64 (level : Level) (name : String) (default : UInt64) : UInt64 :=
  ((level.value? name).bind word64?).getD default

def overrides (level : Level) : Overrides where
  config := level.value? "config"
  group := (level.value? "bus-group").bind Endpoint4.parse?
  interface := (level.value? "interface").bind Ipv4.parse?
  service := level.value? "service"

/-- What the command of the deepest level is to do. -/
def task? (command : String) (level : Level) : Option Task :=
  match command with
  | "run" =>
      some (.run {
        overrides := level.overrides
        rtpListen := (level.value? "rtp-listen").bind Endpoint.parse?
        logSink := level.switch "log-sink"
        metricsPort :=
          match (level.value? "metrics-port").bind integer? with
          | some port => UInt16.ofNat port.toNat
          | none => 9000
        statsInterval := level.word64 "stats-interval" 10
        timeout := level.word64 "timeout" 0
        dryRun := level.switch "dry-run" })
  | "listen" => some (.listen level.overrides (level.switch "state"))
  | "publish" =>
      (level.value? "name").map fun name =>
        .publish level.overrides name ((level.value? "text").getD "")
          (level.word64 "discover-ms" 2500)
  | "validate" =>
      some (.validate ((level.value? "config").getD "proxy.toml")
        (level.switch "json"))
  | _ => none

end Level

/-- What a command line asks for. -/
def Invocation.parse (environment : String → Option String)
    (words : List String) : Except UsageFault Invocation := do
  let path ← program.read environment "" {} false words
  let levels := path.map (·.2)
  let some (command, level) := path.getLast? | throw .missingSubcommand
  let some task := level.task? command | throw .missingSubcommand
  let quiet := globalValue? levels "quiet"
  return {
    verbose :=
      match (globalValue? levels "verbose").bind Level.integer? with
      | some n => n.toNat
      | none => 0
    quiet := quiet == some "true"
    logFormat :=
      ((globalValue? levels "log-format").bind LogFormat.ofName?).getD .pretty
    task }

end LanRelay.Cli
