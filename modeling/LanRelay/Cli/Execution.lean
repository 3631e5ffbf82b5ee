/-
Carrying out a task, as far as it goes without the network.

A configuration is loaded and must keep the rules; the overrides take effect
after that, and the result must keep the rules again.
-/
import LanRelay.Cli.Invocation
import LanRelay.Cli.Report
import LanRelay.Config.File

namespace LanRelay.Cli

/-- What stands at each path. -/
abbrev Files := String → Option FileEntry

/-- What carrying out a task comes to. -/
inductive Outcome where
  /-- All is done, with this output. -/
  | done (output : String)
  /-- The task failed after this output. -/
  | failed (message output : String)
  /-- A number went out of range, and the task was broken off without any
  output. -/
  | aborted
  /-- What remains is done on the network, under this configuration. -/
  | ready (blueprint : Blueprint)

/-- The configuration that a file gives, or the default one, with the
overrides in place. It may break the rules. -/
def Overrides.load (overrides : Overrides) (files : Files) :
    Except String Blueprint := do
  let blueprint ←
    match overrides.config with
    | none => pure {}
    | some path =>
        match files path with
        | none => throw s!"Configuration file not found: {path}"
        | some entry =>
            (Blueprint.loadFile path (some entry)).mapError fun fault =>
              s!"Failed to load config from {path}: {fault.message}"
  let bus := blueprint.bus
  return { blueprint with
    bus := { bus with
      group := overrides.group.getD bus.group
      interface := overrides.interface.getD bus.interface
      service := overrides.service.getD bus.service } }

/-- Let a configuration through if it still keeps the rules. -/
def finish (blueprint : Blueprint) : Except String Blueprint := do
  blueprint.validate.mapError fun fault =>
    s!"Configuration invalid after CLI overrides: {fault.message}"
  return blueprint

/-- The configuration of a command that joins the bus. -/
def Overrides.resolve (overrides : Overrides) (files : Files) :
    Except String Blueprint := do
  finish (← overrides.load files)

/-- The configuration of a run, which may also listen elsewhere. -/
def RunOptions.resolve (options : RunOptions) (files : Files) :
    Except String Blueprint := do
  let blueprint ← options.overrides.load files
  let rtp := blueprint.rtp
  finish { blueprint with
    rtp := { rtp with listen := options.rtpListen.getD rtp.listen } }

/-- Validate the configuration at a path. Nothing comes of it if it cannot be
told which advice applies. -/
def validation? (files : Files) (path : String) : Option Validation :=
  match files path with
  | none => some { path, result := .error s!"File not found: {path}" }
  | some entry =>
      match Blueprint.loadFile path (some entry) with
      | .error fault => some { path, result := .error fault.message }
      | .ok blueprint =>
          blueprint.advice?.map fun advice =>
            { path, result := .ok (blueprint, advice) }

/-- The path of the configuration that a task reads. -/
def Task.configPath? : Task → Option String
  | .validate path _ => some path
  | .run options => options.overrides.config
  | .listen overrides _ | .publish overrides _ _ _ => overrides.config

/-- Carry out a task. -/
def Task.execute (files : Files) : Task → Outcome
  | .validate path asJson =>
      match validation? files path with
      | none => .aborted
      | some report =>
          let output := report.render asJson
          if report.isValid then .done output
          else .failed "Configuration validation failed" output
  | .run options =>
      match options.resolve files with
      | .error message => .failed message ""
      | .ok blueprint =>
          if options.dryRun then .done (settingsText blueprint)
          else .ready blueprint
  | .listen overrides _ | .publish overrides _ _ _ =>
      match overrides.resolve files with
      | .error message => .failed message ""
      | .ok blueprint => .ready blueprint

end LanRelay.Cli
