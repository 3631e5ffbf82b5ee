/-
Whatever configuration a command comes to, everything can be set up under it.

A configuration may be loaded from a file in either format, or be the default
one, and overrides may take effect on it. It is checked after all of them. What
the check lets through is just what the relay relies on, and a buffer for the
media socket.

Main statement: `Cli.resolved_configurations_set_up`.
-/
import LanRelay.Cli.Execution
import LanRelay.Flow.Intake
import LanRelay.Proofs.Config.RoundTrip
import LanRelay.Proofs.Config.Rule
import LanRelay.Proofs.Session.Room

namespace LanRelay

/-! What is set up under a configuration. -/

theorem Queue.withCapacity?_of_pos {α : Type} {capacity : Nat}
    (h : 0 < capacity) :
    withCapacity? capacity = some ({ capacity } : Queue α) := by
  rw [withCapacity?, if_neg (Nat.ne_of_gt h)]

namespace Blueprint

variable {blueprint : Blueprint}

/-- Everything that is made under a configuration can be made: both queues of
the intake, the queue of events of a listener, the timer of announcements, and
every outlet that sessions or the log ever have. -/
structure SetsUp (blueprint : Blueprint) : Prop where
  intake : ∃ intake, Intake.ofBlueprint? blueprint = some intake ∧
    0 < intake.packets.capacity ∧ 0 < intake.events.capacity
  delivery : ∃ queue : Queue Event,
    Queue.withCapacity? blueprint.bus.deliveryCapacity.toNat = some queue
  timer : 0 < Span.ofMillis blueprint.bus.announceIntervalMs.toNat
  outlets (rtpSource eventSource : Nat) (proxy : Proxy) :
    Proxy.Becomes (.create (.ofBlueprint blueprint) rtpSource eventSource)
      proxy → proxy.HasRoom

theorem IsWorkable.setsUp (h : blueprint.IsWorkable) : blueprint.SetsUp where
  intake := by
    refine ⟨{
      packets := { capacity := blueprint.rtp.queueCapacity.toNat }
      events := { capacity := blueprint.bus.deliveryCapacity.toNat }
      policy := blueprint.sinks.dropPolicy }, ?_, h.packetRoom, h.deliveryRoom⟩
    rw [Intake.ofBlueprint?, Intake.withCapacities?,
      Queue.withCapacity?_of_pos h.packetRoom,
      Queue.withCapacity?_of_pos h.deliveryRoom]
    rfl
  delivery := ⟨_, Queue.withCapacity?_of_pos h.deliveryRoom⟩
  timer := Nat.mul_pos h.interval (by decide)
  outlets rtpSource eventSource proxy hbecomes :=
    hbecomes.hasRoom (Proxy.hasRoom_create h.rtpSinkRoom h.eventSinkRoom
      rtpSource eventSource)

end Blueprint

/-! What commands come to. -/

namespace Cli

variable {blueprint result : Blueprint}

theorem finish_eq_ok_iff : finish blueprint = .ok result ↔
    result = blueprint ∧ blueprint.validate = .ok () := by
  rw [finish, bind_eq_ok_iff]
  constructor
  · rintro ⟨_, hvalid, heq⟩
    cases heq
    exact ⟨rfl, mapError_eq_ok_iff.mp hvalid⟩
  · rintro ⟨rfl, hvalid⟩
    exact ⟨(), mapError_eq_ok_iff.mpr hvalid, rfl⟩

theorem validate_of_finish (h : finish blueprint = .ok result) :
    result.validate = .ok () := by
  obtain ⟨rfl, hvalid⟩ := finish_eq_ok_iff.mp h
  exact hvalid

/-- How a command comes to a configuration. -/
inductive Resolved (blueprint : Blueprint) : Prop where
  | load (format : ConfigFormat) (text : String)
      (h : Blueprint.load format text = .ok blueprint)
  | join (overrides : Overrides) (files : Files)
      (h : overrides.resolve files = .ok blueprint)
  | run (options : RunOptions) (files : Files)
      (h : options.resolve files = .ok blueprint)

theorem Resolved.validate (h : Resolved blueprint) :
    blueprint.validate = .ok () := by
  cases h with
  | load format text h => exact (Blueprint.load_eq_ok_iff.mp h).2
  | join overrides files h =>
      obtain ⟨loaded, -, hfinish⟩ := bind_eq_ok_iff.mp h
      exact validate_of_finish hfinish
  | run options files h =>
      obtain ⟨loaded, -, hfinish⟩ := bind_eq_ok_iff.mp h
      exact validate_of_finish hfinish

/-- What a task takes to the network is what its command comes to. -/
theorem resolved_of_execute {task : Task} {files : Files}
    (h : task.execute files = .ready blueprint) : Resolved blueprint := by
  cases task with
  | run options =>
      simp only [Task.execute] at h
      split at h
      · cases h
      · rename_i resolved hresolve
        split at h
        · cases h
        · cases h
          exact .run options files hresolve
  | listen overrides showState =>
      simp only [Task.execute] at h
      split at h
      · cases h
      · rename_i resolved hresolve
        cases h
        exact .join overrides files hresolve
  | publish overrides name text discoverMs =>
      simp only [Task.execute] at h
      split at h
      · cases h
      · rename_i resolved hresolve
        cases h
        exact .join overrides files hresolve
  | validate path asJson =>
      simp only [Task.execute] at h
      split at h
      · cases h
      · split at h <;> cases h

/-- A name for a file in a format. -/
def fileName : ConfigFormat → String
  | .toml => "relay.toml"
  | .json => "relay.json"

theorem ofPath_fileName (format : ConfigFormat) :
    ConfigFormat.ofPath (fileName format) = .ok format := by
  cases format <;> decide +kernel

/-- Take a file as it is. -/
def Overrides.ofFile (path : String) : Overrides where
  config := some path
  group := none
  interface := none
  service := none

theorem load_ofFile {format : ConfigFormat} {files : Files} {text : String}
    (hfile : files (fileName format) = some (.file (.ofText text)))
    (hload : Blueprint.load format text = .ok blueprint) :
    (Overrides.ofFile (fileName format)).load files = .ok blueprint := by
  have hread : Blueprint.loadFile (fileName format)
      (some (.file (.ofText text))) = .ok blueprint := by
    rw [Blueprint.loadFile, ofPath_fileName, FileEntry.read,
      Bytes.toText?_ofText]
    exact hload
  simp only [Overrides.load, Overrides.ofFile, hfile, hread]
  rfl

/-- Whatever the files hold and whatever the overrides are: if a command comes
to a configuration, the relay can rely on it, and everything can be set up under
it. Conversely, every such configuration with a buffer for the media socket is
let through, and is what some file in either format comes to. -/
theorem resolved_configurations_set_up (blueprint : Blueprint) :
    (∀ (task : Task) (files : Files),
      task.execute files = .ready blueprint → Resolved blueprint) ∧
    (Resolved blueprint → blueprint.IsWorkable ∧ blueprint.SetsUp) ∧
    (blueprint.IsWorkable → 0 < blueprint.rtp.readBufferBytes.toNat →
      finish blueprint = .ok blueprint ∧
      ∀ format, ∃ text, blueprint.write format = .ok text ∧
        Blueprint.load format text = .ok blueprint ∧
        ∀ files : Files,
          files (fileName format) = some (.file (.ofText text)) →
            (Overrides.ofFile (fileName format)).resolve files =
              .ok blueprint) := by
  refine ⟨fun task files => resolved_of_execute, ?_, ?_⟩
  · intro h
    have hworkable := (Blueprint.validate_eq_ok_iff.mp h.validate).1
    exact ⟨hworkable, hworkable.setsUp⟩
  · intro hworkable hread
    have hvalid := Blueprint.validate_eq_ok_iff.mpr ⟨hworkable, hread⟩
    have hfinish := finish_eq_ok_iff.mpr ⟨rfl, hvalid⟩
    refine ⟨hfinish, fun format => ?_⟩
    obtain ⟨text, hwritten, hload⟩ := Blueprint.load_write hvalid format
    refine ⟨text, hwritten, hload, fun files hfile => ?_⟩
    exact bind_eq_ok_iff.mpr ⟨blueprint, load_ofFile hfile hload, hfinish⟩

/-- One file, with a codec and a short queue. -/
def sampleFiles : Files := fun path =>
  if path = "relay.toml" then
    some (.file (.ofText
      "[session]\ncodec = \"H264\"\n\n[sinks]\nevent_queue_capacity = 1\n"))
  else none

/-- Overrides of everything that can be overridden. -/
def sampleOptions : RunOptions where
  overrides := {
    config := some "relay.toml"
    group := some ⟨⟨239, 1, 2, 3⟩, 4000⟩
    interface := some .loopback
    service := some "relay" }
  rtpListen := some (.v4 ⟨.loopback, 5004⟩)
  logSink := true
  metricsPort := 9000
  statsInterval := 10
  timeout := 0
  dryRun := false

theorem resolved_configurations_set_up_of_sample :
    ∃ blueprint, sampleOptions.resolve sampleFiles = .ok blueprint ∧
      blueprint.session.codec = "H264" ∧ blueprint.bus.service = "relay" ∧
      blueprint.sinks.eventCapacity = 1 ∧ blueprint.SetsUp := by
  have hresolve : sampleOptions.resolve sampleFiles = .ok {
      bus := {
        group := ⟨⟨239, 1, 2, 3⟩, 4000⟩
        interface := .loopback
        service := "relay" }
      rtp := { listen := .v4 ⟨.loopback, 5004⟩ }
      session := { codec := "H264" }
      sinks := { eventCapacity := 1 } } := by
    decide +kernel
  obtain ⟨-, hsetsUp⟩ := (resolved_configurations_set_up _).2.1
    (.run sampleOptions sampleFiles hresolve)
  exact ⟨_, hresolve, rfl, rfl, rfl, hsetsUp⟩

end Cli

end LanRelay
