/-
A configuration survives being written and loaded again, in either format.

Main statements: `Blueprint.load_toToml`, `Blueprint.load_toJson`. Both rest on
`parse_toToml` and `parse_toJson`, which hold of every configuration, whether
it keeps the rules or not.
-/
import LanRelay.Config.File
import LanRelay.Proofs.Config.Record
import LanRelay.Proofs.Document.Json
import LanRelay.Proofs.Document.Toml
import LanRelay.Proofs.Outcome

namespace LanRelay

open Document

namespace Toml

theorem IsLeaf.isPlain {value : Document} (h : IsLeaf value) :
    value.IsPlain := by
  cases h with
  | text text => exact .text text
  | whole value hrange => exact .whole value
  | bool value => exact .bool value

/-- What can be written as sections can be written in the other format. -/
theorem Section.isPlain_documentOf {sections : List Section}
    (h : ∀ part ∈ sections, part.IsWritable) :
    (documentOf sections).IsPlain := by
  refine .record _ fun field hfield => ?_
  obtain ⟨part, hpart, rfl⟩ := List.mem_map.mp hfield
  exact .record _ fun entry hentry =>
    ((h part hpart).values entry hentry).isPlain

end Toml

namespace Blueprint

/-- The sections that stand for a configuration. -/
def sections (blueprint : Blueprint) : List Toml.Section :=
  [⟨"bus", [("multicast_group", ofText blueprint.bus.group.render),
      ("interface", ofText blueprint.bus.interface.render),
      ("service", ofText blueprint.bus.service),
      ("announce_interval_ms", .whole blueprint.bus.announceIntervalMs.toNat),
      ("peer_ttl_ms", .whole blueprint.bus.peerTtlMs.toNat),
      ("delivery_target", blueprint.bus.deliveryTarget.toDocument),
      ("delivery_queue_capacity",
        .whole blueprint.bus.deliveryCapacity.toNat),
      ("multicast_loop", .bool blueprint.bus.multicastLoop)]⟩,
    ⟨"rtp", [("listen", ofText blueprint.rtp.listen.render),
      ("read_buffer_bytes", .whole blueprint.rtp.readBufferBytes.toNat),
      ("ssrc", .whole blueprint.rtp.ssrc.toNat),
      ("queue_capacity", .whole blueprint.rtp.queueCapacity.toNat)]⟩,
    ⟨"session", [("codec", ofText blueprint.session.codec),
      ("data_channel_frame_bytes",
        .whole blueprint.session.frameBytes.toNat)]⟩,
    ⟨"sinks", [("rtp_queue_capacity",
        .whole blueprint.sinks.rtpCapacity.toNat),
      ("event_queue_capacity", .whole blueprint.sinks.eventCapacity.toNat),
      ("drop_policy", blueprint.sinks.dropPolicy.toDocument),
      ("max_consecutive_drops",
        .whole blueprint.sinks.maxConsecutiveDrops.toNat)]⟩]

theorem documentOf_sections (blueprint : Blueprint) :
    Toml.Section.documentOf blueprint.sections = blueprint.toDocument := rfl

theorem isWritable_sections (blueprint : Blueprint) :
    ∀ part ∈ blueprint.sections, part.IsWritable := by
  have htarget : Toml.IsLeaf blueprint.bus.deliveryTarget.toDocument :=
    .text _
  have hpolicy : Toml.IsLeaf blueprint.sinks.dropPolicy.toDocument :=
    .text _
  have htext (text : String) : Toml.IsLeaf (ofText text) := .text text
  have hbool (value : Bool) : Toml.IsLeaf (.bool value) := .bool value
  simp only [sections, List.forall_mem_cons]
  refine ⟨?_, ?_, ?_, ?_, by simp⟩
  · refine Toml.Section.isWritable_of_keys BusSettings.fieldNames rfl (by decide)
      (by decide) ?_
    simp [htext, Toml.isLeaf_word64, htarget, hbool]
  · refine Toml.Section.isWritable_of_keys MediaSettings.fieldNames rfl (by decide)
      (by decide) ?_
    simp [htext, Toml.isLeaf_word64, Toml.isLeaf_word32]
  · refine Toml.Section.isWritable_of_keys SessionSettings.fieldNames rfl (by decide)
      (by decide) ?_
    simp [htext, Toml.isLeaf_word64]
  · refine Toml.Section.isWritable_of_keys SinkSettings.fieldNames rfl (by decide)
      (by decide) ?_
    simp [Toml.isLeaf_word64, Toml.isLeaf_word32, hpolicy]

theorem nodup_names_sections (blueprint : Blueprint) :
    (Toml.Section.names blueprint.sections).Nodup := by
  have hnames : Toml.Section.names blueprint.sections = fieldNames := rfl
  rw [hnames]
  decide

/-! Every configuration is read back -/

theorem parse_toToml (blueprint : Blueprint) :
    ∃ written, blueprint.toToml = .ok written ∧
      parse .toml written = .ok blueprint := by
  obtain ⟨written, hwritten, hparse⟩ := Toml.parse?_render
    blueprint.isWritable_sections blueprint.nodup_names_sections
  rw [documentOf_sections] at hwritten hparse
  refine ⟨written, by delta toToml; rw [hwritten], ?_⟩
  rw [parse, hparse, Option.bind_some, ofDocument?_toDocument]

theorem parse_toJson (blueprint : Blueprint) :
    parse .json blueprint.toJson = .ok blueprint := by
  have hplain := Toml.Section.isPlain_documentOf blueprint.isWritable_sections
  rw [documentOf_sections] at hplain
  have hread : Json.read? blueprint.toJson = some blueprint := by
    rw [toJson, Json.read?, Json.parse?_pretty hplain, Option.bind_some]
    exact ofDocument?_toDocument Json.dialect blueprint
  rw [parse, hread]

/-! What has been loaded keeps the rules -/

theorem load_eq_ok_iff {format : ConfigFormat} {text : String}
    {blueprint : Blueprint} :
    load format text = .ok blueprint ↔
      parse format text = .ok blueprint ∧ blueprint.validate = .ok () := by
  rw [load, bind_eq_ok_iff]
  constructor
  · rintro ⟨read, hread, hload⟩
    obtain ⟨_, hvalid, heq⟩ := bind_eq_ok_iff.mp hload
    cases heq
    exact ⟨hread, hvalid⟩
  · rintro ⟨hread, hvalid⟩
    exact ⟨blueprint, hread, bind_eq_ok_iff.mpr ⟨(), hvalid, rfl⟩⟩

/-- The text of a configuration in either format. -/
def write (format : ConfigFormat) (blueprint : Blueprint) :
    Except Fault String :=
  match format with
  | .toml => blueprint.toToml
  | .json => .ok blueprint.toJson

/-- What is written in either format is loaded as what it was, if it keeps the
rules. -/
theorem load_write {blueprint : Blueprint} (hvalid : blueprint.validate = .ok ())
    (format : ConfigFormat) :
    ∃ written, blueprint.write format = .ok written ∧
      load format written = .ok blueprint := by
  cases format with
  | toml =>
      obtain ⟨written, hwritten, hparse⟩ := parse_toToml blueprint
      exact ⟨written, hwritten, load_eq_ok_iff.mpr ⟨hparse, hvalid⟩⟩
  | json =>
      have hparse := parse_toJson blueprint
      exact ⟨blueprint.toJson, rfl, load_eq_ok_iff.mpr ⟨hparse, hvalid⟩⟩

/-- What has been loaded from either format survives TOML: it can be written,
and what was written is loaded as the same configuration. -/
theorem load_toToml {format : ConfigFormat} {text : String}
    {blueprint : Blueprint} (h : load format text = .ok blueprint) :
    ∃ written, blueprint.toToml = .ok written ∧
      load .toml written = .ok blueprint := by
  obtain ⟨-, hvalid⟩ := load_eq_ok_iff.mp h
  exact load_write hvalid .toml

/-- A configuration with both kinds of quotes, a line end and a scope. -/
def quotedSample : Blueprint where
  bus.service := "it's \"it\"\n"
  rtp.listen := .v6 ⟨[0xfe80, 0, 0, 0, 0, 0, 0, 1], rfl⟩ 5000 3
  rtp.ssrc := 0xffffffff

/-- A text of that configuration; not the one that would be written. -/
def quotedToml : String :=
  "[bus]\nservice = \"\"\"\nit's \\\"it\\\"\n\"\"\"\n\n" ++
    "[rtp]\nlisten = \"[fe80::0:1%3]:5000\"\nssrc = 0xffff_ffff\n"

theorem load_toToml_of_quotedToml :
    load .toml quotedToml = .ok quotedSample ∧
      ∃ written, quotedSample.toToml = .ok written ∧
        load .toml written = .ok quotedSample := by
  have hload : load .toml quotedToml = .ok quotedSample := by decide +kernel
  exact ⟨hload, load_toToml hload⟩

/-! Conversion -/

/-- Load a text in one format, and write it in another. -/
def convert (source target : ConfigFormat) (text : String) :
    Except Fault String := do
  let blueprint ← load source text
  blueprint.write target

theorem convert_eq_ok_iff {source target : ConfigFormat}
    {text written : String} :
    convert source target text = .ok written ↔
      ∃ blueprint, load source text = .ok blueprint ∧
        blueprint.write target = .ok written := by
  rw [convert, bind_eq_ok_iff]

/-- What has been loaded from either format survives JSON, and a text that is
converted from one format to another is loaded as before. Converted to its own
format, it is written again as it is. -/
theorem load_toJson {source : ConfigFormat} {text : String}
    {blueprint : Blueprint} (h : load source text = .ok blueprint) :
    load .json blueprint.toJson = .ok blueprint ∧
      ∀ target, ∃ written, convert source target text = .ok written ∧
        load target written = load source text ∧
        convert target target written = .ok written := by
  obtain ⟨-, hvalid⟩ := load_eq_ok_iff.mp h
  refine ⟨load_eq_ok_iff.mpr ⟨parse_toJson blueprint, hvalid⟩, ?_⟩
  intro target
  obtain ⟨written, hwritten, hload⟩ := load_write hvalid target
  exact ⟨written, convert_eq_ok_iff.mpr ⟨blueprint, h, hwritten⟩,
    hload.trans h.symm, convert_eq_ok_iff.mpr ⟨blueprint, hload, hwritten⟩⟩

/-- A configuration with a control character, a backslash and the greatest
capacity. -/
def escapedSample : Blueprint where
  session.codec := "\x01\\VP8"
  sinks.rtpCapacity := 18446744073709551615
  sinks.dropPolicy := .dropNewest

def escapedJson : String :=
  "\x7b\"session\": \x7b\"codec\": \"\\u0001\\\\VP8\"\x7d, " ++
    "\"sinks\": [18446744073709551615, 64, \"drop_newest\"]\x7d"

theorem load_toJson_of_escapedJson :
    load .json escapedJson = .ok escapedSample ∧
      load .json escapedSample.toJson = .ok escapedSample ∧
        ∀ target, ∃ written,
          convert .json target escapedJson = .ok written ∧
            load target written = load .json escapedJson ∧
            convert target target written = .ok written := by
  have hload : load .json escapedJson = .ok escapedSample := by
    decide +kernel
  exact ⟨hload, load_toJson hload⟩

end Blueprint

end LanRelay
