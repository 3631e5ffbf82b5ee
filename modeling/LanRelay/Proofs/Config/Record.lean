/-
The settings are read back from their records, in either dialect.

Main statement: `Blueprint.ofDocument?_toDocument`.
-/
import LanRelay.Config.Record
import LanRelay.Proofs.Net.RoundTrip

namespace LanRelay

open Document

namespace Document

/-- The names of written fields are read back. -/
theorem mapM_ofText {read : Literal × Document → Option (String × Document)}
    (fields : List (String × Document))
    (hread : ∀ name value, read (.ofText name, value) = some (name, value)) :
    (fields.map fun field => (Literal.ofText field.1, field.2)).mapM read =
      some fields := by
  induction fields with
  | nil => rfl
  | cons field fields ih =>
      rw [List.map_cons, List.mapM_cons, ih, hread]
      rfl

/-- A record with distinct known names gives its fields. -/
theorem fields?_ofFields (dialect : Dialect) {names : List String}
    {fields : List (String × Document)}
    (hknown : ∀ field ∈ fields, field.1 ∈ names)
    (hdistinct : (fields.map Prod.fst).Nodup) :
    (ofFields fields).fields? dialect names = some ⟨fields, false⟩ := by
  have hfilter : fields.filter (·.1 ∈ names) = fields := by
    rw [List.filter_eq_self]
    intro field hfield
    exact decide_eq_true (hknown field hfield)
  have hrest : fields.filter (fun field => !decide (field.1 ∈ names)) = [] := by
    rw [List.filter_eq_nil_iff]
    intro field hfield
    simpa using hknown field hfield
  have hnone : fields.filter (not ∘ fun field => decide (field.1 ∈ names)) =
      [] := hrest
  rw [ofFields_eq, fields?, mapM_ofText _ fun name value => by
    simp [Literal.text?_ofText]]
  simp only [Option.bind_eq_bind, Option.bind_some,
    List.partition_eq_filter_filter, hfilter, hnone]
  exact if_pos ⟨hdistinct, rfl⟩

theorem variant?_ofText (dialect : Dialect) {names : List String}
    {name : String} (hname : name ∈ names) :
    (ofText name).variant? dialect names = some name := by
  rw [ofText, variant?, Literal.text?_ofText]
  simp [hname]

end Document

theorem word64OfDocument?_toNat (word : UInt64) :
    word64OfDocument? (.whole word.toNat) = some word := by
  have hrange : (0 : Int) ≤ word.toNat ∧ (word.toNat : Int) < UInt64.size :=
    ⟨Int.natCast_nonneg _, Int.ofNat_lt.mpr word.toNat_lt⟩
  rw [word64OfDocument?, natural?, if_pos hrange, Option.map_some,
    Int.toNat_natCast, UInt64.ofNat_toNat]

theorem word32OfDocument?_toNat (word : UInt32) :
    word32OfDocument? (.whole word.toNat) = some word := by
  have hrange : (0 : Int) ≤ word.toNat ∧ (word.toNat : Int) < UInt32.size :=
    ⟨Int.natCast_nonneg _, Int.ofNat_lt.mpr word.toNat_lt⟩
  rw [word32OfDocument?, natural?, if_pos hrange, Option.map_some,
    Int.toNat_natCast, UInt32.ofNat_toNat]

theorem text?_ofText (text : String) : (ofText text).text? = some text :=
  Literal.text?_ofText text

/-- A value that is written as a text is read from that text. -/
theorem bind_text?_ofText {α : Type} {parse? : String → Option α}
    {text : String} {value : α} (h : parse? text = some value) :
    (ofText text).text?.bind parse? = some value := by
  rw [text?_ofText, Option.bind_some, h]

theorem DeliveryTarget.ofDocument?_toDocument (dialect : Dialect)
    (target : DeliveryTarget) :
    ofDocument? dialect target.toDocument = some target := by
  cases target <;>
    rw [toDocument, ofDocument?, variant?_ofText dialect (by simp)] <;> rfl

theorem DropPolicy.ofDocument?_toDocument (dialect : Dialect)
    (policy : DropPolicy) :
    ofDocument? dialect policy.toDocument = some policy := by
  cases policy <;>
    rw [toDocument, ofDocument?, variant?_ofText dialect (by simp)] <;> rfl

namespace BusSettings

theorem ofDocument?_toDocument (dialect : Dialect) (bus : BusSettings) :
    ofDocument? dialect bus.toDocument = some bus := by
  rw [toDocument, ofDocument?,
    fields?_ofFields dialect (by simp [fieldNames]) (by simp),
    Option.bind_eq_bind, Option.bind_some]
  simp only [Fields.orElse, List.lookup_cons, String.reduceBEq,
    bind_text?_ofText (Endpoint4.parse?_render bus.group),
    bind_text?_ofText (Ipv4.parse?_render bus.interface),
    text?_ofText bus.service, word64OfDocument?_toNat,
    DeliveryTarget.ofDocument?_toDocument, bool?]
  rfl

end BusSettings

namespace MediaSettings

theorem ofDocument?_toDocument (dialect : Dialect) (media : MediaSettings) :
    ofDocument? dialect media.toDocument = some media := by
  rw [toDocument, ofDocument?,
    fields?_ofFields dialect (by simp [fieldNames]) (by simp),
    Option.bind_eq_bind, Option.bind_some]
  simp only [Fields.orElse, List.lookup_cons, String.reduceBEq,
    bind_text?_ofText (Endpoint.parse?_render media.listen),
    word64OfDocument?_toNat, word32OfDocument?_toNat]
  rfl

end MediaSettings

namespace SessionSettings

theorem ofDocument?_toDocument (dialect : Dialect)
    (session : SessionSettings) :
    ofDocument? dialect session.toDocument = some session := by
  rw [toDocument, ofDocument?,
    fields?_ofFields dialect (by simp [fieldNames]) (by simp),
    Option.bind_eq_bind, Option.bind_some]
  simp only [Fields.orElse, List.lookup_cons, String.reduceBEq,
    text?_ofText, word64OfDocument?_toNat]
  rfl

end SessionSettings

namespace SinkSettings

theorem ofDocument?_toDocument (dialect : Dialect) (sinks : SinkSettings) :
    ofDocument? dialect sinks.toDocument = some sinks := by
  rw [toDocument, ofDocument?,
    fields?_ofFields dialect (by simp [fieldNames]) (by simp),
    Option.bind_eq_bind, Option.bind_some]
  simp only [Fields.orElse, List.lookup_cons, String.reduceBEq,
    word64OfDocument?_toNat, word32OfDocument?_toNat,
    DropPolicy.ofDocument?_toDocument]
  rfl

end SinkSettings

namespace Blueprint

/-- A configuration is read back from its record, in either dialect. -/
theorem ofDocument?_toDocument (dialect : Dialect) (blueprint : Blueprint) :
    ofDocument? dialect blueprint.toDocument = some blueprint := by
  rw [toDocument, ofDocument?,
    fields?_ofFields dialect (by simp [fieldNames]) (by simp),
    Option.bind_eq_bind, Option.bind_some]
  simp only [Fields.orElse, List.lookup_cons, String.reduceBEq,
    BusSettings.ofDocument?_toDocument, MediaSettings.ofDocument?_toDocument,
    SessionSettings.ofDocument?_toDocument,
    SinkSettings.ofDocument?_toDocument]
  rfl

end Blueprint

end LanRelay
