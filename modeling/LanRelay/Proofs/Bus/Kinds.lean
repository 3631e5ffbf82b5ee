/-
Events and announcements are told apart by their second field.

The second field of an event is a text and that of an announcement a number.
The other fields of both have the same shapes, or one of the two skips them. So
whatever can be read as both has no second field at all: it is an event without
a name, and an announcement without a port.
-/
import LanRelay.Proofs.Bus.RoundTrip
import LanRelay.Proofs.Wire.Remainder
import Mathlib

namespace LanRelay

open LanRelay.Wire

theorem Timestamp.schema_isLocal : Timestamp.schema.IsLocal := by
  intro number field hentry
  simp only [Timestamp.schema, List.mem_cons, List.not_mem_nil, or_false,
    Prod.mk.injEq] at hentry
  rcases hentry with ⟨-, rfl⟩ | ⟨-, rfl⟩
  · exact Field.number_isLocal "seconds" _
  · exact Field.number_isLocal "nanos" _

theorem Payload.schema_isLocal : Payload.schema.IsLocal := by
  intro number field hentry
  simp only [Payload.schema, List.mem_cons, List.not_mem_nil, or_false,
    Prod.mk.injEq] at hentry
  rcases hentry with ⟨-, rfl⟩ | ⟨-, rfl⟩
  · exact Field.text_isLocal "type_url" _
  · exact Field.bytes_isLocal "value" _

/-- A field uses up the length that its value stands behind, and is skipped if
there is none. -/
def UsesUp (depth : Nat) (key : Key) (tail rest : Bytes) : Prop :=
  if key.shape = .delimited then
    ∃ value, readDelimited tail = .ok (value, rest)
  else skipField depth key tail = .ok rest

theorem UsesUp.of_skipField {depth : Nat} {key : Key} {tail rest : Bytes}
    (h : skipField depth key tail = .ok rest) : UsesUp depth key tail rest := by
  rw [UsesUp]
  split
  · exact skipField_delimited ‹_› h
  · exact h

theorem UsesUp.of_readDelimited {depth : Nat} {key : Key}
    {value tail rest : Bytes} (hshape : key.shape = .delimited)
    (h : readDelimited tail = .ok (value, rest)) :
    UsesUp depth key tail rest := by
  rw [UsesUp, if_pos hshape]
  exact ⟨value, h⟩

theorem UsesUp.unique {depth : Nat} {key : Key} {tail rest rest' : Bytes}
    (h : UsesUp depth key tail rest) (h' : UsesUp depth key tail rest') :
    rest' = rest := by
  rw [UsesUp] at h h'
  split at h
  · rw [if_pos ‹_›] at h'
    obtain ⟨value, hread⟩ := h
    obtain ⟨value', hread'⟩ := h'
    exact (Prod.mk.inj (Except.ok.inj (hread'.symm.trans hread))).2
  · rw [if_neg ‹_›] at h'
    exact Except.ok.inj (h'.symm.trans h)

/-- Only the second field of an event is its name, and that is a text. -/
theorem Event.mergeField_eq_ok {depth : Nat} {draft draft' : Event.Draft}
    {bytes rest : Bytes}
    (h : Event.schema.mergeField depth draft bytes = .ok (draft', rest)) :
    ∃ key tail, readKey bytes = .ok (key, tail) ∧
      (key.number = 2 ∧ key.shape = .delimited ∨
        key.number ≠ 2 ∧ draft'.name = draft.name ∧
          UsesUp depth key tail rest) := by
  obtain ⟨⟨number, shape⟩, tail, hkey,
    ⟨field, hlookup, hmerge⟩ | ⟨⟨hunknown, rfl⟩, hskip⟩⟩ :=
    Schema.mergeField_eq_ok_iff.mp h
  · refine ⟨_, tail, hkey, ?_⟩
    have hfield := Schema.mem_fields_of_lookup hlookup
    simp only [Event.schema, List.mem_cons, List.not_mem_nil, or_false,
      Prod.mk.injEq] at hfield
    rcases hfield with ⟨rfl, rfl⟩ | ⟨rfl, rfl⟩ | ⟨rfl, rfl⟩
    · obtain ⟨n, value, ⟨hshape, -, rfl⟩, hread, -⟩ :=
        (Field.inner_merge_iff Timestamp.schema_isLocal).mp hmerge
      exact Or.inr ⟨by simp, rfl, .of_readDelimited hshape hread⟩
    · obtain ⟨text, ⟨hshape, -⟩, -⟩ := Field.text_merge_iff.mp hmerge
      exact Or.inl ⟨rfl, hshape⟩
    · obtain ⟨n, value, ⟨hshape, -, rfl⟩, hread, -⟩ :=
        (Field.inner_merge_iff Payload.schema_isLocal).mp hmerge
      exact Or.inr ⟨by simp, rfl, .of_readDelimited hshape hread⟩
  · refine ⟨_, tail, hkey, Or.inr ⟨?_, rfl, .of_skipField hskip⟩⟩
    rintro rfl
    cases hunknown

/-- Only the second field of an announcement is its port, and that is a
number. -/
theorem Announcement.mergeField_eq_ok {depth : Nat}
    {draft draft' : Announcement.Draft} {bytes rest : Bytes}
    (h : Announcement.schema.mergeField depth draft bytes =
      .ok (draft', rest)) :
    ∃ key tail, readKey bytes = .ok (key, tail) ∧
      (key.number = 2 ∧ key.shape = .varint ∨
        key.number ≠ 2 ∧ draft'.port = draft.port ∧
          UsesUp depth key tail rest) := by
  obtain ⟨⟨number, shape⟩, tail, hkey,
    ⟨field, hlookup, hmerge⟩ | ⟨⟨hunknown, rfl⟩, hskip⟩⟩ :=
    Schema.mergeField_eq_ok_iff.mp h
  · refine ⟨_, tail, hkey, ?_⟩
    have hfield := Schema.mem_fields_of_lookup hlookup
    simp only [Announcement.schema, List.mem_cons, List.not_mem_nil, or_false,
      Prod.mk.injEq] at hfield
    rcases hfield with ⟨rfl, rfl⟩ | ⟨rfl, rfl⟩ | ⟨rfl, rfl⟩ | ⟨rfl, rfl⟩ |
      ⟨rfl, rfl⟩
    · obtain ⟨text, ⟨hshape, rfl⟩, hread⟩ := Field.text_merge_iff.mp hmerge
      exact Or.inr ⟨by simp, rfl, .of_readDelimited hshape hread⟩
    · obtain ⟨n, ⟨hshape, -⟩, -⟩ := Field.number_merge_iff.mp hmerge
      exact Or.inl ⟨rfl, hshape⟩
    · obtain ⟨text, ⟨hshape, rfl⟩, hread⟩ := Field.text_merge_iff.mp hmerge
      exact Or.inr ⟨by simp, rfl, .of_readDelimited hshape hread⟩
    · obtain ⟨n, value, ⟨hshape, -, rfl⟩, hread, -⟩ :=
        (Field.inner_merge_iff Timestamp.schema_isLocal).mp hmerge
      exact Or.inr ⟨by simp, rfl, .of_readDelimited hshape hread⟩
    · obtain ⟨n, value, ⟨hshape, -, rfl⟩, hread, -⟩ :=
        (Field.inner_merge_iff Timestamp.schema_isLocal).mp hmerge
      exact Or.inr ⟨by simp, rfl, .of_readDelimited hshape hread⟩
  · refine ⟨_, tail, hkey, Or.inr ⟨?_, rfl, .of_skipField hskip⟩⟩
    rintro rfl
    cases hunknown

/-- What is read so far is an event without a name and an announcement without
a port. -/
def Unmarked (event : Event.Draft) (announcement : Announcement.Draft) :
    Prop :=
  event.name = "" ∧ announcement.port = 0

/-- A field that both can read is not the second one. -/
theorem Unmarked.mergeField {depth : Nat} {event event' : Event.Draft}
    {announcement announcement' : Announcement.Draft}
    {bytes rest rest' : Bytes} (h : Unmarked event announcement)
    (hevent : Event.schema.mergeField depth event bytes = .ok (event', rest))
    (hannouncement : Announcement.schema.mergeField depth announcement bytes =
      .ok (announcement', rest')) :
    rest' = rest ∧ Unmarked event' announcement' := by
  obtain ⟨key, tail, hkey, hfirst⟩ := Event.mergeField_eq_ok hevent
  obtain ⟨key', tail', hkey', hsecond⟩ :=
    Announcement.mergeField_eq_ok hannouncement
  obtain ⟨rfl, rfl⟩ := Prod.mk.inj (Except.ok.inj (hkey.symm.trans hkey'))
  -- A second field would be a text to the one and a number to the other.
  rcases hfirst with ⟨htwo, htext⟩ | ⟨hother, hname, huses⟩
  · rcases hsecond with ⟨-, hnumber⟩ | ⟨hother, -, -⟩
    · rw [htext] at hnumber
      cases hnumber
    · exact absurd htwo hother
  · rcases hsecond with ⟨htwo, -⟩ | ⟨-, hport, huses'⟩
    · exact absurd htwo hother
    · exact ⟨huses.unique huses', hname.trans h.1, hport.trans h.2⟩

theorem Unmarked.read {bytes : Bytes} {event : Event.Draft}
    {announcement : Announcement.Draft}
    (hevent : Event.schema.read .blank bytes = .ok event)
    (hannouncement : Announcement.schema.read .blank bytes =
      .ok announcement) : Unmarked event announcement := by
  obtain ⟨⟨event', rest⟩, hfirst, rfl⟩ := map_eq_ok_iff.mp hevent
  obtain ⟨⟨announcement', rest'⟩, hsecond, rfl⟩ :=
    map_eq_ok_iff.mp hannouncement
  have hblank : Unmarked .blank .blank := ⟨rfl, rfl⟩
  exact Schema.mergeUntil_together Unmarked.mergeField hblank hfirst hsecond

theorem Event.decode_eq_ok_iff {bytes : Bytes} {event : Event} :
    Event.decode bytes = .ok event ↔
      bytes.length ≤ maxDatagram ∧
        ∃ draft, Event.schema.read .blank bytes = .ok draft ∧
          ⟨draft.name, draft.stamp.getD .zero, draft.data.getD (.raw [])⟩ =
            event := by
  constructor
  · intro h
    obtain ⟨bytes', hbounded, hread⟩ := bind_eq_ok_iff.mp h
    obtain ⟨rfl, hfits⟩ := length_le_of_bounded hbounded
    split at hread
    · cases hread
    · rename_i draft hdraft
      cases hread
      exact ⟨hfits, draft, hdraft, rfl⟩
  · rintro ⟨hfits, draft, hdraft, rfl⟩
    simp only [Event.decode, bounded_of_le hfits, bind, Except.bind, hdraft]
    rfl

theorem Announcement.decode_eq_ok {bytes : Bytes} {announcement : Announcement}
    (h : Announcement.decode bytes = .ok announcement) :
    ∃ draft, Announcement.schema.read .blank bytes = .ok draft ∧
      announcement.port = UInt16.ofNat draft.port.toInt.toNat := by
  obtain ⟨bytes', hbounded, hread⟩ := bind_eq_ok_iff.mp h
  obtain ⟨rfl, -⟩ := length_le_of_bounded hbounded
  split at hread
  · cases hread
  · rename_i draft hdraft
    split at hread
    · cases hread
      exact ⟨draft, hdraft, rfl⟩
    · cases hread

/-- What is read both as an event and as an announcement has no second
field. -/
theorem unmarked_of_decode {bytes : Bytes} {event : Event}
    {announcement : Announcement} (hevent : Event.decode bytes = .ok event)
    (hannouncement : Announcement.decode bytes = .ok announcement) :
    event.name = "" ∧ announcement.port = 0 := by
  obtain ⟨-, draft, hdraft, rfl⟩ := Event.decode_eq_ok_iff.mp hevent
  obtain ⟨draft', hdraft', hport⟩ := Announcement.decode_eq_ok hannouncement
  obtain ⟨hblank, hzero⟩ := Unmarked.read hdraft hdraft'
  rw [hport, hzero]
  exact ⟨hblank, rfl⟩

/-- What fits into a datagram and is not an event fails to be read as one. -/
theorem Event.decode_isDecode {bytes : Bytes} {fault : Fault}
    (hfits : bytes.length ≤ maxDatagram)
    (h : Event.decode bytes = .error fault) : fault.isDecode = true := by
  simp only [Event.decode, bounded_of_le hfits, bind, Except.bind] at h
  split at h
  · cases h
    rfl
  · cases h

theorem Datagram.decode_event {event : Event} {bytes : Bytes}
    (h : event.encode = .ok bytes) :
    Datagram.decode bytes = .ok (.event event) := by
  simp only [Datagram.decode, Event.faithful.readBack h]

/-- An announcement with a port is not an event, and so is read as what it
is. -/
theorem Datagram.decode_announcement {announcement : Announcement}
    {bytes : Bytes} (hport : announcement.port ≠ 0)
    (h : announcement.encode = .ok bytes) :
    Datagram.decode bytes = .ok (.announcement announcement) := by
  have hread := Announcement.faithful.readBack h
  obtain ⟨rfl, hfits⟩ := length_le_of_bounded h
  cases hevent : Event.decode announcement.toWire with
  | ok event =>
      exact absurd (unmarked_of_decode hevent hread).2 hport
  | error fault =>
      simp only [Datagram.decode, hevent, Event.decode_isDecode hfits hevent,
        if_true, hread]

/-- The second field tells events and announcements apart. -/
theorem second_field_tells_apart (bytes : Bytes) (event : Event)
    (announcement : Announcement) :
    (Event.decode bytes = .ok event →
      Announcement.decode bytes = .ok announcement →
        event.name = "" ∧ announcement.port = 0) ∧
    (event.encode = .ok bytes →
      Datagram.decode bytes = .ok (.event event)) ∧
    (announcement.port ≠ 0 → announcement.encode = .ok bytes →
      Datagram.decode bytes = .ok (.announcement announcement)) :=
  ⟨unmarked_of_decode, Datagram.decode_event, Datagram.decode_announcement⟩

/-- Two bytes that are read both ways, an event and an announcement. -/
theorem second_field_tells_apart_of_samples :
    (∃ event announcement, Event.decode [34, 0] = .ok event ∧
      Announcement.decode [34, 0] = .ok announcement ∧
      event.name = "" ∧ announcement.port = 0) ∧
    Datagram.decode [10, 0, 18, 1, 110, 26, 0] =
      .ok (.event ⟨"n", .zero, .raw []⟩) ∧
    Datagram.decode [10, 1, 104, 16, 136, 39, 34, 0] =
      .ok (.announcement ⟨"h", 5000, "", .zero, none⟩) := by
  have hevent : Event.decode [34, 0] = .ok ⟨"", .zero, .raw []⟩ := by
    decide +kernel
  have hannouncement :
      Announcement.decode [34, 0] = .ok ⟨"", 0, "", .zero, none⟩ := by
    decide +kernel
  exact ⟨⟨_, _, hevent, hannouncement,
      (second_field_tells_apart _ _ _).1 hevent hannouncement⟩,
    (second_field_tells_apart _ ⟨"n", .zero, .raw []⟩
      ⟨"", 0, "", .zero, none⟩).2.1 (by cbv),
    (second_field_tells_apart _ ⟨"n", .zero, .raw []⟩
      ⟨"h", 5000, "", .zero, none⟩).2.2 (by decide) (by cbv)⟩

end LanRelay
