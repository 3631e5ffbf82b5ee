/-
Which line of a description resolves a codec.

A line offers the codec if it maps a payload type to its name and stands in a
video section. The first such line decides; no other line, and no other
section, has any part in it.

Main statement: `first_video_offer_resolves`.
-/
import LanRelay.Proofs.Text.Cutting
import LanRelay.Session.Description

namespace LanRelay

open LanRelay.Text

namespace Description

/-! Lines and sections. -/

/-- The lines of a text. -/
def lines (sdp : String) : List (List Char) := splitAt '\n' sdp.toList

/-- The line is `m=...`. -/
def BeginsSection (line : List Char) : Prop :=
  ∃ rest, trim line = "m=".toList ++ rest

/-- The line is `m=...`, with `video` as the first word behind it. -/
def BeginsVideo (line : List Char) : Prop :=
  ∃ blanks rest,
    trim line = "m=".toList ++ (blanks ++ "video".toList ++ rest) ∧
    (∀ c ∈ blanks, isBlank c) ∧ ∀ c ∈ rest.head?, isBlank c

/-- The text is `<type> <name>` or `<type> <name>/...`, with these two. Blank
characters around the type and behind the space do not count. -/
def Pairs (value : List Char) (payloadType : UInt8) (name : List Char) : Prop :=
  ∃ type encoding, value = type ++ ' ' :: encoding ∧ ' ' ∉ type ∧
    byte? (String.ofList (trim type)) = some payloadType ∧
    '/' ∉ name ∧
    (trim encoding = name ∨ ∃ rest, trim encoding = name ++ '/' :: rest)

/-- The line is `a=rtpmap:<type> <name>` or `a=rtpmap:<type> <name>/...`, with
the given payload type, which is not zero, and the name of the codec in
letters of either case. -/
def Maps (line : List Char) (codec : String) (payloadType : UInt8) : Prop :=
  ∃ value name, trim line = "a=rtpmap:".toList ++ value ∧
    Pairs value payloadType name ∧ payloadType ≠ 0 ∧
    sameIgnoringAsciiCase (String.ofList name) codec

/-- What follows these lines is in a video section: the last of them that
begins a section begins one. -/
def InVideo (before : List (List Char)) : Prop :=
  ∃ front first between, before = front ++ first :: between ∧
    BeginsVideo first ∧ ∀ line ∈ between, ¬ BeginsSection line

/-- After the lines `before`, the line offers the codec under the payload
type. -/
structure OffersVideo (codec : String) (payloadType : UInt8)
    (before : List (List Char)) (line : List Char) : Prop where
  inVideo : InVideo before
  maps : Maps line codec payloadType

/-- Lines that say nothing about the codec where they stand, between `before`
and `after`. Either no section begins in them and none of them offers the
codec, or they are one section that is no video section, whatever else it
holds. -/
inductive SaysNothing (codec : String) (before after : List (List Char)) :
    List (List Char) → Prop where
  | lines {dropped : List (List Char)}
      (hsection : ∀ line ∈ dropped, ¬ BeginsSection line)
      (hoffer : ∀ line ∈ dropped, ∀ payloadType,
        ¬ OffersVideo codec payloadType before line) :
      SaysNothing codec before after dropped
  | otherSection {first : List Char} {body : List (List Char)}
      (hfirst : BeginsSection first) (hvideo : ¬ BeginsVideo first)
      (hbody : ∀ line ∈ body, ¬ BeginsSection line)
      (hafter : ∀ line ∈ after.head?, BeginsSection line) :
      SaysNothing codec before after (first :: body)

/-! What a line says. -/

variable {line : List Char}

theorem readLine_eq_media_iff {kind : String} :
    readLine line = .media kind ↔ ∃ rest,
      trim line = "m=".toList ++ rest ∧
        String.ofList (firstWord rest) = kind := by
  rw [readLine]
  constructor
  · intro h
    split at h
    · next rest hstart =>
        exact ⟨rest, stripStart?_eq_some_iff.mp hstart, Line.media.inj h⟩
    · split at h <;> cases h
  · rintro ⟨rest, hstart, rfl⟩
    rw [stripStart?_eq_some_iff.mpr hstart]

theorem readLine_eq_codec_iff {value : List Char} :
    readLine line = .codec value ↔
      trim line = "a=rtpmap:".toList ++ value := by
  rw [readLine]
  constructor
  · intro h
    split at h
    · cases h
    · split at h
      · next rest hstart =>
          rw [stripStart?_eq_some_iff.mp hstart, Line.codec.inj h]
      · cases h
  · intro hstart
    have hmedia : stripStart? "m=".toList (trim line) = none := by
      rw [hstart]
      rfl
    rw [hmedia, stripStart?_eq_some_iff.mpr hstart]

theorem beginsSection_iff :
    BeginsSection line ↔ ∃ kind, readLine line = .media kind := by
  simp only [readLine_eq_media_iff]
  constructor
  · rintro ⟨rest, hrest⟩
    exact ⟨_, rest, hrest, rfl⟩
  · rintro ⟨_, rest, hrest, -⟩
    exact ⟨rest, hrest⟩

theorem beginsVideo_iff :
    BeginsVideo line ↔ readLine line = .media "video" := by
  have hword (rest : List Char) :
      String.ofList (firstWord rest) = "video" ↔
        firstWord rest = "video".toList := by
    rw [← String.toList_inj, String.toList_ofList]
  have hvisible : ∀ c ∈ "video".toList, isBlank c = false := by
    have hall : "video".toList.all (isBlank · == false) := rfl
    simpa using hall
  simp only [readLine_eq_media_iff, hword,
    firstWord_eq_iff (by decide : "video".toList ≠ []) hvisible, BeginsVideo]
  constructor
  · rintro ⟨blanks, rest, hline, hblanks, hrest⟩
    exact ⟨_, hline, blanks, rest, rfl, hblanks, hrest⟩
  · rintro ⟨_, hline, blanks, rest, rfl, hblanks, hrest⟩
    exact ⟨blanks, rest, hline, hblanks, hrest⟩

/-- The lines in front of one that was read. -/
theorem exists_lines_of_map {block : List (List Char)} {front back : List Line}
    {read : Line} (h : block.map readLine = front ++ read :: back) :
    ∃ before line after, block = before ++ line :: after ∧
      before.map readLine = front ∧ readLine line = read := by
  obtain ⟨before, rest, rfl, hbefore, hrest⟩ := List.map_eq_append_iff.mp h
  obtain ⟨line, after, rfl, hline, -⟩ := List.map_eq_cons_iff.mp hrest
  exact ⟨before, line, after, rfl, hbefore, hline⟩

/-! The section that a line leaves behind, and the codec that it offers. -/

/-- The kind of the section after a line. -/
def Line.kindAfter (media : String) : Line → String
  | .media kind => kind
  | .codec _ => media
  | .other => media

/-- The codec that a line in a section of the given kind offers. -/
def Line.offered? (media : String) : Line → Option OfferedCodec
  | .media _ => none
  | .codec value => OfferedCodec.parse? media value
  | .other => none

/-- The kind of the section after some lines. -/
def kindAfter (media : String) (read : List Line) : String :=
  read.foldl Line.kindAfter media

variable {media codec : String} {payloadType : UInt8} {offered : OfferedCodec}

@[simp] theorem kindAfter_cons (line : Line) (read : List Line) :
    kindAfter media (line :: read) = kindAfter (line.kindAfter media) read :=
  rfl

@[simp] theorem kindAfter_append (front back : List Line) :
    kindAfter media (front ++ back) = kindAfter (kindAfter media front) back :=
  List.foldl_append

theorem codecsOfLines_cons (line : Line) (read : List Line) :
    codecsOfLines media (line :: read) =
      (line.offered? media).toList ++
        codecsOfLines (line.kindAfter media) read := by
  cases line <;> rfl

theorem codecsOfLines_append (front back : List Line) :
    codecsOfLines media (front ++ back) =
      codecsOfLines media front ++
        codecsOfLines (kindAfter media front) back := by
  induction front generalizing media with
  | nil => rfl
  | cons line front ih =>
      rw [List.cons_append, codecsOfLines_cons, ih, codecsOfLines_cons,
        kindAfter_cons, List.append_assoc]

/-- An offered codec comes from one line, and the codecs in front of it from
the lines in front of that one. -/
theorem codecsOfLines_eq_append_cons {read : List Line}
    {earlier later : List OfferedCodec}
    (h : codecsOfLines media read = earlier ++ offered :: later) :
    ∃ before line after, read = before ++ line :: after ∧
      line.offered? (kindAfter media before) = some offered ∧
      codecsOfLines media before = earlier := by
  induction read generalizing media earlier with
  | nil => simp [codecsOfLines] at h
  | cons line read ih =>
      rw [codecsOfLines_cons] at h
      cases hline : line.offered? media with
      | none =>
          rw [hline] at h
          obtain ⟨before, found, after, rfl, hfound, hearlier⟩ := ih h
          refine ⟨line :: before, found, after, rfl, hfound, ?_⟩
          rw [codecsOfLines_cons, hline, hearlier]
          rfl
      | some first =>
          -- The codec of this line is the one looked for, or an earlier one.
          rw [hline, Option.toList_some, List.singleton_append] at h
          cases earlier with
          | nil =>
              cases h
              exact ⟨[], line, read, rfl, hline, rfl⟩
          | cons _ earlier =>
              obtain ⟨rfl, hrest⟩ := List.cons.inj h
              obtain ⟨before, found, after, rfl, hfound, hearlier⟩ := ih hrest
              refine ⟨line :: before, found, after, rfl, hfound, ?_⟩
              rw [codecsOfLines_cons, hline, hearlier]
              rfl

theorem mem_codecsOfLines_iff {read : List Line} :
    offered ∈ codecsOfLines media read ↔
      ∃ before line after, read = before ++ line :: after ∧
        line.offered? (kindAfter media before) = some offered := by
  constructor
  · intro h
    obtain ⟨earlier, later, hsplit⟩ := List.append_of_mem h
    obtain ⟨before, line, after, hread, hline, -⟩ :=
      codecsOfLines_eq_append_cons hsplit
    exact ⟨before, line, after, hread, hline⟩
  · rintro ⟨before, line, after, rfl, hline⟩
    rw [codecsOfLines_append, codecsOfLines_cons, hline]
    simp

/-- The first codec with a property is the one of the line such that no line
in front of it offers a codec with the property. -/
theorem find?_codecsOfLines_eq_some_iff {read : List Line}
    {p : OfferedCodec → Bool} :
    (codecsOfLines media read).find? p = some offered ↔
      ∃ before line after, read = before ++ line :: after ∧
        line.offered? (kindAfter media before) = some offered ∧ p offered ∧
        ∀ earlier ∈ codecsOfLines media before, ¬ p earlier := by
  rw [List.find?_eq_some_iff_append]
  constructor
  · rintro ⟨hp, earlier, later, hsplit, hearlier⟩
    obtain ⟨before, line, after, hread, hline, rfl⟩ :=
      codecsOfLines_eq_append_cons hsplit
    exact ⟨before, line, after, hread, hline, hp, by simpa using hearlier⟩
  · rintro ⟨before, line, after, rfl, hline, hp, hearlier⟩
    refine ⟨hp, codecsOfLines media before,
      codecsOfLines (kindAfter media (before ++ [line])) after, ?_,
      by simpa using hearlier⟩
    rw [codecsOfLines_append, codecsOfLines_cons, hline, kindAfter_append]
    rfl

theorem kindAfter_eq_self {read : List Line}
    (h : ∀ line ∈ read, ∀ kind, line ≠ .media kind) :
    kindAfter media read = media := by
  induction read with
  | nil => rfl
  | cons line read ih =>
      have hline : line.kindAfter media = media := by
        cases line with
        | media kind => exact absurd rfl (h _ List.mem_cons_self kind)
        | codec _ => rfl
        | other => rfl
      rw [kindAfter_cons, hline]
      exact ih fun line hmem => h line (List.mem_cons_of_mem _ hmem)

/-! Video sections. -/

/-- Only a line that begins a section changes it. -/
theorem inVideo_concat {before : List (List Char)} :
    InVideo (before ++ [line]) ↔
      BeginsVideo line ∨ ¬ BeginsSection line ∧ InVideo before := by
  constructor
  · rintro ⟨front, first, between, hsplit, hvideo, hbetween⟩
    rcases List.eq_nil_or_concat between with rfl | ⟨between, last, rfl⟩
    · obtain ⟨-, hlast⟩ := List.append_inj' hsplit rfl
      exact Or.inl (List.cons.inj hlast |>.1 ▸ hvideo)
    · rw [List.concat_eq_append, ← List.cons_append,
        ← List.append_assoc] at hsplit
      obtain ⟨rfl, hlast⟩ := List.append_inj' hsplit rfl
      obtain rfl := List.cons.inj hlast |>.1
      rw [List.concat_eq_append] at hbetween
      exact Or.inr ⟨hbetween line (by simp), front, first, between, rfl, hvideo,
        fun other hmem => hbetween other (List.mem_append_left _ hmem)⟩
  · rintro (hvideo | ⟨hline, front, first, between, rfl, hvideo, hbetween⟩)
    · exact ⟨before, line, [], rfl, hvideo, by simp⟩
    · refine ⟨front, first, between ++ [line], by simp, hvideo, ?_⟩
      intro other hmem
      rcases List.mem_append.mp hmem with hmem | hmem
      · exact hbetween other hmem
      · rwa [List.mem_singleton.mp hmem]

theorem inVideo_iff {before : List (List Char)} :
    InVideo before ↔ kindAfter "" (before.map readLine) = "video" := by
  induction before using List.reverseRecOn with
  | nil =>
      refine iff_of_false ?_ (by decide)
      rintro ⟨front, first, between, hsplit, -⟩
      simp at hsplit
  | append_singleton before line ih =>
      rw [inVideo_concat, beginsVideo_iff, beginsSection_iff, ih,
        List.map_append, kindAfter_append]
      cases hline : readLine line <;> simp [kindAfter, Line.kindAfter, hline]

theorem kindAfter_lines {body : List (List Char)}
    (h : ∀ line ∈ body, ¬ BeginsSection line) :
    kindAfter media (body.map readLine) = media := by
  refine kindAfter_eq_self fun read hmem kind hread => ?_
  obtain ⟨line, hline, rfl⟩ := List.mem_map.mp hmem
  exact h line hline (beginsSection_iff.mpr ⟨kind, hread⟩)

theorem inVideo_append_iff {before body : List (List Char)}
    (h : ∀ line ∈ body, ¬ BeginsSection line) :
    InVideo (before ++ body) ↔ InVideo before := by
  rw [inVideo_iff, inVideo_iff, List.map_append, kindAfter_append,
    kindAfter_lines h]

/-- Within one section its first line decides. -/
theorem inVideo_section_iff {before body : List (List Char)}
    {first : List Char} (hfirst : BeginsSection first)
    (hbody : ∀ line ∈ body, ¬ BeginsSection line) :
    InVideo (before ++ first :: body) ↔ BeginsVideo first := by
  rw [List.append_cons, inVideo_append_iff hbody, inVideo_concat]
  simp [hfirst]

/-! Offers. -/

theorem pairs_of_parse? {value : List Char}
    (h : OfferedCodec.parse? media value = some offered) :
    offered.media = media ∧
      Pairs value offered.payloadType offered.name.toList := by
  simp only [OfferedCodec.parse?, Option.bind_eq_bind,
    Option.bind_eq_some_iff] at h
  obtain ⟨⟨type, encoding⟩, hcut, _, hbyte, name, hname, h⟩ := h
  cases h
  obtain ⟨hspace, rfl⟩ := cutAt?_eq_some_iff.mp hcut
  obtain ⟨hslash, hencoding⟩ := head?_splitAt_eq_some_iff.mp hname
  refine ⟨rfl, type, encoding, rfl, hspace, hbyte, ?_⟩
  rw [String.toList_ofList]
  exact ⟨hslash, hencoding⟩

theorem Pairs.exists_parse? {value name : List Char}
    (h : Pairs value payloadType name) :
    ∃ clockRate, OfferedCodec.parse? media value =
      some ⟨media, payloadType, String.ofList name, clockRate⟩ := by
  obtain ⟨type, encoding, rfl, hspace, hbyte, hslash, hencoding⟩ := h
  have hname := head?_splitAt_eq_some_iff.mpr ⟨hslash, hencoding⟩
  simp [OfferedCodec.parse?, cutAt?_eq_some_iff.mpr ⟨hspace, rfl⟩, hbyte,
    hname]

theorem offersVideo_iff {before : List (List Char)} :
    OffersVideo codec payloadType before line ↔ ∃ offered,
      (readLine line).offered? (kindAfter "" (before.map readLine)) =
        some offered ∧
      offers codec offered ∧ offered.payloadType = payloadType := by
  constructor
  · rintro ⟨hvideo, value, name, hline, hpairs, hzero, hsame⟩
    obtain ⟨clockRate, hparse⟩ := hpairs.exists_parse?
    refine ⟨⟨"video", payloadType, String.ofList name, clockRate⟩, ?_, ?_, rfl⟩
    · rw [readLine_eq_codec_iff.mpr hline, inVideo_iff.mp hvideo]
      exact hparse
    · simp [offers, hsame, hzero]
  · rintro ⟨offered, hline, hoffers, rfl⟩
    simp only [offers, Bool.and_eq_true, beq_iff_eq, bne_iff_ne] at hoffers
    obtain ⟨⟨hvideo, hsame⟩, hzero⟩ := hoffers
    cases hread : readLine line with
    | media kind => simp [hread, Line.offered?] at hline
    | other => simp [hread, Line.offered?] at hline
    | codec value =>
        rw [hread] at hline
        obtain ⟨hmedia, hpairs⟩ := pairs_of_parse? hline
        refine ⟨inVideo_iff.mpr (hmedia ▸ hvideo), value, offered.name.toList,
          readLine_eq_codec_iff.mp hread, hpairs, hzero, ?_⟩
        rwa [String.ofList_toList]

/-- After the lines `before`, none of some lines offers the codec if and only
if it is not among those that they offer. -/
theorem not_offers_iff (before : List (List Char))
    {between : List (List Char)} :
    (∀ offered ∈ codecsOfLines (kindAfter "" (before.map readLine))
          (between.map readLine), ¬ offers codec offered) ↔
      ∀ front line back, between = front ++ line :: back →
        ∀ payloadType,
          ¬ OffersVideo codec payloadType (before ++ front) line := by
  constructor
  · rintro h front line back rfl payloadType hoffer
    obtain ⟨offered, hline, hoffers, -⟩ := offersVideo_iff.mp hoffer
    rw [List.map_append, kindAfter_append] at hline
    refine h offered (mem_codecsOfLines_iff.mpr ?_) hoffers
    exact ⟨front.map readLine, readLine line, back.map readLine, by simp, hline⟩
  · intro h offered hmem hoffers
    obtain ⟨_, _, _, hsplit, hline⟩ := mem_codecsOfLines_iff.mp hmem
    obtain ⟨front, line, back, rfl, rfl, rfl⟩ := exists_lines_of_map hsplit
    rw [← kindAfter_append, ← List.map_append] at hline
    exact h front line back rfl offered.payloadType
      (offersVideo_iff.mpr ⟨offered, hline, hoffers, rfl⟩)

/-! Resolution. -/

variable {sdp : String}

theorem resolvePayloadType_offer :
    resolvePayloadType ⟨.offer, sdp⟩ codec =
      match (codecsOfLines "" ((lines sdp).map readLine)).find?
        (offers codec) with
      | some offered => .ok offered.payloadType
      | none => .error (.capabilityMismatch codec) :=
  if_pos rfl

theorem resolvePayloadType_eq_ok_iff :
    resolvePayloadType ⟨.offer, sdp⟩ codec = .ok payloadType ↔
      ∃ before line after, lines sdp = before ++ line :: after ∧
        OffersVideo codec payloadType before line ∧
        ∀ front other back, before = front ++ other :: back →
          ∀ payloadType, ¬ OffersVideo codec payloadType front other := by
  rw [resolvePayloadType_offer]
  constructor
  · intro h
    split at h
    · next offered hfind =>
        cases h
        obtain ⟨_, _, _, hsplit, hline, hoffers, hearlier⟩ :=
          find?_codecsOfLines_eq_some_iff.mp hfind
        obtain ⟨before, line, after, hlines, rfl, rfl⟩ :=
          exists_lines_of_map hsplit
        exact ⟨before, line, after, hlines,
          offersVideo_iff.mpr ⟨offered, hline, hoffers, rfl⟩,
          (not_offers_iff []).mp hearlier⟩
    · cases h
  · rintro ⟨before, line, after, hlines, hoffer, hearlier⟩
    obtain ⟨offered, hline, hoffers, rfl⟩ := offersVideo_iff.mp hoffer
    have hread : (lines sdp).map readLine =
        before.map readLine ++ readLine line :: after.map readLine := by
      rw [hlines, List.map_append, List.map_cons]
    rw [find?_codecsOfLines_eq_some_iff.mpr
      ⟨_, _, _, hread, hline, hoffers, (not_offers_iff []).mpr hearlier⟩]

theorem resolvePayloadType_eq_error_iff {fault : SessionFault} :
    resolvePayloadType ⟨.offer, sdp⟩ codec = .error fault ↔
      fault = .capabilityMismatch codec ∧
        ∀ before line after, lines sdp = before ++ line :: after →
          ∀ payloadType, ¬ OffersVideo codec payloadType before line := by
  have hnone : (codecsOfLines "" ((lines sdp).map readLine)).find?
      (offers codec) = none ↔
        ∀ before line after, lines sdp = before ++ line :: after →
          ∀ payloadType, ¬ OffersVideo codec payloadType before line :=
    List.find?_eq_none.trans (not_offers_iff [])
  rw [resolvePayloadType_offer, ← hnone]
  cases (codecsOfLines "" ((lines sdp).map readLine)).find? (offers codec) <;>
    simp [eq_comm]

/-- A payload type that is resolved is mapped to the codec by some line. -/
theorem exists_maps_of_resolve {offer : Description}
    (h : offer.resolvePayloadType codec = .ok payloadType) :
    ∃ line ∈ lines offer.sdp, Maps line codec payloadType := by
  obtain ⟨kind, sdp⟩ := offer
  cases kind with
  | answer => cases h
  | offer =>
      obtain ⟨before, line, after, hlines, ⟨-, hmaps⟩, -⟩ :=
        resolvePayloadType_eq_ok_iff.mp h
      refine ⟨line, ?_, hmaps⟩
      rw [hlines]
      exact List.mem_append_right _ List.mem_cons_self

/-- Zero is never resolved. -/
theorem ne_zero_of_resolve {offer : Description}
    (h : offer.resolvePayloadType codec = .ok payloadType) :
    payloadType ≠ 0 := by
  obtain ⟨_, -, _, _, -, -, hzero, -⟩ := exists_maps_of_resolve h
  exact hzero

/-! Lines that say nothing about a codec. -/

variable {before after dropped : List (List Char)}

theorem SaysNothing.not_offersVideo
    (h : SaysNothing codec before after dropped) {front back : List (List Char)}
    (hsplit : dropped = front ++ line :: back) (payloadType : UInt8) :
    ¬ OffersVideo codec payloadType (before ++ front) line := by
  rintro ⟨hvideo, hmaps⟩
  cases h with
  | lines hsection hoffer =>
      rw [hsplit] at hsection hoffer
      rw [inVideo_append_iff fun other hmem =>
        hsection other (List.mem_append_left _ hmem)] at hvideo
      exact hoffer line (by simp) payloadType ⟨hvideo, hmaps⟩
  | otherSection hfirst hother hbody _ =>
      cases front with
      | nil =>
          -- The line that begins the section maps nothing.
          obtain ⟨rfl, -⟩ := List.cons.inj hsplit
          obtain ⟨kind, hread⟩ := beginsSection_iff.mp hfirst
          obtain ⟨value, _, hline, -⟩ := hmaps
          rw [readLine_eq_codec_iff.mpr hline] at hread
          cases hread
      | cons first front =>
          obtain ⟨rfl, rfl⟩ := List.cons.inj hsplit
          rw [inVideo_section_iff hfirst fun other hmem =>
            hbody other (List.mem_append_left _ hmem)] at hvideo
          exact hother hvideo

/-- What follows such lines offers the same without them. -/
theorem SaysNothing.codecs_after
    (h : SaysNothing codec before after dropped) (media : String) :
    codecsOfLines (kindAfter media (dropped.map readLine))
        (after.map readLine) =
      codecsOfLines media (after.map readLine) := by
  cases h with
  | lines hsection _ => rw [kindAfter_lines hsection]
  | otherSection _ _ _ hafter =>
      cases after with
      | nil => rfl
      | cons next after =>
          obtain ⟨kind, hread⟩ := beginsSection_iff.mp (hafter next rfl)
          rw [List.map_cons, List.map_cons, hread]
          rfl

theorem SaysNothing.find?_eq (h : SaysNothing codec before after dropped) :
    (codecsOfLines "" ((before ++ dropped ++ after).map readLine)).find?
        (offers codec) =
      (codecsOfLines "" ((before ++ after).map readLine)).find?
        (offers codec) := by
  have hnone := List.find?_eq_none.mpr
    ((not_offers_iff before).mpr fun _ _ _ hsplit payloadType =>
      h.not_offersVideo hsplit payloadType)
  simp only [List.map_append, codecsOfLines_append, kindAfter_append,
    List.find?_append, hnone, h.codecs_after, Option.or_none]

/-- For every text and every codec, a payload type is resolved if and only if
the first line that offers the codec in a video section gives it; without such
a line the codec is reported as not offered. Lines that say nothing about the
codec can be dropped, and an answer is never resolved. -/
theorem first_video_offer_resolves (sdp codec : String) :
    (∀ payloadType,
      resolvePayloadType ⟨.offer, sdp⟩ codec = .ok payloadType ↔
        ∃ before line after, lines sdp = before ++ line :: after ∧
          OffersVideo codec payloadType before line ∧
          ∀ front other back, before = front ++ other :: back →
            ∀ payloadType, ¬ OffersVideo codec payloadType front other) ∧
    (∀ fault, resolvePayloadType ⟨.offer, sdp⟩ codec = .error fault ↔
      fault = .capabilityMismatch codec ∧
        ∀ before line after, lines sdp = before ++ line :: after →
          ∀ payloadType, ¬ OffersVideo codec payloadType before line) ∧
    (∀ other before dropped after,
      lines sdp = before ++ dropped ++ after → lines other = before ++ after →
      SaysNothing codec before after dropped →
        resolvePayloadType ⟨.offer, sdp⟩ codec =
          resolvePayloadType ⟨.offer, other⟩ codec) ∧
    resolvePayloadType ⟨.answer, sdp⟩ codec =
      .error (.invalidDescription "expected an offer") := by
  refine ⟨fun _ => resolvePayloadType_eq_ok_iff,
    fun _ => resolvePayloadType_eq_error_iff, ?_, rfl⟩
  intro other before dropped after hlines hother hnothing
  rw [resolvePayloadType_offer, resolvePayloadType_offer, hlines, hother,
    hnothing.find?_eq]

/-- The audio section names the codec too, and the first of the video lines
gives it no payload type. -/
theorem first_video_offer_resolves_past_audio :
    (∃ before line after, lines
        "m=audio\na=rtpmap:9 VP8\nm=video\na=rtpmap:0 VP8\n\ta=rtpmap:97 vp8/9\r\n" =
        before ++ line :: after ∧ OffersVideo "VP8" 97 before line ∧
        ∀ front other back, before = front ++ other :: back →
          ∀ payloadType, ¬ OffersVideo "VP8" payloadType front other) ∧
    resolvePayloadType ⟨.offer,
        "m=audio\na=rtpmap:9 VP8\nm=video\na=rtpmap:0 VP8\n\ta=rtpmap:97 vp8/9\r\n"⟩
        "VP8" =
      resolvePayloadType ⟨.offer,
        "m=video\na=rtpmap:0 VP8\n\ta=rtpmap:97 vp8/9\r\n"⟩ "VP8" := by
  refine ⟨((first_video_offer_resolves _ "VP8").1 97).mp (by decide +kernel),
    (first_video_offer_resolves _ "VP8").2.2.1 _ []
      (lines "m=audio\na=rtpmap:9 VP8")
      (lines "m=video\na=rtpmap:0 VP8\n\ta=rtpmap:97 vp8/9\r\n")
      rfl rfl ?_⟩
  refine .otherSection (beginsSection_iff.mpr ⟨"audio", rfl⟩) ?_ ?_ ?_
  · rw [beginsVideo_iff]
    decide
  · intro line hline
    obtain rfl := List.mem_singleton.mp hline
    rw [beginsSection_iff]
    rintro ⟨kind, hkind⟩
    cases hkind
  · intro line hline
    cases hline
    exact beginsSection_iff.mpr ⟨"video", rfl⟩

end Description

end LanRelay
