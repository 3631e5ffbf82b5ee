/-
What the answer to an offer says.

The codec is put into a line of the answer as it is. It is read back from
there, since it is the name in a line of the offer but for the case of its
letters: it does not end the line, nothing cuts it, and it does not begin with
a blank character.

Main statement: `answer_offers_what_was_resolved`.
-/
import LanRelay.Proofs.Session.Resolution
import LanRelay.Proofs.Text.Numerals
import LanRelay.Session.Proxy.Supervision

namespace LanRelay

open LanRelay.Text

namespace Text

/-! Letters of either case. -/

theorem toNat_toLower (c : Char) :
    c.toLower.toNat =
      if 65 ≤ c.toNat ∧ c.toNat ≤ 90 then c.toNat + 32 else c.toNat := by
  by_cases hupper : 65 ≤ c.toNat ∧ c.toNat ≤ 90
  · have hval : c.toLower.val = c.val + 32 := congrArg Char.val (dif_pos hupper)
    have hbelow : c.val.toNat + 32 < 4294967296 :=
      Nat.lt_of_le_of_lt (Nat.add_le_add_right hupper.2 32) (by decide)
    calc c.toLower.toNat = (c.val + 32).toNat := congrArg UInt32.toNat hval
      _ = c.val.toNat + 32 := by
        rw [UInt32.toNat_add]
        exact Nat.mod_eq_of_lt hbelow
      _ = _ := (if_pos hupper).symm
  · have hsame : c.toLower = c := dif_neg hupper
    rw [hsame, if_neg hupper]

theorem isBlank_toLower (c : Char) : isBlank c.toLower = isBlank c := by
  simp only [isBlank, toNat_toLower]
  split
  · rw [Bool.eq_iff_iff]
    simp only [Bool.or_eq_true, Bool.and_eq_true, decide_eq_true_eq,
      beq_iff_eq]
    omega
  · rfl

/-- Only a letter becomes another character. -/
theorem toLower_eq_iff {c d : Char} (hd : d.toNat < 65) :
    c.toLower = d ↔ c = d := by
  rw [← Char.toNat_inj, ← Char.toNat_inj, toNat_toLower]
  split <;> omega

variable {a b : String}

theorem mem_of_sameIgnoringAsciiCase (h : sameIgnoringAsciiCase a b) {c : Char}
    (hc : c.toNat < 65) (hmem : c ∈ b.toList) : c ∈ a.toList := by
  have hlower : a.toList.map Char.toLower = b.toList.map Char.toLower :=
    beq_iff_eq.mp h
  have hsame : c.toLower ∈ a.toList.map Char.toLower :=
    hlower ▸ List.mem_map_of_mem hmem
  obtain ⟨d, hd, hlow⟩ := List.mem_map.mp hsame
  rw [(toLower_eq_iff hc).mpr rfl, toLower_eq_iff hc] at hlow
  exact hlow ▸ hd

theorem head?_of_sameIgnoringAsciiCase (h : sameIgnoringAsciiCase a b)
    (ha : ∀ c ∈ a.toList.head?, isBlank c = false) :
    ∀ c ∈ b.toList.head?, isBlank c = false := by
  intro c hc
  have hlower : a.toList.map Char.toLower = b.toList.map Char.toLower :=
    beq_iff_eq.mp h
  have hhead := congrArg List.head? hlower
  rw [List.head?_map, List.head?_map, hc, Option.map_some,
    Option.map_eq_some_iff] at hhead
  obtain ⟨d, hd, hlow⟩ := hhead
  rw [← isBlank_toLower, ← hlow, isBlank_toLower]
  exact ha d hd

/-! Numerals. -/

theorem isBlank_of_isDigit {c : Char} (hc : c.isDigit) : isBlank c = false := by
  obtain ⟨hlow, hhigh⟩ := Char.isDigit_iff_toNat.mp hc
  have hzero : '0'.toNat = 48 := rfl
  have hnine : '9'.toNat = 57 := rfl
  simp only [isBlank, Bool.or_eq_false_iff, Bool.and_eq_false_iff,
    decide_eq_false_iff_not, beq_eq_false_iff_ne]
  omega

theorem trim_toDigits (n : Nat) :
    trim (Nat.toDigits 10 n) = Nat.toDigits 10 n := by
  have hvisible : ∀ c ∈ Nat.toDigits 10 n, isBlank c = false := fun _ hc =>
    isBlank_of_isDigit
      (Nat.isDigit_of_mem_toDigits (by decide) (by decide) hc)
  exact trim_eq_self (fun c hc => hvisible c (List.mem_of_mem_head? hc))
    (fun c hc => hvisible c (List.mem_of_mem_getLast? hc))

/-! Lines. -/

/-- Lines that each end with the separator are cut apart again. -/
theorem splitAt_flatMap {sep : Char} {pieces : List (List Char)}
    (h : ∀ piece ∈ pieces, sep ∉ piece) :
    splitAt sep (pieces.flatMap (· ++ [sep])) = pieces ++ [[]] := by
  induction pieces with
  | nil => rfl
  | cons piece pieces ih =>
      rw [List.forall_mem_cons] at h
      rw [List.flatMap_cons, List.append_assoc, List.singleton_append,
        splitAt_append h.1, ih h.2, List.cons_append]

end Text

namespace Description

/-! Names that a line can hold. -/

/-- The text can be put into a line as the name of a codec. -/
structure FitsLine (name : List Char) : Prop where
  noBreak : '\n' ∉ name
  noSlash : '/' ∉ name
  visible : ∀ c ∈ name.head?, isBlank c = false

variable {codec : String} {payloadType : UInt8}

theorem Pairs.fitsLine {value name : List Char} (hvalue : '\n' ∉ value)
    (h : Pairs value payloadType name) : FitsLine name := by
  obtain ⟨type, encoding, rfl, -, -, hslash, hencoding⟩ := h
  have hstart : ∃ rest, trim encoding = name ++ rest := by
    rcases hencoding with htrim | ⟨rest, htrim⟩
    · exact ⟨[], by rw [htrim, List.append_nil]⟩
    · exact ⟨'/' :: rest, htrim⟩
  obtain ⟨rest, htrim⟩ := hstart
  refine ⟨fun hbreak => hvalue ?_, hslash, fun c hc => ?_⟩
  · have hencoded : '\n' ∈ encoding :=
      mem_of_mem_trim (htrim ▸ List.mem_append_left rest hbreak)
    exact List.mem_append_right _ (List.mem_cons_of_mem _ hencoded)
  · have hvisible : ∀ c ∈ (trim encoding).head?, isBlank c = false :=
      head?_trim
    rw [htrim, List.head?_append] at hvisible
    exact hvisible c (by rw [hc, Option.some_or]; rfl)

theorem FitsLine.of_same {name : String} (h : FitsLine name.toList)
    (hsame : sameIgnoringAsciiCase name codec) : FitsLine codec.toList where
  noBreak hmem :=
    h.noBreak (mem_of_sameIgnoringAsciiCase hsame (by decide) hmem)
  noSlash hmem :=
    h.noSlash (mem_of_sameIgnoringAsciiCase hsame (by decide) hmem)
  visible := head?_of_sameIgnoringAsciiCase hsame h.visible

theorem Maps.fitsLine {line : List Char} (hline : '\n' ∉ line)
    (h : Maps line codec payloadType) : FitsLine codec.toList := by
  obtain ⟨value, name, htrim, hpairs, -, hsame⟩ := h
  have hvalue : '\n' ∉ value := fun hmem =>
    hline (mem_of_mem_trim (htrim ▸ List.mem_append_right _ hmem))
  refine FitsLine.of_same ?_ hsame
  rw [String.toList_ofList]
  exact hpairs.fitsLine hvalue

/-- A codec that is resolved is the name in some line of the offer. -/
theorem fitsLine_of_resolve {offer : Description}
    (h : offer.resolvePayloadType codec = .ok payloadType) :
    FitsLine codec.toList := by
  obtain ⟨line, hline, hmaps⟩ := exists_maps_of_resolve h
  exact hmaps.fitsLine (not_mem_of_mem_splitAt hline)

/-! The lines of an answer. -/

variable {terms : Terms}

/-- What the answer has behind `a=rtpmap:`. -/
def mapping (payloadType : UInt8) (codec : String) : List Char :=
  Nat.toDigits 10 payloadType.toNat ++ ' ' ::
    (codec.toList ++ "/90000".toList)

theorem parse?_mapping (h : FitsLine codec.toList) (media : String) :
    OfferedCodec.parse? media (mapping payloadType codec) =
      some ⟨media, payloadType, codec, 90000⟩ := by
  have hcut := cutAt?_eq_some_iff.mpr
    ⟨not_mem_toDigits (show ' '.isDigit = false from rfl),
      show mapping payloadType codec = _ from rfl⟩
  have htrim : trim (codec.toList ++ "/90000".toList) =
      codec.toList ++ '/' :: "90000".toList := by
    refine trim_eq_self (fun c hc => ?_) (fun c hc => ?_)
    · rw [List.head?_append] at hc
      cases hcodec : codec.toList.head? with
      | some d =>
          rw [hcodec] at hc
          cases hc
          exact h.visible c hcodec
      | none =>
          rw [hcodec] at hc
          cases hc
          rfl
    · rw [List.getLast?_append] at hc
      cases hc
      rfl
  have hsplit : splitAt '/' (trim (codec.toList ++ "/90000".toList)) =
      [codec.toList, "90000".toList] := by
    rw [htrim, splitAt_append h.noSlash]
    rfl
  simp only [OfferedCodec.parse?, hcut, trim_toDigits, byte?_toDigits, hsplit,
    Option.bind_eq_bind, Option.bind_some, List.head?_cons,
    String.ofList_toList]
  rfl

/-- The lines of an answer, each without the line feed behind it. -/
def answerLines (terms : Terms) : List (List Char) := [
  "v=0\r".toList,
  "o=- 0 0 IN IP4 127.0.0.1\r".toList,
  "s=-\r".toList,
  "t=0 0\r".toList,
  "m=video 9 UDP/TLS/RTP/SAVPF ".toList ++
    Nat.toDigits 10 terms.payloadType.toNat ++ ['\r'],
  "a=rtpmap:".toList ++ mapping terms.payloadType terms.codec ++ ['\r'],
  "a=ssrc:".toList ++ Nat.toDigits 10 terms.ssrc.toNat ++ ['\r'],
  "m=application 9 UDP/DTLS/SCTP webrtc-datachannel\r".toList]

theorem toList_answer (terms : Terms) :
    terms.answer.sdp.toList =
      (answerLines terms).flatMap (· ++ ['\n']) := by
  have htext (text : String) : toString text = text := rfl
  simp [Terms.answer, answerLines, htext, mapping]

theorem lines_answer (h : '\n' ∉ terms.codec.toList) :
    lines terms.answer.sdp = answerLines terms ++ [[]] := by
  have hdigits (n : Nat) : '\n' ∉ Nat.toDigits 10 n := not_mem_toDigits rfl
  rw [lines, toList_answer, splitAt_flatMap]
  simp [answerLines, mapping, hdigits, h]

theorem readLine_media_answer (digits : List Char) :
    readLine ("m=video 9 UDP/TLS/RTP/SAVPF ".toList ++ digits ++ ['\r']) =
      .media "video" := by
  have htrim := trim_append (by decide : "m=video 9".toList ≠ [])
    (by rintro c ⟨⟩; rfl) (by rintro c ⟨⟩; rfl)
    (" UDP/TLS/RTP/SAVPF ".toList ++ digits ++ ['\r'])
  refine beginsVideo_iff.mp ⟨[], _, htrim, by simp, ?_⟩
  rintro c ⟨⟩
  rfl

theorem readLine_codec_answer :
    readLine ("a=rtpmap:".toList ++ mapping payloadType codec ++ ['\r']) =
      .codec (mapping payloadType codec) := by
  have hlast : ∀ c ∈
      ("a=rtpmap:".toList ++ mapping payloadType codec).getLast?,
      isBlank c = false := by
    have hclock : "a=rtpmap:".toList ++ mapping payloadType codec =
        "a=rtpmap:".toList ++ (Nat.toDigits 10 payloadType.toNat ++ ' ' ::
          codec.toList) ++ "/90000".toList := by
      simp [mapping]
    rw [hclock, List.getLast?_append]
    rintro c ⟨⟩
    rfl
  have hfirst : ∀ c ∈ ("a=rtpmap:".toList ++ mapping payloadType codec).head?,
      isBlank c = false := by
    rintro c ⟨⟩
    rfl
  rw [readLine_eq_codec_iff, trim_append (by simp) hfirst hlast]
  exact List.append_nil _

theorem readLine_source_answer (digits : List Char) :
    readLine ("a=ssrc:".toList ++ digits ++ ['\r']) = .other := by
  rw [readLine, List.append_assoc,
    trim_append (by decide) (by rintro c ⟨⟩; rfl) (by rintro c ⟨⟩; rfl)]
  rfl

theorem map_readLine_answerLines (terms : Terms) :
    (answerLines terms).map readLine = [.other, .other, .other, .other,
      .media "video", .codec (mapping terms.payloadType terms.codec), .other,
      .media "application"] := by
  simp only [answerLines, List.map_cons, readLine_media_answer,
    readLine_codec_answer, readLine_source_answer]
  rfl

/-- The answer offers the codec, if its line can hold it, and nothing else. -/
theorem offeredCodecs_answer (h : FitsLine terms.codec.toList) :
    offeredCodecs terms.answer.sdp =
      [⟨"video", terms.payloadType, terms.codec, 90000⟩] := by
  rw [offeredCodecs, ← lines, lines_answer h.noBreak, List.map_append,
    map_readLine_answerLines]
  simp only [List.cons_append, codecsOfLines, parse?_mapping h]
  rfl

theorem resolvePayloadType_answer (h : FitsLine terms.codec.toList)
    (hzero : terms.payloadType ≠ 0) :
    resolvePayloadType ⟨.offer, terms.answer.sdp⟩ terms.codec =
      .ok terms.payloadType := by
  have hoffers : offers terms.codec
      ⟨"video", terms.payloadType, terms.codec, 90000⟩ := by
    simp [offers, sameIgnoringAsciiCase, hzero]
  rw [resolvePayloadType, if_pos rfl, offeredCodecs_answer h,
    List.find?_cons_of_pos hoffers]

/-- For every offer and every codec that is resolved against it, the answer
offers that codec, spelled as it was asked for, under the resolved payload type
in a video section, and offers nothing else. Read as an offer, it resolves the
codec to the same payload type. This is the answer that a proxy for the codec
gives, as long as it takes peers. -/
theorem answer_offers_what_was_resolved {offer : Description} {codec : String}
    {payloadType : UInt8}
    (h : offer.resolvePayloadType codec = .ok payloadType) :
    (∀ ssrc, let answer := Terms.answer { offer, codec, payloadType, ssrc }
      offeredCodecs answer.sdp = [⟨"video", payloadType, codec, 90000⟩] ∧
      resolvePayloadType ⟨.offer, answer.sdp⟩ codec = .ok payloadType) ∧
    ∀ (proxy : Proxy) id, proxy.settings.codec = codec →
      ∀ number answer, (proxy.initiate offer id).2 = .ok (number, answer) ↔
        proxy.takesPeers ∧ number = proxy.sessions.length ∧
        answer = Terms.answer
          { offer, codec, payloadType, ssrc := proxy.settings.ssrc } := by
  have hfits := fitsLine_of_resolve h
  refine ⟨fun ssrc => ⟨offeredCodecs_answer hfits,
    resolvePayloadType_answer hfits (ne_zero_of_resolve h)⟩, ?_⟩
  intro proxy id hcodec number answer
  cases hpeers : proxy.takesPeers <;>
    simp [Proxy.initiate, Proxy.negotiate, hcodec, h, hpeers, eq_comm]

/-- The name in the offer is in upper case and ends with blank characters. -/
theorem answer_offers_what_was_resolved_of_blank_end :
    resolvePayloadType ⟨.offer, "m=video 9\na=rtpmap:97 VP8 \r/8000\n"⟩
        "vp8 \r" = .ok 97 ∧
      offeredCodecs (Terms.answer {
          offer := ⟨.offer, "m=video 9\na=rtpmap:97 VP8 \r/8000\n"⟩
          codec := "vp8 \r"
          payloadType := 97
          ssrc := 7 }).sdp = [⟨"video", 97, "vp8 \r", 90000⟩] := by
  have hresolve : resolvePayloadType
      ⟨.offer, "m=video 9\na=rtpmap:97 VP8 \r/8000\n"⟩ "vp8 \r" = .ok 97 := by
    decide +kernel
  exact ⟨hresolve, ((answer_offers_what_was_resolved hresolve).1 7).1⟩

end Description

end LanRelay
