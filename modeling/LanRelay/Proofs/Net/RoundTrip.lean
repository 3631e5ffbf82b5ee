/-
Addresses are read back from their text forms.

Main statements: `Ipv4.parse?_render`, `Ipv6.parse?_render` and
`Endpoint.parse?_render`. Each reader takes exactly the text of its address,
whatever follows that could not go on with it.
-/
import LanRelay.Net.Address.Parser
import LanRelay.Net.Address.Printer
import LanRelay.Proofs.Text.Numerals

namespace LanRelay

open LanRelay.Text LanRelay.Address

variable {rest : List Char}

namespace Address

theorem readByte_toDigits (byte : UInt8) (hrest : EndsDigits 10 rest) :
    readByte (Nat.toDigits 10 byte.toNat ++ rest) = some (byte, rest) := by
  obtain ⟨digits, hread, hspells, hlength⟩ :=
    leadingDigits_toDigits (by decide) (by decide) byte.toNat hrest
  have hbyte := byte.toNat_lt
  have hshort : digits.length ≤ 3 := by
    rw [hlength]
    exact (Nat.length_toDigits_le_iff (by decide) (by decide)).mpr (by omega)
  rw [readByte, hread]
  split
  · next heq => exact absurd (congrArg Prod.fst heq) hspells.nonempty
  · next d tail _ heq =>
      -- A second digit does not stand behind a zero.
      obtain ⟨rfl, -⟩ := Prod.mk.injEq .. ▸ heq
      cases hspells.trimmed rfl
  · next heq =>
      obtain ⟨rfl, rfl⟩ := Prod.mk.injEq .. ▸ heq
      rw [hspells.value, if_pos ⟨hshort, hbyte⟩, UInt8.ofNat_toNat]

end Address

theorem Ipv4.toList_render (ip : Ipv4) :
    ip.render.toList = Nat.toDigits 10 ip.a.toNat ++ '.' ::
      (Nat.toDigits 10 ip.b.toNat ++ '.' ::
        (Nat.toDigits 10 ip.c.toNat ++ '.' ::
          Nat.toDigits 10 ip.d.toNat)) := by
  simp [render, key]

namespace Address

theorem readIpv4_render (ip : Ipv4) (hrest : EndsDigits 10 rest) :
    readIpv4 (ip.render.toList ++ rest) = some (ip, rest) := by
  have hdot : ∀ cs, EndsDigits 10 ('.' :: cs) :=
    fun cs => endsDigits_cons (by decide)
  simp only [ip.toList_render, List.append_assoc, List.cons_append, readIpv4,
    readByte_toDigits _ (hdot _), readByte_toDigits _ hrest, skip, if_true,
    Option.bind_eq_bind, Option.bind_some]

end Address

theorem Ipv4.parse?_render (ip : Ipv4) : Ipv4.parse? ip.render = some ip := by
  have hread := readIpv4_render ip endsDigits_nil
  rw [List.append_nil] at hread
  rw [parse?, whole?, hread]


/-! Groups of an IPv6 address -/

namespace Address

theorem eq_of_readByte {cs left : List Char} {byte : UInt8}
    (h : readByte cs = some (byte, left)) :
    left = (leadingDigits 10 cs).2 := by
  rw [readByte] at h
  split at h
  · cases h
  · cases h
  · next heq =>
      split at h
      · cases h
        rw [heq]
      · cases h

theorem readByte_eq_none (hrest : EndsDigits 10 rest) :
    readByte rest = none := by
  cases rest with
  | nil => rfl
  | cons c rest => simp [readByte, leadingDigits, hrest c rfl]

theorem readGroup_eq_none (hrest : EndsDigits 16 rest) :
    readGroup rest = none := by
  cases rest with
  | nil => rfl
  | cons c rest => simp [readGroup, leadingDigits, hrest c rfl]

theorem readIpv4_eq_none (hrest : EndsDigits 10 rest) :
    readIpv4 rest = none := by
  rw [readIpv4, readByte_eq_none hrest]
  rfl

theorem readGroup_toDigits (group : UInt16) (hrest : EndsDigits 16 rest) :
    readGroup (Nat.toDigits 16 group.toNat ++ rest) = some (group, rest) := by
  obtain ⟨digits, hread, hspells, hlength⟩ :=
    leadingDigits_toDigits (by decide) (by decide) group.toNat hrest
  have hgroup := group.toNat_lt
  have hshort : digits.length ≤ 4 := by
    rw [hlength]
    exact (Nat.length_toDigits_le_iff (by decide) (by decide)).mpr (by omega)
  rw [readGroup, hread]
  split
  · next heq => exact absurd (congrArg Prod.fst heq) hspells.nonempty
  · next heq =>
      obtain ⟨rfl, rfl⟩ := Prod.mk.injEq .. ▸ heq
      rw [hspells.value, if_pos hshort, UInt16.ofNat_toNat]

end Address

/-- A text with which no group goes on, and no group begins behind a colon. -/
structure EndsGroups (rest : List Char) : Prop where
  ends : EndsDigits 16 rest
  noDot : rest.head? ≠ some '.'
  behindColon : ∀ cs, rest = ':' :: cs → EndsDigits 16 cs

theorem endsGroups_cons {c : Char} {cs : List Char} (hc : digit? 16 c = none)
    (hdot : c ≠ '.') (hcolon : c ≠ ':') : EndsGroups (c :: cs) := by
  refine ⟨endsDigits_cons hc, ?_, ?_⟩
  · rw [List.head?_cons]
    exact fun h => hdot (Option.some.inj h)
  · intro tail htail
    exact absurd (List.cons.inj htail).1 hcolon

theorem endsGroups_colons (cs : List Char) :
    EndsGroups (':' :: ':' :: cs) := by
  refine ⟨endsDigits_cons (by decide), by simp, ?_⟩
  intro tail htail
  rw [← (List.cons.inj htail).2]
  exact endsDigits_cons (by decide)

namespace Address

/-- A group is no beginning of an IPv4 address, unless a dot follows. -/
theorem readIpv4_group_eq_none (group : UInt16) (hrest : EndsDigits 16 rest)
    (hdot : rest.head? ≠ some '.') :
    readIpv4 (Nat.toDigits 16 group.toNat ++ rest) = none := by
  obtain ⟨digits, htext, hspells⟩ :=
    exists_digits_toDigits (show 1 < 16 by decide) group.toNat
  have hchars : '.' ∉ Nat.toDigits 16 group.toNat := by
    rw [htext, List.mem_map]
    rintro ⟨d, hd, hchar⟩
    have hdigit := digit?_digitChar (hspells.below d hd) (by decide)
    rw [hchar] at hdigit
    cases hdigit
  obtain ⟨left, hsuffix, hleft⟩ :=
    exists_suffix_leadingDigits (Nat.toDigits 16 group.toNat) hrest.ten
  have hskip : skip '.' (left ++ rest) = none := by
    cases left with
    | nil =>
        cases rest with
        | nil => rfl
        | cons c rest =>
            have hc : '.' ≠ c := fun h => hdot (by rw [h]; rfl)
            simp [skip, hc]
    | cons c left =>
        have hc : '.' ≠ c := fun h =>
          hchars (hsuffix.subset (by rw [h]; exact List.mem_cons_self))
        simp [skip, hc]
  rw [readIpv4]
  cases hbyte : readByte (Nat.toDigits 16 group.toNat ++ rest) with
  | none => rfl
  | some read =>
      rw [← hleft, ← eq_of_readByte hbyte] at hskip
      simp [hskip]

theorem readGroups_of_ends (first : Bool) (room : Nat)
    (hrest : EndsGroups rest) :
    readGroups first room rest = ([], false, rest) := by
  cases room with
  | zero => rfl
  | succ room =>
      rw [readGroups]
      split
      · rfl
      · next front hfront =>
          have hends : EndsDigits 16 front := by
            cases first with
            | true =>
                cases hfront
                exact hrest.ends
            | false =>
                cases rest with
                | nil => cases hfront
                | cons c cs =>
                    simp only [Bool.false_eq_true, if_false, skip] at hfront
                    split at hfront
                    · next hcolon =>
                        cases hfront
                        exact hrest.behindColon _ (by rw [hcolon])
                    · cases hfront
          rw [readIpv4_eq_none hends.ten, readGroup_eq_none hends, ite_self]

/-- The groups that follow the first one. -/
def moreGroups (groups : List UInt16) : List Char :=
  groups.flatMap fun group => ':' :: Nat.toDigits 16 group.toNat

theorem endsDigits_moreGroups (groups : List UInt16) (hrest : EndsGroups rest) :
    EndsDigits 16 (moreGroups groups ++ rest) ∧
      (moreGroups groups ++ rest).head? ≠ some '.' := by
  cases groups with
  | nil => exact ⟨hrest.ends, hrest.noDot⟩
  | cons group groups =>
      simp only [moreGroups, List.flatMap_cons, List.cons_append]
      exact ⟨endsDigits_cons (by decide), by simp⟩

/-- One group is read, and then those behind it. -/
theorem readGroups_group (first : Bool) (room : Nat) (group : UInt16)
    (hends : EndsDigits 16 rest) (hdot : rest.head? ≠ some '.') :
    readGroups first (room + 1)
        ((if first then [] else [':']) ++ Nat.toDigits 16 group.toNat ++ rest) =
      (group :: (readGroups false room rest).1,
        (readGroups false room rest).2) := by
  have hfront : (if first then some ((if first then [] else [':']) ++
        Nat.toDigits 16 group.toNat ++ rest)
      else skip ':' ((if first then [] else [':']) ++
        Nat.toDigits 16 group.toNat ++ rest)) =
      some (Nat.toDigits 16 group.toNat ++ rest) := by
    cases first <;> simp [skip]
  rw [readGroups, hfront]
  simp only [readIpv4_group_eq_none group hends hdot, ite_self,
    readGroup_toDigits group hends]

theorem readGroups_more {groups : List UInt16} {room : Nat}
    (hroom : groups.length ≤ room) (hrest : EndsGroups rest) :
    readGroups false room (moreGroups groups ++ rest) =
      (groups, false, rest) := by
  induction groups generalizing room with
  | nil => exact readGroups_of_ends false room hrest
  | cons group groups ih =>
      obtain ⟨room, rfl⟩ : ∃ less, room = less + 1 :=
        ⟨room - 1, by simp at hroom; omega⟩
      obtain ⟨hends, hdot⟩ := endsDigits_moreGroups groups hrest
      have hstep := readGroups_group false room group hends hdot
      rw [ih (by simpa using hroom)] at hstep
      simpa [moreGroups] using hstep

end Address

theorem Ipv6.toList_renderGroups_cons (group : UInt16)
    (groups : List UInt16) :
    (renderGroups (group :: groups)).toList =
      Nat.toDigits 16 group.toNat ++ moreGroups groups := by
  induction groups generalizing group with
  | nil => simp [renderGroups, hexNumeral, moreGroups]
  | cons next groups ih =>
      have htail := ih next
      simp only [renderGroups, List.map_cons, String.intercalate_cons_cons,
        String.toList_append] at htail ⊢
      rw [htail]
      simp [hexNumeral, moreGroups]

namespace Address

theorem readGroups_renderGroups {groups : List UInt16} {room : Nat}
    (hroom : groups.length ≤ room) (hrest : EndsGroups rest) :
    readGroups true room ((Ipv6.renderGroups groups).toList ++ rest) =
      (groups, false, rest) := by
  cases groups with
  | nil => exact readGroups_of_ends true room hrest
  | cons group groups =>
      obtain ⟨room, rfl⟩ : ∃ less, room = less + 1 :=
        ⟨room - 1, by simp at hroom; omega⟩
      obtain ⟨hends, hdot⟩ := endsDigits_moreGroups groups hrest
      have hstep := readGroups_group true room group hends hdot
      rw [readGroups_more (by simpa using hroom) hrest] at hstep
      simpa [Ipv6.toList_renderGroups_cons] using hstep

end Address

/-! Zeros that are left out -/

namespace Ipv6

theorem replicate_zeroRun_append (groups : List UInt16) :
    List.replicate (zeroRun groups) 0 ++ groups.drop (zeroRun groups) =
      groups := by
  induction groups with
  | nil => rfl
  | cons group groups ih =>
      rw [zeroRun]
      split
      · next hzero =>
          rw [List.replicate_succ, List.drop_succ_cons, List.cons_append, ih,
            hzero]
      · rfl

/-- The longest run of zeros is one. -/
theorem append_longestZeroRun (groups : List UInt16) :
    groups.take (longestZeroRun groups).1 ++
        (List.replicate (longestZeroRun groups).2 0 ++
          groups.drop ((longestZeroRun groups).1 +
            (longestZeroRun groups).2)) = groups := by
  induction groups with
  | nil => rfl
  | cons group groups ih =>
      rw [longestZeroRun]
      split
      · simpa using replicate_zeroRun_append (group :: groups)
      · rw [List.take_succ_cons, List.cons_append, Nat.add_right_comm,
          List.drop_succ_cons, ih]

theorem ofGroups?_groups (ip : Ipv6) : ofGroups? ip.groups = some ip :=
  dif_pos ip.eight

end Ipv6

/-- The two groups of an IPv4 address that was made of two groups. -/
theorem groupsOfIpv4_words (high low : UInt16) :
    groupsOfIpv4 ⟨UInt8.ofNat (high.toNat / 256), UInt8.ofNat high.toNat,
      UInt8.ofNat (low.toNat / 256), UInt8.ofNat low.toNat⟩ =
      [high, low] := by
  have hword (word : UInt16) :
      UInt16.ofNat (256 * (UInt8.ofNat (word.toNat / 256)).toNat +
        (UInt8.ofNat word.toNat).toNat) = word := by
    have hlt := word.toNat_lt
    apply UInt16.toNat_inj.mp
    simp only [UInt16.toNat_ofNat', UInt8.toNat_ofNat']
    omega
  rw [groupsOfIpv4, hword, hword]

namespace Address

/-- An address is read with zeros left out, however its end is written. -/
theorem readIpv6_gap (ip : Ipv6) (front : List UInt16) (gap : Nat)
    {back : List UInt16} {ending : List Char} {isIpv4 : Bool} (hgap : 0 < gap)
    (hgroups : front ++ List.replicate gap 0 ++ back = ip.groups)
    (hback : readGroups true (7 - front.length) ending =
      (back, isIpv4, rest)) :
    readIpv6 ((Ipv6.renderGroups front).toList ++ ':' :: ':' :: ending) =
      some (ip, rest) := by
  have hsum : front.length + gap + back.length = 8 := by
    have height := ip.eight
    rw [← hgroups] at height
    simpa [Nat.add_assoc] using height
  have hfront : front.length ≠ 8 := by omega
  have hmissing : 8 - front.length - back.length = gap := by omega
  rw [readIpv6, readGroups_renderGroups (by omega) (endsGroups_colons ending)]
  rw [List.append_assoc] at hgroups
  simp [hfront, skip, hback, hmissing, hgroups, Ipv6.ofGroups?_groups]

/-- The groups of a written IPv4 address behind one group. -/
theorem readGroups_ipv4 (room : Nat) (group : UInt16) (ipv4 : Ipv4)
    (hroom : 1 < room) (hrest : EndsDigits 10 rest) :
    readGroups true (room + 1) (Nat.toDigits 16 group.toNat ++
        ':' :: (ipv4.render.toList ++ rest)) =
      (group :: groupsOfIpv4 ipv4, true, rest) := by
  have hcolon : EndsDigits 16 (':' :: (ipv4.render.toList ++ rest)) :=
    endsDigits_cons (by decide)
  have hstep := readGroups_group true room group hcolon (by simp)
  obtain ⟨less, rfl⟩ : ∃ less, room = less + 1 := ⟨room - 1, by omega⟩
  have hless : less ≠ 0 := by omega
  rw [readGroups.eq_def false] at hstep
  simpa [skip, hless, readIpv4_render ipv4 hrest] using hstep

theorem readIpv6_render (ip : Ipv6) (hrest : EndsGroups rest) :
    readIpv6 (ip.render.toList ++ rest) = some (ip, rest) := by
  rw [Ipv6.render]
  split
  · next ipv4 hmapped =>
      rw [Ipv6.mappedIpv4?] at hmapped
      split at hmapped
      · next high low hgroups =>
          cases hmapped
          have hback := readGroups_ipv4 6 0xffff
            ⟨UInt8.ofNat (high.toNat / 256), UInt8.ofNat high.toNat,
              UInt8.ofNat (low.toNat / 256), UInt8.ofNat low.toNat⟩
            (by decide) hrest.ends.ten
          rw [groupsOfIpv4_words] at hback
          have hread := readIpv6_gap ip [] 5 (by decide)
            (by rw [hgroups]; rfl) hback
          have hffff : Nat.toDigits 16 (0xffff : UInt16).toNat =
              ['f', 'f', 'f', 'f'] := by decide
          rw [hffff] at hread
          simpa [Ipv6.renderGroups] using hread
      · cases hmapped
  · have hwhole := Ipv6.append_longestZeroRun ip.groups
    generalize Ipv6.longestZeroRun ip.groups = run at hwhole ⊢
    obtain ⟨start, length⟩ := run
    simp only at hwhole ⊢
    split
    · next hlong =>
        have hroom : (ip.groups.drop (start + length)).length ≤
            7 - (ip.groups.take start).length := by
          have hlength := congrArg List.length hwhole
          rw [ip.eight] at hlength
          simp only [List.length_append, List.length_replicate] at hlength
          omega
        have hread := readIpv6_gap ip (ip.groups.take start) length (by omega)
          (by rw [List.append_assoc, hwhole])
          (readGroups_renderGroups hroom hrest)
        simpa using hread
    · rw [readIpv6, readGroups_renderGroups (by rw [ip.eight]) hrest]
      simp [ip.eight, Ipv6.ofGroups?_groups]

end Address

theorem Ipv6.parse?_render (ip : Ipv6) : Ipv6.parse? ip.render = some ip := by
  have hend : EndsGroups [] :=
    ⟨endsDigits_nil, by simp, fun cs hcs => nomatch hcs⟩
  have hread := readIpv6_render ip hend
  rw [List.append_nil] at hread
  rw [parse?, whole?, hread]

/-! Ports and scopes -/

namespace Address

theorem readNumber_toDigits {bound n : Nat} (hn : n < bound)
    (hrest : EndsDigits 10 rest) :
    readNumber bound (Nat.toDigits 10 n ++ rest) = some (n, rest) := by
  obtain ⟨digits, hread, hspells, -⟩ :=
    leadingDigits_toDigits (by decide) (by decide) n hrest
  rw [readNumber, hread]
  split
  · next heq => exact absurd (congrArg Prod.fst heq) hspells.nonempty
  · next heq =>
      obtain ⟨rfl, rfl⟩ := Prod.mk.injEq .. ▸ heq
      rw [hspells.value, if_pos hn]

theorem readPort_toDigits (port : UInt16) (hrest : EndsDigits 10 rest) :
    readPort (':' :: (Nat.toDigits 10 port.toNat ++ rest)) =
      some (port, rest) := by
  simp only [readPort, skip, if_true, Option.bind_eq_bind, Option.bind_some,
    readNumber_toDigits port.toNat_lt hrest, UInt16.ofNat_toNat]

/-- A scope is read back, and so is the lack of one. -/
theorem readScope_render (scope : UInt32) (cs : List Char) :
    readScope ((if scope = 0 then "" else
        "%" ++ toString scope.toNat).toList ++ ']' :: cs) =
      (scope, ']' :: cs) := by
  split
  · next hzero =>
      rw [hzero]
      rfl
  · have hbracket : EndsDigits 10 (']' :: cs) := endsDigits_cons (by decide)
    have hread := readNumber_toDigits scope.toNat_lt hbracket
    simp [readScope, skip, hread]

theorem readEndpoint4_render (endpoint : Endpoint4)
    (hrest : EndsDigits 10 rest) :
    readEndpoint4 (endpoint.render.toList ++ rest) = some (endpoint, rest) := by
  have hcolon : EndsDigits 10
      (':' :: (Nat.toDigits 10 endpoint.port.toNat ++ rest)) :=
    endsDigits_cons (by decide)
  have hip := readIpv4_render endpoint.ip hcolon
  have hport := readPort_toDigits endpoint.port hrest
  simp [readEndpoint4, Endpoint4.render, hip, hport]

/-- A bracket ends an address; so does the percent sign of a scope. -/
theorem endsGroups_scope (scope : UInt32) (cs : List Char) :
    EndsGroups ((if scope = 0 then "" else
      "%" ++ toString scope.toNat).toList ++ ']' :: cs) := by
  split
  · exact endsGroups_cons (by decide) (by decide) (by decide)
  · rw [String.toList_append]
    exact endsGroups_cons (by decide) (by decide) (by decide)

theorem readEndpoint6_render (ip : Ipv6) (port : UInt16) (scope : UInt32)
    (hrest : EndsDigits 10 rest) :
    readEndpoint6 ((Endpoint.v6 ip port scope).render.toList ++ rest) =
      some (.v6 ip port scope, rest) := by
  have hip := readIpv6_render ip (endsGroups_scope scope
    (':' :: (Nat.toDigits 10 port.toNat ++ rest)))
  have hscope := readScope_render scope
    (':' :: (Nat.toDigits 10 port.toNat ++ rest))
  have hport := readPort_toDigits port hrest
  rw [Endpoint.render]
  generalize (if scope = 0 then "" else "%" ++ toString scope.toNat) = link
    at hip hscope ⊢
  simp [readEndpoint6, skip, hip, hscope, hport]

end Address

theorem Endpoint4.parse?_render (endpoint : Endpoint4) :
    Endpoint4.parse? endpoint.render = some endpoint := by
  have hread := readEndpoint4_render endpoint endsDigits_nil
  rw [List.append_nil] at hread
  rw [parse?, whole?, hread]

/-- An endpoint is read back, with its scope. -/
theorem Endpoint.parse?_render (endpoint : Endpoint) :
    Endpoint.parse? endpoint.render = some endpoint := by
  cases endpoint with
  | v4 endpoint =>
      rw [parse?, render, Endpoint4.parse?_render]
      rfl
  | v6 ip port scope =>
      -- The opening bracket begins no IPv4 address.
      have hread := readEndpoint6_render ip port scope endsDigits_nil
      rw [List.append_nil] at hread
      have hfour : Endpoint4.parse? (Endpoint.v6 ip port scope).render =
          none := by
        obtain ⟨tail, htail⟩ : ∃ tail,
            (Endpoint.v6 ip port scope).render.toList = '[' :: tail :=
          ⟨_, by simp [render]; rfl⟩
        have hbracket : EndsDigits 10 ('[' :: tail) :=
          endsDigits_cons (by decide)
        rw [Endpoint4.parse?, whole?, htail, readEndpoint4,
          readIpv4_eq_none hbracket]
        rfl
      rw [parse?, hfour, whole?, hread]
      rfl

end LanRelay
