/-
A document of sections is read back from its TOML text.

Main statement: `Toml.parse?_render`. The text is read line by line; what each
line does to the table that has been read is stated once, and the sections
follow by induction.
-/
import LanRelay.Document.Toml
import LanRelay.Document.Toml.Printer
import LanRelay.Proofs.Document.Toml.Quoted
import Mathlib.Data.List.TakeDrop

namespace LanRelay.Toml

open LanRelay.Text

variable {rest : List Char}

/-! Numbers -/

theorem moreDigits_map_digitChar {digits : List Nat}
    (hdigits : ∀ d ∈ digits, d < 10) (rest : List Char) :
    moreDigits 10 (digits.map Nat.digitChar ++ '\n' :: rest) =
      (digits, '\n' :: rest) := by
  induction digits with
  | nil => simp [moreDigits, digit?]
  | cons d digits ih =>
      have hd := hdigits d List.mem_cons_self
      have hdigit := digit?_digitChar hd (by decide)
      have hplain : Nat.digitChar d ≠ '_' := by
        interval_cases d <;> decide
      have hmore := ih fun d' hd' => hdigits d' (List.mem_cons_of_mem d hd')
      simp [moreDigits, hplain, hdigit, hmore]

theorem readDigits_toDigits (n : Nat) (rest : List Char) :
    ∃ digits, readDigits 10 (Nat.toDigits 10 n ++ '\n' :: rest) =
        some (digits, '\n' :: rest) ∧ Spells 10 digits n := by
  obtain ⟨digits, htext, hspells⟩ :=
    exists_digits_toDigits (show 1 < 10 by decide) n
  refine ⟨digits, ?_, hspells⟩
  rw [htext]
  cases digits with
  | nil => exact absurd rfl hspells.nonempty
  | cons d digits =>
      have hdigit :=
        digit?_digitChar (hspells.below d List.mem_cons_self) (by decide)
      have hmore := moreDigits_map_digitChar
        (fun d' hd' => hspells.below d' (List.mem_cons_of_mem d hd')) rest
      simp [readDigits, hdigit, hmore]

/-- The integers that a document can hold. -/
def InRange (n : Int) : Prop :=
  -(Nat.pow 2 127 : Int) ≤ n ∧ n < Nat.pow 2 128

theorem inRange_natural {n : Nat} (h : n < 2 ^ 64) : InRange n := by
  have hpow : n < Nat.pow 2 128 :=
    h.trans (Nat.pow_lt_pow_right (by decide) (by decide))
  exact ⟨Int.le_trans (Int.neg_nonpos_of_nonneg (Int.natCast_nonneg _))
    (Int.natCast_nonneg n), Int.ofNat_lt.mpr hpow⟩

theorem readDecimal_toDigits (negative : Bool) (n : Nat)
    (hrange : InRange (if negative then -n else n)) (rest : List Char) :
    readDecimal negative (Nat.toDigits 10 n ++ '\n' :: rest) =
      some (.whole (if negative then -n else n), '\n' :: rest) := by
  obtain ⟨digits, hread, hspells⟩ := readDigits_toDigits n rest
  have hwhole : whole (if negative then -n else n) =
      .whole (if negative then -n else n) := if_pos hrange
  simp only [readDecimal, hread, Option.bind_eq_bind, Option.bind_some,
    if_neg hspells.no_leading_zero, hspells.value]
  simp [readFraction, readExponent, hwhole]

/-- A digit at the start, and no letter of a radix behind it. -/
theorem readNumber_digit {c d : Char} {n : Nat} (hc : digit? 10 c = some n)
    (hd : d ≠ 'x' ∧ d ≠ 'o' ∧ d ≠ 'b') (cs : List Char) :
    readNumber (c :: d :: cs) = readDecimal false (c :: d :: cs) := by
  have hplus := ne_of_digit? hc (show digit? 10 '+' = none by decide)
  have hminus := ne_of_digit? hc (show digit? 10 '-' = none by decide)
  have hinf := ne_of_digit? hc (show digit? 10 'i' = none by decide)
  have hnan := ne_of_digit? hc (show digit? 10 'n' = none by decide)
  simp [readNumber, readUnsigned, hplus, hminus, hinf, hnan, hd]

theorem readNumber_toDigits {n : Nat} (hrange : InRange n)
    (rest : List Char) :
    readNumber (Nat.toDigits 10 n ++ '\n' :: rest) =
      some (.whole n, '\n' :: rest) := by
  have hread := readDecimal_toDigits false n hrange rest
  obtain ⟨digits, htext, hspells⟩ :=
    exists_digits_toDigits (show 1 < 10 by decide) n
  have hdigit (d : Nat) (hd : d ∈ digits) :
      digit? 10 (Nat.digitChar d) = some d :=
    digit?_digitChar (hspells.below d hd) (by decide)
  rw [htext] at hread ⊢
  match digits, hspells.nonempty with
  | [d], _ =>
      have hnumber := readNumber_digit (hdigit d List.mem_cons_self)
        (show '\n' ≠ 'x' ∧ '\n' ≠ 'o' ∧ '\n' ≠ 'b' by decide) rest
      exact hnumber.trans hread
  | d :: e :: digits, _ =>
      have he := hdigit e (List.mem_cons_of_mem d List.mem_cons_self)
      have hnumber := readNumber_digit (hdigit d List.mem_cons_self)
        ⟨ne_of_digit? he (by decide), ne_of_digit? he (by decide),
          ne_of_digit? he (by decide)⟩
        (digits.map Nat.digitChar ++ '\n' :: rest)
      exact hnumber.trans hread

theorem readNumberOrDate_toDigits {n : Nat} (hrange : InRange n)
    (rest : List Char) :
    readNumberOrDate (Nat.toDigits 10 n ++ '\n' :: rest) =
      some (.whole n, '\n' :: rest) := by
  have hends : EndsDigits 10 ('\n' :: rest) := endsDigits_cons (by decide)
  obtain ⟨digits, hleading, -, -⟩ :=
    leadingDigits_toDigits (by decide) (by decide) n hends
  -- Behind the digits there is neither the hyphen of a date nor a colon.
  simp [readNumberOrDate, hleading, readNumber_toDigits hrange]

theorem readNumberOrDate_negative {n : Nat} (hrange : InRange (-n))
    (rest : List Char) :
    readNumberOrDate ('-' :: (Nat.toDigits 10 n ++ '\n' :: rest)) =
      some (.whole (-n), '\n' :: rest) := by
  have hread := readDecimal_toDigits true n hrange rest
  obtain ⟨d, tail, hd, htext⟩ :=
    exists_toDigits_eq_cons (show 1 < 10 by decide) n
  have hdigit := digit?_digitChar hd (by decide)
  have hinf := ne_of_digit? hdigit (show digit? 10 'i' = none by decide)
  have hnan := ne_of_digit? hdigit (show digit? 10 'n' = none by decide)
  rw [htext, List.cons_append] at hread ⊢
  simpa [readNumberOrDate, leadingDigits, digit?, readNumber, readUnsigned,
    hinf, hnan] using hread

/-! Values -/

/-- A value that stands on one line: a text, an integer or a truth value. -/
inductive IsLeaf : Document → Prop where
  | text (text : String) : IsLeaf (.ofText text)
  | whole (value : Int) (hrange : InRange value) : IsLeaf (.whole value)
  | bool (value : Bool) : IsLeaf (.bool value)

theorem isLeaf_word64 (word : UInt64) : IsLeaf (.whole word.toNat) :=
  .whole _ (inRange_natural word.toNat_lt)

theorem isLeaf_word32 (word : UInt32) : IsLeaf (.whole word.toNat) :=
  .whole _ (inRange_natural
    (word.toNat_lt.trans (Nat.pow_lt_pow_right (by decide) (by decide))))

/-- What is written for a value that stands on one line. -/
def valueText (value : Document) : String := (renderValue? value).getD ""

theorem renderValue?_eq {value : Document} (h : IsLeaf value) :
    renderValue? value = some (valueText value) := by
  cases h with
  | text text => simp [valueText, Document.ofText, renderValue?,
      Literal.text?_ofText]
  | whole value hrange => rfl
  | bool value => rfl

theorem readValue_of_ne {c : Char} {cs : List Char} (hlist : c ≠ '[')
    (htable : c ≠ '\x7b') (fuel depth : Nat) :
    readValue fuel depth (c :: cs) = readScalar (c :: cs) := by
  rw [readValue.eq_3]
  · rintro fuel depth cs - - heq
    exact hlist (List.cons.inj heq).1
  · rintro fuel depth cs - - heq
    exact htable (List.cons.inj heq).1

theorem exists_quote_eq_cons (text : List Char) :
    ∃ c tail, quote text = c :: tail ∧ (c = '"' ∨ c = '\'') := by
  obtain ⟨c, tail, hquotes, hc⟩ : ∃ c tail,
      (quotingOf text).quotes.toList = c :: tail ∧ (c = '"' ∨ c = '\'') := by
    cases quotingOf text <;> exact ⟨_, _, rfl, by decide⟩
  simp only [quote, hquotes, List.cons_append]
  exact ⟨c, _, rfl, hc⟩

theorem readScalar_quote (text : String) (rest : List Char) :
    readScalar (quote text.toList ++ '\n' :: rest) =
      some (.ofText text, '\n' :: rest) := by
  have hread := readQuoted?_quote text.toList rest
  obtain ⟨c, tail, hquote, hc⟩ := exists_quote_eq_cons text.toList
  rw [hquote, List.cons_append] at hread ⊢
  have htrue : c ≠ 't' := by rcases hc with rfl | rfl <;> decide
  have hfalse : c ≠ 'f' := by rcases hc with rfl | rfl <;> decide
  simp [readScalar, htrue, hfalse, hc, hread, Document.ofText, Literal.ofText]

/-- Where a number begins, no other value does. -/
theorem readValue_number {c : Char} (hc : c = '-' ∨ ∃ n, digit? 10 c = some n)
    (fuel depth : Nat) (cs : List Char) :
    readValue fuel depth (c :: cs) = readNumberOrDate (c :: cs) := by
  have hne (d : Char) (hminus : d ≠ '-') (hd : digit? 10 d = none) :
      c ≠ d := by
    rintro rfl
    rcases hc with heq | ⟨n, hn⟩
    · exact hminus heq
    · exact ne_of_digit? hn hd rfl
  have htrue := hne 't' (by decide) (by decide)
  have hfalse := hne 'f' (by decide) (by decide)
  have hquotes : ¬(c = '"' ∨ c = '\'') := by
    simp [hne '"' (by decide) (by decide), hne '\'' (by decide) (by decide)]
  rw [readValue_of_ne (hne '[' (by decide) (by decide))
    (hne '\x7b' (by decide) (by decide))]
  simp [readScalar, htrue, hfalse, hquotes]

theorem toList_valueText_ofText (text : String) :
    (valueText (.ofText text)).toList = quote text.toList := by
  simp [valueText, renderValue?, Document.ofText, Literal.text?_ofText]

theorem toList_valueText_natural (n : Nat) :
    (valueText (.whole n)).toList = Nat.toDigits 10 n :=
  Nat.toList_repr

theorem toList_valueText_negSucc (n : Nat) :
    (valueText (.whole (.negSucc n))).toList =
      '-' :: Nat.toDigits 10 (n + 1) := by
  simp [valueText, renderValue?, Int.repr]

/-- A value is read back at the end of its line. -/
theorem readValue_valueText {value : Document} (h : IsLeaf value)
    (fuel depth : Nat) (rest : List Char) :
    readValue fuel depth ((valueText value).toList ++ '\n' :: rest) =
      some (value, '\n' :: rest) := by
  cases h with
  | text text =>
      have hread := readScalar_quote text rest
      obtain ⟨c, tail, hquote, hc⟩ := exists_quote_eq_cons text.toList
      have hlist : c ≠ '[' := by rcases hc with rfl | rfl <;> decide
      have htable : c ≠ '\x7b' := by rcases hc with rfl | rfl <;> decide
      rw [toList_valueText_ofText, ← hread, hquote, List.cons_append]
      exact readValue_of_ne hlist htable fuel depth
  | whole value hrange =>
      cases value with
      | ofNat n =>
          have hread := readNumberOrDate_toDigits hrange rest
          obtain ⟨d, tail, hd, htext⟩ :=
            exists_toDigits_eq_cons (show 1 < 10 by decide) n
          have hdigit := digit?_digitChar hd (by decide)
          rw [Int.ofNat_eq_natCast, toList_valueText_natural, ← hread, htext,
            List.cons_append]
          exact readValue_number (Or.inr ⟨d, hdigit⟩) fuel depth _
      | negSucc n =>
          have hnegative : Int.negSucc n = -((n + 1 : Nat) : Int) := rfl
          rw [toList_valueText_negSucc, List.cons_append,
            readValue_number (Or.inl rfl) fuel depth]
          rw [hnegative] at hrange ⊢
          exact readNumberOrDate_negative hrange rest
  | bool value =>
      cases value with
      | false => exact readValue_of_ne (by decide) (by decide) fuel depth
      | true => exact readValue_of_ne (by decide) (by decide) fuel depth

theorem skipGap_cons {c : Char} (hc : isGap c = false) (cs : List Char) :
    skipGap (c :: cs) = c :: cs := by
  simp [skipGap, hc]

/-- No blank stands in front of a value that was written. -/
theorem skipGap_valueText {value : Document} (h : IsLeaf value)
    (cs : List Char) :
    skipGap ((valueText value).toList ++ cs) =
      (valueText value).toList ++ cs := by
  obtain ⟨c, tail, htext, hc⟩ : ∃ c tail,
      (valueText value).toList = c :: tail ∧ isGap c = false := by
    cases h with
    | text text =>
        obtain ⟨c, tail, hquote, hc⟩ := exists_quote_eq_cons text.toList
        refine ⟨c, tail, (toList_valueText_ofText text).trans hquote, ?_⟩
        rcases hc with rfl | rfl <;> decide
    | whole value hrange =>
        cases value with
        | ofNat n =>
            obtain ⟨d, tail, hd, htext⟩ :=
              exists_toDigits_eq_cons (show 1 < 10 by decide) n
            refine ⟨_, tail, (toList_valueText_natural n).trans htext, ?_⟩
            interval_cases d <;> decide
        | negSucc n => exact ⟨'-', _, toList_valueText_negSucc n, by decide⟩
    | bool value =>
        cases value with
        | false => exact ⟨'f', _, rfl, by decide⟩
        | true => exact ⟨'t', _, rfl, by decide⟩
  rw [htext, List.cons_append, skipGap_cons hc]

/-! Keys -/

/-- A key that needs no quotes. -/
structure IsBareKey (key : String) : Prop where
  nonempty : key ≠ ""
  plain : key.toList.all isKeyChar

theorem IsBareKey.of_all {names : List String}
    (h : names.all fun name => name != "" && name.toList.all isKeyChar)
    {name : String} (hname : name ∈ names) : IsBareKey name := by
  have hkey := List.all_eq_true.mp h name hname
  simp only [Bool.and_eq_true, bne_iff_ne] at hkey
  exact ⟨hkey.1, hkey.2⟩

theorem IsBareKey.exists_eq_cons {key : String} (h : IsBareKey key) :
    ∃ c tail, key.toList = c :: tail ∧ isKeyChar c := by
  cases htext : key.toList with
  | nil => exact absurd (String.toList_eq_nil_iff.mp htext) h.nonempty
  | cons c tail =>
      have hplain := h.plain
      rw [htext, List.all_cons, Bool.and_eq_true] at hplain
      exact ⟨c, tail, rfl, hplain.1⟩

theorem ne_of_isKeyChar {c d : Char} (hc : isKeyChar c)
    (hd : isKeyChar d = false) : c ≠ d := by
  rintro rfl
  rw [hd] at hc
  cases hc

theorem skipGap_key {c : Char} (hc : isKeyChar c) (cs : List Char) :
    skipGap (c :: cs) = c :: cs := by
  have hblank := ne_of_isKeyChar hc (show isKeyChar ' ' = false by decide)
  have htab := ne_of_isKeyChar hc (show isKeyChar '\t' = false by decide)
  exact skipGap_cons (by simp [isGap, hblank, htab]) cs

theorem readKeyPart_bare {key : String} (h : IsBareKey key) {c : Char}
    (hc : isKeyChar c = false) (cs : List Char) :
    readKeyPart (key.toList ++ c :: cs) = some (key, c :: cs) := by
  obtain ⟨d, tail, htext, -⟩ := h.exists_eq_cons
  have hspan : (key.toList ++ c :: cs).span isKeyChar =
      (key.toList, c :: cs) := by
    have hplain := List.all_eq_true.mp h.plain
    rw [List.span_eq_takeWhile_dropWhile,
      List.takeWhile_append_of_pos hplain, List.dropWhile_append_of_pos hplain]
    simp [hc]
  rw [readKeyPart, hspan]
  split
  · next heq =>
      rw [htext] at heq
      cases heq
  · next heq =>
      cases heq
      rw [String.ofList_toList]

/-- A key without quotes and dots is read up to what may follow it. -/
theorem readKey_bare {key : String} (h : IsBareKey key) {c d : Char}
    {cs left : List Char} (hc : isKeyChar c = false)
    (hleft : skipGap (c :: cs) = d :: left) (hdot : d ≠ '.') (fuel : Nat) :
    readKey (fuel + 1) (key.toList ++ c :: cs) =
      some (([], key), d :: left) := by
  obtain ⟨e, tail, htext, he⟩ := h.exists_eq_cons
  have hskip : skipGap (key.toList ++ c :: cs) = key.toList ++ c :: cs := by
    rw [htext, List.cons_append, skipGap_key he]
  rw [readKey, hskip, readKeyPart_bare h hc]
  simp only [Option.bind_eq_bind, Option.bind_some, hleft]
  split
  · next heq => exact absurd (List.cons.inj heq).1 hdot
  · rfl

/-! Lines -/

/-- Reading goes on from one place in a document to a later one. -/
def Continues (path : List String) (root : Node) (cs : List Char)
    (path' : List String) (root' : Node) (cs' : List Char) : Prop :=
  ∀ fuel, cs.length < fuel → ∃ less, cs'.length < less ∧
    readLines fuel path root cs = readLines less path' root' cs'

namespace Continues

variable {path path' path'' : List String} {root root' root'' : Node}
  {cs cs' cs'' : List Char}

theorem refl : Continues path root cs path root cs :=
  fun fuel hfuel => ⟨fuel, hfuel, rfl⟩

theorem trans (h : Continues path root cs path' root' cs')
    (h' : Continues path' root' cs' path'' root'' cs'') :
    Continues path root cs path'' root'' cs'' := by
  intro fuel hfuel
  obtain ⟨middle, hmiddle, heq⟩ := h fuel hfuel
  obtain ⟨less, hless, heq'⟩ := h' middle hmiddle
  exact ⟨less, hless, heq.trans heq'⟩

/-- At the end of the document everything has been read. -/
theorem readLines_eq (h : Continues path root cs path' root' []) :
    readLines (cs.length + 1) path root cs = some root' := by
  obtain ⟨less, hless, heq⟩ := h (cs.length + 1) (Nat.lt_succ_self _)
  obtain ⟨less, rfl⟩ : ∃ less', less = less' + 1 :=
    ⟨less - 1, by simp at hless; omega⟩
  rw [heq]
  rfl

end Continues

variable {path : List String} {root root' : Node}

theorem skipFiller_cons {c : Char} (hc : c = '[' ∨ isKeyChar c)
    (fuel : Nat) (cs : List Char) :
    skipFiller (fuel + 1) (c :: cs) = some (c :: cs) := by
  have hne (d : Char) (hbracket : d ≠ '[') (hd : isKeyChar d = false) :
      c ≠ d := by
    rintro rfl
    rcases hc with heq | hkey
    · exact hbracket heq
    · exact ne_of_isKeyChar hkey hd rfl
  have hgap : isGap c = false := by
    simp [isGap, hne ' ' (by decide) (by decide),
      hne '\t' (by decide) (by decide)]
  have hline := hne '\n' (by decide) (by decide)
  have hreturn := hne '\r' (by decide) (by decide)
  have hcomment := hne '#' (by decide) (by decide)
  simp [skipFiller, skipGap_cons hgap, hline, hreturn, hcomment]

/-- An empty line is passed over. -/
theorem continues_emptyLine (path : List String) (root : Node)
    (cs : List Char) :
    Continues path root ('\n' :: cs) path root cs := by
  intro fuel hfuel
  rw [List.length_cons] at hfuel
  obtain ⟨fuel, rfl⟩ : ∃ less, fuel = less + 1 := ⟨fuel - 1, by omega⟩
  refine ⟨fuel + 1, by omega, ?_⟩
  have hskip : skipFiller (('\n' :: cs).length + 1) ('\n' :: cs) =
      skipFiller (cs.length + 1) cs := by
    rw [List.length_cons, skipFiller, skipGap_cons (by decide)]
    rfl
  rw [readLines, readLines, hskip]

theorem skipLineEnd_cons (cs : List Char) :
    skipLineEnd ('\n' :: cs) = some cs := by
  rw [skipLineEnd, skipGap_cons (by decide)]
  rfl

/-- A header defines a table, and later lines are about that one. -/
theorem continues_header {key : String} (hkey : IsBareKey key)
    (hroot : root.change false (Node.define key) [] = some root')
    (path : List String) (cs : List Char) :
    Continues path root ('[' :: (key.toList ++ ']' :: '\n' :: cs))
      [key] root' cs := by
  intro fuel hfuel
  obtain ⟨fuel, rfl⟩ : ∃ less, fuel = less + 1 := ⟨fuel - 1, by omega⟩
  refine ⟨fuel, by simp at hfuel; omega, ?_⟩
  have hclosing : skipGap (']' :: '\n' :: cs) = ']' :: '\n' :: cs :=
    skipGap_cons (by decide) _
  have hread := readKey_bare hkey (by decide) hclosing (by decide)
  have hheader : readHeader [']'] (key.toList ++ ']' :: '\n' :: cs) =
      some (([], key), '\n' :: cs) := by
    rw [readHeader, hread]
    rfl
  obtain ⟨c, tail, htext, hc⟩ := hkey.exists_eq_cons
  have hbracket := ne_of_isKeyChar hc (show isKeyChar '[' = false by decide)
  rw [readLines, skipFiller_cons (Or.inl rfl)]
  rw [htext, List.cons_append] at hheader ⊢
  simp [hbracket, hheader, hroot, skipLineEnd_cons]

/-- A line with a key and a value puts the value into the latest table. -/
theorem continues_entry {key : String} (hkey : IsBareKey key)
    {value : Document} (hvalue : IsLeaf value)
    (hroot : root.change false (Node.assign [] key value) path = some root')
    (cs : List Char) :
    Continues path root (key.toList ++ ' ' :: '=' :: ' ' ::
        ((valueText value).toList ++ '\n' :: cs)) path root' cs := by
  intro fuel hfuel
  obtain ⟨fuel, rfl⟩ : ∃ less, fuel = less + 1 := ⟨fuel - 1, by omega⟩
  refine ⟨fuel, by simp at hfuel; omega, ?_⟩
  have hequals : skipGap (' ' :: '=' :: ' ' ::
      ((valueText value).toList ++ '\n' :: cs)) =
      '=' :: ' ' :: ((valueText value).toList ++ '\n' :: cs) := rfl
  have hread := readKey_bare hkey (by decide) hequals (by decide)
  have hgap : skipGap (' ' :: ((valueText value).toList ++ '\n' :: cs)) =
      (valueText value).toList ++ '\n' :: cs :=
    skipGap_valueText hvalue _
  obtain ⟨c, tail, htext, hc⟩ := hkey.exists_eq_cons
  have hbracket := ne_of_isKeyChar hc (show isKeyChar '[' = false by decide)
  rw [htext, List.cons_append] at hread ⊢
  rw [readLines, skipFiller_cons (Or.inr hc)]
  simp [hbracket, hread, skip, hgap, readValue_valueText hvalue, hroot,
    skipLineEnd_cons]

/-! Tables -/

namespace Node

variable {key : String} {entries : List (String × Node)}

theorem lookup_of_notMem (h : key ∉ entries.map Prod.fst) :
    entries.lookup key = none := by
  rw [List.lookup_eq_none_iff]
  intro entry hentry
  have hne : key ≠ entry.1 := by
    rintro rfl
    exact h (List.mem_map_of_mem hentry)
  simpa using hne

theorem lookup_concat (h : key ∉ entries.map Prod.fst) (node : Node) :
    (entries ++ [(key, node)]).lookup key = some node := by
  rw [List.lookup_append, lookup_of_notMem h]
  simp

theorem put_of_notMem (h : key ∉ entries.map Prod.fst) (node : Node) :
    put key node entries = entries ++ [(key, node)] := by
  induction entries with
  | nil => rfl
  | cons entry entries ih =>
      rw [List.map_cons, List.mem_cons, not_or] at h
      rw [put, if_neg (Ne.symm h.1), ih h.2, List.cons_append]

theorem put_concat (h : key ∉ entries.map Prod.fst) (old node : Node) :
    put key node (entries ++ [(key, old)]) = entries ++ [(key, node)] := by
  induction entries with
  | nil => simp [put]
  | cons entry entries ih =>
      rw [List.map_cons, List.mem_cons, not_or] at h
      rw [List.cons_append, put, if_neg (Ne.symm h.1), ih h.2,
        List.cons_append]

/-- Change the latest entry of a table, if a header defined it. -/
theorem change_concat (h : key ∉ entries.map Prod.fst)
    {inner : List (String × Node)} {child : Node} {f : Node → Option Node}
    (hf : f (.table false false inner) = some child) :
    (table false false (entries ++ [(key, .table false false inner)])).change
        false f [key] =
      some (.table false false (entries ++ [(key, child)])) := by
  rw [change, lookup_concat h]
  simp only [Bool.false_eq_true, if_false, change, hf, Option.bind_eq_bind,
    Option.bind_some, put_concat h]
  rfl

end Node

/-! Sections -/

/-- A section of a document: its name, and its entries in order. -/
structure Section where
  name : String
  entries : List (String × Document)

namespace Section

def names (sections : List Section) : List String := sections.map name

/-- A section that can be written: its keys need no quotes and are distinct,
and each of its values stands on one line. -/
structure IsWritable (part : Section) : Prop where
  name : IsBareKey part.name
  keys : ∀ entry ∈ part.entries, IsBareKey entry.1
  values : ∀ entry ∈ part.entries, IsLeaf entry.2
  distinct : (part.entries.map Prod.fst).Nodup

/-- A section with given keys can be written, if its values can. -/
theorem isWritable_of_keys {name : String}
    {entries : List (String × Document)} (names : List String)
    (hnames : entries.map Prod.fst = names)
    (hplain : (name :: names).all fun name =>
      name != "" && name.toList.all isKeyChar)
    (hdistinct : names.Nodup)
    (hvalues : ∀ entry ∈ entries, IsLeaf entry.2) :
    (Section.mk name entries).IsWritable := by
  refine ⟨.of_all hplain List.mem_cons_self, ?_, hvalues, ?_⟩
  · intro entry hentry
    have hmem : entry.1 ∈ names := hnames ▸ List.mem_map_of_mem hentry
    exact .of_all hplain (List.mem_cons_of_mem _ hmem)
  · rw [hnames]
    exact hdistinct

/-- The record of a section. -/
def document (part : Section) : Document := .ofFields part.entries

/-- The table of a section, as it is read. -/
def table (part : Section) : Node :=
  .table false false (part.entries.map fun entry => (entry.1, .value entry.2))

/-- The table of the sections that have been read. -/
def tableOf (sections : List Section) : Node :=
  .table false false (sections.map fun part => (part.name, part.table))

/-- The record of all sections. -/
def documentOf (sections : List Section) : Document :=
  .ofFields (sections.map fun part => (part.name, part.document))

theorem toDocument_table (part : Section) :
    part.table.toDocument = part.document := by
  rw [table, Node.toDocument, document, Document.ofFields]
  congr 1
  induction part.entries with
  | nil => rfl
  | cons entry entries ih =>
      rw [List.map_cons, List.map_cons, Node.toFields, ih, Node.toDocument]

theorem toDocument_tableOf (sections : List Section) :
    (tableOf sections).toDocument = documentOf sections := by
  rw [tableOf, Node.toDocument, documentOf, Document.ofFields]
  congr 1
  induction sections with
  | nil => rfl
  | cons part sections ih =>
      rw [List.map_cons, List.map_cons, List.map_cons, Node.toFields, ih,
        toDocument_table]

/-- A header adds a section without entries. -/
theorem change_define {sections : List Section} {name : String}
    (hname : name ∉ names sections) :
    (tableOf sections).change false (Node.define name) [] =
      some (tableOf (sections ++ [⟨name, []⟩])) := by
  have hkeys : name ∉ (sections.map fun part =>
      (part.name, part.table)).map Prod.fst := by
    simpa [names] using hname
  rw [Node.change, tableOf, Node.define, Node.lookup_of_notMem hkeys]
  simp only [Node.put_of_notMem hkeys]
  simp [tableOf, table, Node.empty]

/-- An entry is added to the latest section. -/
theorem change_assign {sections : List Section} {name key : String}
    {entries : List (String × Document)} (hname : name ∉ names sections)
    (hkey : key ∉ entries.map Prod.fst) (value : Document) :
    (tableOf (sections ++ [⟨name, entries⟩])).change false
        (Node.assign [] key value) [name] =
      some (tableOf (sections ++ [⟨name, entries ++ [(key, value)]⟩])) := by
  have hkeys : name ∉ (sections.map fun part =>
      (part.name, part.table)).map Prod.fst := by
    simpa [names] using hname
  have hinner : key ∉ (entries.map fun entry =>
      (entry.1, Node.value entry.2)).map Prod.fst := by
    simpa using hkey
  have hassign : Node.assign [] key value (table ⟨name, entries⟩) =
      some (table ⟨name, entries ++ [(key, value)]⟩) := by
    simp [table, Node.assign, Node.change, Node.insert,
      Node.lookup_of_notMem hinner, Node.put_of_notMem hinner]
  rw [tableOf, tableOf, List.map_append, List.map_append]
  exact Node.change_concat hkeys hassign

/-! The text of sections -/

def entryLine (entry : String × Document) : String :=
  entry.1 ++ " = " ++ valueText entry.2 ++ "\n"

def text (part : Section) : String :=
  "[" ++ part.name ++ "]\n" ++ String.join (part.entries.map entryLine)

/-- Sections with an empty line between them. -/
def textOf (sections : List Section) : String :=
  "\n".intercalate (sections.map text)

theorem mapM_eq_some {α β : Type} {f : α → Option β} {g : α → β} {xs : List α}
    (h : ∀ x ∈ xs, f x = some (g x)) : xs.mapM f = some (xs.map g) := by
  induction xs with
  | nil => rfl
  | cons x xs ih =>
      have hmore := ih fun y hy => h y (List.mem_cons_of_mem x hy)
      simp [List.mapM_cons, h x List.mem_cons_self, hmore]

theorem renderSection?_eq {part : Section} (h : part.IsWritable) :
    renderSection? (.ofText part.name, part.document) = some part.text := by
  have hentries : (part.entries.map fun entry =>
      (Literal.ofText entry.1, entry.2)).mapM renderEntry? =
      some (part.entries.map entryLine) := by
    rw [List.mapM_map]
    refine mapM_eq_some fun entry hentry => ?_
    simp [ renderEntry?, Literal.text?_ofText,
      renderValue?_eq (h.values entry hentry), entryLine]
  rw [document, Document.ofFields_eq]
  simp only [renderSection?, Literal.text?_ofText, Option.bind_eq_bind,
    Option.bind_some, hentries]
  rfl

theorem render?_documentOf {sections : List Section}
    (h : ∀ part ∈ sections, part.IsWritable) :
    render? (documentOf sections) = some (textOf sections) := by
  have hsections : ((sections.map fun part =>
      (part.name, part.document)).map fun field =>
        (Literal.ofText field.1, field.2)).mapM renderSection? =
      some (sections.map text) := by
    rw [List.map_map, List.mapM_map]
    exact mapM_eq_some fun part hpart => renderSection?_eq (h part hpart)
  rw [documentOf, Document.ofFields_eq, render?, hsections]
  rfl

/-! Reading the text of sections -/

theorem toList_entryLine (entry : String × Document) (cs : List Char) :
    (entryLine entry).toList ++ cs = entry.1.toList ++ ' ' :: '=' :: ' ' ::
      ((valueText entry.2).toList ++ '\n' :: cs) := by
  simp [entryLine]

/-- The lines under a header fill its section. -/
theorem continues_entries {sections : List Section} {name : String}
    (hname : name ∉ names sections) (read : List (String × Document))
    {left : List (String × Document)}
    (hkeys : ∀ entry ∈ left, IsBareKey entry.1)
    (hvalues : ∀ entry ∈ left, IsLeaf entry.2)
    (hdistinct : ((read ++ left).map Prod.fst).Nodup) (cs : List Char) :
    Continues [name] (tableOf (sections ++ [⟨name, read⟩]))
      ((String.join (left.map entryLine)).toList ++ cs)
      [name] (tableOf (sections ++ [⟨name, read ++ left⟩])) cs := by
  induction left generalizing read with
  | nil =>
      rw [List.append_nil]
      exact Continues.refl
  | cons entry left ih =>
      have hnew : entry.1 ∉ read.map Prod.fst := by
        rw [List.map_append, List.nodup_append] at hdistinct
        intro hmem
        exact hdistinct.2.2 _ hmem _ List.mem_cons_self rfl
      have hline := continues_entry (hkeys entry List.mem_cons_self)
        (hvalues entry List.mem_cons_self)
        (change_assign hname hnew entry.2)
        ((String.join (left.map entryLine)).toList ++ cs)
      have hmore := ih (read ++ [entry])
        (fun other hother => hkeys other (List.mem_cons_of_mem entry hother))
        (fun other hother => hvalues other (List.mem_cons_of_mem entry hother))
        (by simpa using hdistinct)
      rw [List.append_assoc, List.singleton_append] at hmore
      rw [List.map_cons, String.join_cons, String.toList_append,
        List.append_assoc, toList_entryLine]
      exact hline.trans hmore

theorem continues_section {sections : List Section} {part : Section}
    (h : part.IsWritable) (hname : part.name ∉ names sections)
    (path : List String) (cs : List Char) :
    Continues path (tableOf sections) (part.text.toList ++ cs)
      [part.name] (tableOf (sections ++ [part])) cs := by
  have hheader := continues_header h.name (change_define hname) path
    ((String.join (part.entries.map entryLine)).toList ++ cs)
  have hentries := continues_entries hname [] h.keys h.values h.distinct cs
  have htext : part.text.toList ++ cs = '[' :: (part.name.toList ++ ']' ::
      '\n' :: ((String.join (part.entries.map entryLine)).toList ++ cs)) := by
    simp [text]
  rw [htext]
  exact hheader.trans hentries

/-- All sections are read, one after the other. -/
theorem continues_textOf (read : List Section) {left : List Section}
    (hleft : ∀ part ∈ left, part.IsWritable)
    (hdistinct : (names (read ++ left)).Nodup) (path : List String) :
    ∃ latest, Continues path (tableOf read) (textOf left).toList
      latest (tableOf (read ++ left)) [] := by
  induction left generalizing read path with
  | nil =>
      refine ⟨path, ?_⟩
      rw [List.append_nil]
      exact Continues.refl
  | cons part left ih =>
      have hnew : part.name ∉ names read := by
        rw [names, List.map_append, List.nodup_append] at hdistinct
        intro hmem
        exact hdistinct.2.2 _ hmem _ List.mem_cons_self rfl
      have hpart := hleft part List.mem_cons_self
      have hmore := ih (read ++ [part])
        (fun other hother => hleft other (List.mem_cons_of_mem part hother))
        (by simpa using hdistinct) [part.name]
      obtain ⟨latest, hmore⟩ := hmore
      rw [List.append_assoc, List.singleton_append] at hmore
      cases left with
      | nil =>
          have hlast := continues_section hpart hnew path []
          rw [List.append_nil] at hlast
          exact ⟨[part.name], by simpa [textOf] using hlast⟩
      | cons next left =>
          have hsection := continues_section hpart hnew path
            ('\n' :: (textOf (next :: left)).toList)
          have hempty := continues_emptyLine [part.name]
            (tableOf (read ++ [part])) (textOf (next :: left)).toList
          have htext : (textOf (part :: next :: left)).toList =
              part.text.toList ++ '\n' :: (textOf (next :: left)).toList := by
            simp [textOf]
          rw [htext]
          exact ⟨latest, (hsection.trans hempty).trans hmore⟩

end Section

/-- A text of sections begins with a bracket, not with a byte order mark. -/
theorem Section.toList_textOf_cons (part : Section) (left : List Section) :
    ∃ tail, (textOf (part :: left)).toList = '[' :: tail := by
  cases left with
  | nil => exact ⟨_, by simp [textOf, text]; rfl⟩
  | cons next left => exact ⟨_, by simp [textOf, text]; rfl⟩

/-- A record of sections is read back from its text. -/
theorem parse?_render {sections : List Section}
    (hwritable : ∀ part ∈ sections, part.IsWritable)
    (hdistinct : (Section.names sections).Nodup) :
    ∃ text, render? (Section.documentOf sections) = some text ∧
      parse? text = some (Section.documentOf sections) := by
  refine ⟨Section.textOf sections, Section.render?_documentOf hwritable, ?_⟩
  obtain ⟨latest, hread⟩ :=
    Section.continues_textOf [] hwritable hdistinct []
  have hlines := hread.readLines_eq
  cases sections with
  | nil => rfl
  | cons part left =>
      obtain ⟨tail, htext⟩ := Section.toList_textOf_cons part left
      rw [htext] at hlines
      have hempty : Section.tableOf [] = Node.empty := rfl
      rw [List.nil_append, hempty] at hlines
      rw [parse?, htext]
      change (readLines (('[' :: tail).length + 1) [] Node.empty
        ('[' :: tail)).map Node.toDocument = _
      rw [hlines, Option.map_some, Section.toDocument_tableOf]

end LanRelay.Toml
