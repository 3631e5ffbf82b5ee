/-
Numerals are read back as the numbers they stand for.

Main statements: `leadingDigits_toDigits`, by which a reader takes exactly the
digits of a numeral, and `exists_digits_padStart`, for the four digits of an
escape.
-/
import LanRelay.Text.Digits
import Mathlib.Data.List.Basic
import Mathlib.Tactic.IntervalCases

namespace LanRelay.Text

variable {radix : Nat}

/-- A text with which no run of digits goes on. -/
def EndsDigits (radix : Nat) (cs : List Char) : Prop :=
  ∀ c ∈ cs.head?, digit? radix c = none

theorem endsDigits_nil : EndsDigits radix [] := by
  intro c hc
  cases hc

theorem endsDigits_cons {c : Char} {cs : List Char}
    (hc : digit? radix c = none) : EndsDigits radix (c :: cs) := by
  intro d hd
  rw [List.head?_cons, Option.mem_some] at hd
  rw [← hd, hc]

/-- What is no hexadecimal digit is no decimal digit. -/
theorem EndsDigits.ten {cs : List Char} (h : EndsDigits 16 cs) :
    EndsDigits 10 cs := by
  intro c hc
  have hnone := h c hc
  by_cases hten : '0' ≤ c ∧ c ≤ '9'
  · have hle : c.toNat ≤ 57 := hten.2
    simp [digit?, hten] at hnone
    omega
  · have hlower : 'a' ≤ c → 97 ≤ c.toNat := fun h => h
    have hupper : 'A' ≤ c → 65 ≤ c.toNat := fun h => h
    simp only [digit?, if_neg hten]
    refine if_neg ?_
    split
    · next hletter =>
        have := hlower hletter.1
        omega
    · split
      · next hletter =>
          have := hupper hletter.1
          omega
      · omega

/-- The digits of a number, highest first, without needless zeros. -/
structure Spells (radix : Nat) (digits : List Nat) (n : Nat) : Prop where
  value : ofDigits radix digits = n
  below : ∀ d ∈ digits, d < radix
  nonempty : digits ≠ []
  /-- Only zero begins with the digit zero. -/
  trimmed : digits.head? = some 0 → digits = [0]

/-- No zero leads more digits. -/
theorem Spells.no_leading_zero {digits : List Nat} {n : Nat}
    (h : Spells radix digits n) :
    ¬(digits.length ≠ 1 ∧ digits.head? = some 0) := by
  rintro ⟨hlength, hhead⟩
  rw [h.trimmed hhead] at hlength
  exact hlength rfl

theorem ne_of_digit? {c d : Char} {value : Nat}
    (hc : digit? radix c = some value) (hd : digit? radix d = none) :
    c ≠ d := by
  rintro rfl
  rw [hc] at hd
  cases hd

theorem digit?_digitChar {d : Nat} (hd : d < radix) (hradix : radix ≤ 16) :
    digit? radix (Nat.digitChar d) = some d := by
  have hd16 : d < 16 := by omega
  interval_cases d <;> simp [digit?, Nat.digitChar, hd]

theorem digit?_toUpper_digitChar {d : Nat} (hd : d < 16) :
    digit? 16 (Nat.digitChar d).toUpper = some d := by
  interval_cases d <;> decide

theorem ofDigits_concat (digits : List Nat) (d : Nat) :
    ofDigits radix (digits ++ [d]) = radix * ofDigits radix digits + d := by
  simp [ofDigits, List.foldl_append]

/-- The leading digits of a text that begins with given ones. -/
theorem leadingDigits_map_digitChar (hradix : radix ≤ 16) {digits : List Nat}
    (hdigits : ∀ d ∈ digits, d < radix) {rest : List Char}
    (hrest : EndsDigits radix rest) :
    leadingDigits radix (digits.map Nat.digitChar ++ rest) =
      (digits, rest) := by
  induction digits with
  | nil =>
      cases rest with
      | nil => rfl
      | cons c rest =>
          have hc : digit? radix c = none := hrest c rfl
          simp [leadingDigits, hc]
  | cons d digits ih =>
      have hd : digit? radix (Nat.digitChar d) = some d :=
        digit?_digitChar (hdigits d List.mem_cons_self) hradix
      have hmore := ih fun d' hd' => hdigits d' (List.mem_cons_of_mem d hd')
      simp only [List.map_cons, List.cons_append, leadingDigits, hd, hmore]

/-- Whatever digits a reader takes off the front of a text, it leaves an end of
that text. -/
theorem exists_suffix_leadingDigits (front : List Char) {rest : List Char}
    (hrest : EndsDigits radix rest) :
    ∃ left, left <:+ front ∧
      (leadingDigits radix (front ++ rest)).2 = left ++ rest := by
  induction front with
  | nil =>
      refine ⟨[], List.suffix_refl [], ?_⟩
      cases rest with
      | nil => rfl
      | cons c rest => simp [leadingDigits, hrest c rfl]
  | cons c front ih =>
      rw [List.cons_append, leadingDigits]
      split
      · exact ⟨c :: front, List.suffix_refl _, rfl⟩
      · obtain ⟨left, hsuffix, hleft⟩ := ih
        exact ⟨left, hsuffix.trans (List.suffix_cons c front), hleft⟩

/-- The numeral of a number consists of its digits. -/
theorem exists_digits_toDigits (hradix : 1 < radix) (n : Nat) :
    ∃ digits, Nat.toDigits radix n = digits.map Nat.digitChar ∧
      Spells radix digits n := by
  induction n using Nat.strongRecOn with
  | ind n ih =>
      by_cases hn : n < radix
      · refine ⟨[n], by simp [Nat.toDigits_of_lt_base hn], ?_⟩
        exact ⟨by simp [ofDigits], by simpa using hn, by simp,
          fun hhead => by simpa using hhead⟩
      · have hle : radix ≤ n := by omega
        have hsmaller : n / radix < n := Nat.div_lt_self (by omega) hradix
        obtain ⟨digits, htext, hspells⟩ := ih (n / radix) hsmaller
        refine ⟨digits ++ [n % radix], ?_, ?_, ?_, by simp, ?_⟩
        · rw [Nat.toDigits_of_base_le hradix hle, htext, List.map_append]
          rfl
        · rw [ofDigits_concat, hspells.value, Nat.div_add_mod]
        · intro d hd
          rcases List.mem_append.mp hd with hfront | hlast
          · exact hspells.below d hfront
          · rw [List.mem_singleton.mp hlast]
            exact Nat.mod_lt n (by omega)
        · -- The front is no zero, so it does not begin with one.
          intro hhead
          obtain ⟨d, tail, rfl⟩ :=
            List.exists_cons_of_ne_nil hspells.nonempty
          have hzero := hspells.value
          rw [hspells.trimmed hhead] at hzero
          have hpos : 0 < n / radix := Nat.div_pos hle (by omega)
          simp [ofDigits] at hzero
          omega

/-- A reader takes exactly the digits of a numeral, if no digit follows. -/
theorem leadingDigits_toDigits (hradix : 1 < radix) (hle : radix ≤ 16)
    (n : Nat) {rest : List Char} (hrest : EndsDigits radix rest) :
    ∃ digits, leadingDigits radix (Nat.toDigits radix n ++ rest) =
        (digits, rest) ∧
      Spells radix digits n ∧
      digits.length = (Nat.toDigits radix n).length := by
  obtain ⟨digits, htext, hspells⟩ := exists_digits_toDigits hradix n
  refine ⟨digits, ?_, hspells, by rw [htext, List.length_map]⟩
  rw [htext]
  exact leadingDigits_map_digitChar hle hspells.below hrest

/-- A numeral begins with a digit. -/
theorem exists_toDigits_eq_cons (hradix : 1 < radix) (n : Nat) :
    ∃ d tail, d < radix ∧
      Nat.toDigits radix n = Nat.digitChar d :: tail := by
  obtain ⟨digits, htext, hspells⟩ := exists_digits_toDigits hradix n
  cases digits with
  | nil => exact absurd rfl hspells.nonempty
  | cons d digits =>
      exact ⟨d, _, hspells.below d List.mem_cons_self, htext⟩

theorem not_mem_toDigits {n : Nat} {c : Char} (hc : c.isDigit = false) :
    c ∉ Nat.toDigits 10 n := by
  intro hmem
  rw [Nat.isDigit_of_mem_toDigits (by decide) (by decide) hmem] at hc
  cases hc

theorem byte?_toDigits (byte : UInt8) :
    byte? (String.ofList (Nat.toDigits 10 byte.toNat)) = some byte := by
  obtain ⟨digits, hread, hspells, -⟩ := leadingDigits_toDigits
    (show 1 < 10 by decide) (by decide) byte.toNat endsDigits_nil
  rw [List.append_nil] at hread
  rw [byte?, unsigned?, String.toList_ofList]
  split
  · next cs hplus =>
      -- A numeral has no sign.
      have hsign : '+' ∈ Nat.toDigits 10 byte.toNat :=
        hplus ▸ List.mem_cons_self
      exact absurd hsign (not_mem_toDigits rfl)
  · obtain ⟨d, tail, rfl⟩ := List.exists_cons_of_ne_nil hspells.nonempty
    have hbelow := byte.toNat_lt
    simp only [natural?, hread, hspells.value]
    simp [hbelow]

theorem ofDigits_replicate_zero_append (count : Nat) (digits : List Nat) :
    ofDigits radix (List.replicate count 0 ++ digits) =
      ofDigits radix digits := by
  induction count with
  | zero => rfl
  | succ count ih =>
      rw [List.replicate_succ, List.cons_append]
      simpa [ofDigits] using ih

/-- A hexadecimal numeral of at most four digits, filled up with zeros. -/
theorem exists_digits_padStart {n : Nat} (hn : n < 16 ^ 4) :
    ∃ d₃ d₂ d₁ d₀, (padStart '0' 4 (hexNumeral n)).toList =
        [d₃, d₂, d₁, d₀].map Nat.digitChar ∧
      (∀ d ∈ [d₃, d₂, d₁, d₀], d < 16) ∧
      ofDigits 16 [d₃, d₂, d₁, d₀] = n := by
  obtain ⟨digits, htext, hspells⟩ :=
    exists_digits_toDigits (show 1 < 16 by decide) n
  have hlength : digits.length ≤ 4 := by
    rw [← List.length_map Nat.digitChar, ← htext]
    exact (Nat.length_toDigits_le_iff (by decide) (by decide)).mpr hn
  have hfilled :
      (List.replicate (4 - digits.length) 0 ++ digits).length = 4 := by
    rw [List.length_append, List.length_replicate]
    omega
  obtain ⟨d₃, d₂, d₁, d₀, heq⟩ := List.length_eq_four.mp hfilled
  refine ⟨d₃, d₂, d₁, d₀, ?_, ?_, ?_⟩
  · have hzero : Nat.digitChar 0 = '0' := rfl
    rw [← heq, List.map_append, List.map_replicate, hzero, ← htext]
    simp [padStart, hexNumeral, htext]
  · rw [← heq]
    intro d hd
    rcases List.mem_append.mp hd with hzero | hdigit
    · rw [List.eq_of_mem_replicate hzero]
      decide
    · exact hspells.below d hdigit
  · rw [← heq, ofDigits_replicate_zero_append, hspells.value]

end LanRelay.Text
