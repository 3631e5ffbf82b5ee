/-
Quoted texts of a TOML document are read back.

Main statement: `Toml.readQuoted?_quote`. Every form of quotes is read back
for the texts that are written in it: the escaping forms take any text, the
verbatim ones only texts without control characters and long runs of quotes.
-/
import LanRelay.Document.Toml.Printer
import LanRelay.Proofs.Text.Numerals

namespace LanRelay.Toml

open LanRelay.Text

variable {text rest : List Char}

/-! Escapes -/

/-- What stands for a character other than the quote. -/
def escapeChar (isManyLines : Bool) : Char → List Char
  | '\\' => ['\\', '\\']
  | '\x08' => ['\\', 'b']
  | '\t' => ['\\', 't']
  | '\n' => if isManyLines then ['\n'] else ['\\', 'n']
  | '\x0C' => ['\\', 'f']
  | '\r' => ['\\', 'r']
  | c => if isTextChar c then [c] else numberEscape c

theorem escape_cons {isManyLines : Bool} {allowed room : Nat} {c : Char}
    (hquote : c ≠ '"') (cs : List Char) :
    escape isManyLines allowed room (c :: cs) =
      escapeChar isManyLines c ++ escape isManyLines allowed allowed cs := by
  rw [escape.eq_def]
  split
  · next heq => cases heq
  · next heq => exact absurd (List.cons.inj heq).1 hquote
  · next heq => exact absurd (List.cons.inj heq).1 hquote
  · next heq =>
      cases heq
      rfl

theorem exists_hexChar?_numberEscape {c : Char} (hc : isTextChar c = false) :
    ∃ a b d e, numberEscape c = ['\\', 'u', a, b, d, e] ∧
      hexChar? [a, b, d, e] = some c := by
  have hsmall : c.toNat < 16 ^ 4 := by
    simp [isTextChar] at hc
    omega
  obtain ⟨d₃, d₂, d₁, d₀, htext, hdigits, hvalue⟩ :=
    exists_digits_padStart hsmall
  have hread (d : Nat) (hd : d ∈ [d₃, d₂, d₁, d₀]) :
      digit? 16 (Nat.digitChar d).toUpper = some d :=
    digit?_toUpper_digitChar (hdigits d hd)
  refine ⟨(Nat.digitChar d₃).toUpper, (Nat.digitChar d₂).toUpper,
    (Nat.digitChar d₁).toUpper, (Nat.digitChar d₀).toUpper, ?_, ?_⟩
  · rw [numberEscape, htext]
    rfl
  · simp [hexChar?, hread, hvalue, Literal.char?_toNat]

/-- What stands for a character between double quotes is read as that
character. -/
theorem readBasic_escapeChar {c : Char} (hquote : c ≠ '"') {cs : List Char}
    (h : readBasic cs = some (text, rest)) :
    readBasic (escapeChar false c ++ cs) = some (c :: text, rest) := by
  rw [escapeChar.eq_def]
  split
  case h_7 hbackslash _ _ _ _ _ =>
    split
    · next hchar =>
        have hplain : c ≠ '\\' := hbackslash
        simp [readBasic, hplain, hchar, prepend, h]
    · next hchar =>
        obtain ⟨a, b, d, e, htext, hread⟩ :=
          exists_hexChar?_numberEscape (Bool.eq_false_iff.mpr hchar)
        simp [htext, readBasic, hread, prepend, h]
  all_goals simp [readBasic, escaped?, prepend, h]

theorem readBasic_escape (text rest : List Char) :
    readBasic (escape false 0 0 text ++ '"' :: rest) = some (text, rest) := by
  induction text with
  | nil => simp [escape, readBasic]
  | cons c text ih =>
      by_cases hquote : c = '"'
      · rw [hquote, escape]
        simp [readBasic, escaped?, prepend, ih]
      · rw [escape_cons hquote, List.append_assoc]
        exact readBasic_escapeChar hquote ih

theorem readVerbatim_append (htext : ∀ c ∈ text, isTextChar c ∧ c ≠ '\'')
    (rest : List Char) :
    readVerbatim (text ++ '\'' :: rest) = some (text, rest) := by
  induction text with
  | nil => simp [readVerbatim]
  | cons c text ih =>
      obtain ⟨hchar, hquote⟩ := htext c List.mem_cons_self
      have hmore := ih fun d hd => htext d (List.mem_cons_of_mem c hd)
      simp [readVerbatim, hchar, prepend, hmore]

/-! Several lines between double quotes -/

/-- A character that is neither a backslash nor, in front of two more, a quote
stands for itself. -/
theorem readBasicLines_cons {c : Char} {cs : List Char}
    (hchar : c = '\n' ∨ isTextChar c) (hbackslash : c ≠ '\\')
    (hquote : c = '"' → ∀ more, cs ≠ '"' :: '"' :: more)
    (h : readBasicLines .text cs = some (text, rest)) :
    readBasicLines .text (c :: cs) = some (c :: text, rest) := by
  have hreturn : c ≠ '\r' := by
    rintro rfl
    revert hchar
    decide
  rw [readBasicLines.eq_19]
  · rw [if_pos hchar, h]
    rfl
  -- The other readings begin with a backslash, a return or three quotes.
  · exact fun _ hc => hquote hc _
  · exact fun _ hc => hquote hc _
  · exact fun _ hc => hquote hc _
  all_goals simp [hbackslash, hreturn]

theorem readBasicLines_escapeChar {c : Char} (hquote : c ≠ '"')
    {cs : List Char} (h : readBasicLines .text cs = some (text, rest)) :
    readBasicLines .text (escapeChar true c ++ cs) =
      some (c :: text, rest) := by
  rw [escapeChar.eq_def]
  split
  case h_7 hbackslash _ _ _ _ _ =>
    split
    · next hchar =>
        exact readBasicLines_cons (Or.inr hchar) hbackslash
          (fun heq => absurd heq hquote) h
    · next hchar =>
        obtain ⟨a, b, d, e, htext, hread⟩ :=
          exists_hexChar?_numberEscape (Bool.eq_false_iff.mpr hchar)
        simp [htext, readBasicLines, hread, prepend, h]
  case h_4 =>
    exact readBasicLines_cons (Or.inl rfl) (by decide)
      (fun heq => absurd heq hquote) h
  all_goals simp [readBasicLines, escaped?, isGap, prepend, h]

theorem exists_escapeChar_eq_cons (isManyLines : Bool) {c : Char}
    (hquote : c ≠ '"') :
    ∃ d tail, escapeChar isManyLines c = d :: tail ∧ d ≠ '"' := by
  rw [escapeChar.eq_def]
  split
  case h_4 =>
    cases isManyLines with
    | false => exact ⟨_, _, rfl, by decide⟩
    | true => exact ⟨_, _, rfl, by decide⟩
  case h_7 =>
    split
    · exact ⟨c, [], rfl, hquote⟩
    · exact ⟨'\\', _, rfl, by decide⟩
  all_goals exact ⟨_, _, rfl, by decide⟩

/-- Where no quote may follow, what is written begins with none. -/
theorem exists_escape_eq_cons (isManyLines : Bool) (allowed : Nat) (c : Char)
    (cs : List Char) :
    ∃ d tail, escape isManyLines allowed 0 (c :: cs) = d :: tail ∧
      d ≠ '"' := by
  by_cases hquote : c = '"'
  · rw [hquote, escape]
    exact ⟨_, _, rfl, by decide⟩
  · obtain ⟨d, tail, htext, hd⟩ :=
      exists_escapeChar_eq_cons isManyLines hquote
    rw [escape_cons hquote, htext]
    exact ⟨d, _, rfl, hd⟩

section

variable (hrest : rest.head? ≠ some '"')

include hrest

/-- A quote in front of a text stands for itself. If no more than one other
quote follows it before the closing ones, it is read together with them. -/
theorem readBasicLines_quote {room : Nat} (hroom : room ≤ 1)
    (h : readBasicLines .text (escape true 2 room text ++
      '"' :: '"' :: '"' :: rest) = some (text, rest)) :
    readBasicLines .text ('"' :: (escape true 2 room text ++
      '"' :: '"' :: '"' :: rest)) = some ('"' :: text, rest) := by
  have hnext : ∀ cs, rest ≠ '"' :: cs := by
    rintro cs rfl
    exact hrest rfl
  have hchar : '"' = '\n' ∨ isTextChar '"' := Or.inr rfl
  have hbackslash : '"' ≠ '\\' := by decide
  cases text with
  | nil => simp [escape, readBasicLines]
  | cons c text =>
      by_cases hquote : c = '"'
      · subst hquote
        match room with
        | 0 =>
            refine readBasicLines_cons hchar hbackslash ?_ h
            intro _ more heq
            rw [escape] at heq
            cases heq
        | 1 =>
            cases text with
            | nil => simp [escape, readBasicLines]
            | cons d text =>
                refine readBasicLines_cons hchar hbackslash ?_ h
                intro _ more heq
                obtain ⟨e, tail, htext, he⟩ :=
                  exists_escape_eq_cons true 2 d text
                rw [escape, htext] at heq
                exact he (List.cons.inj (List.cons.inj heq).2).1
      · obtain ⟨d, tail, htext, hd⟩ := exists_escapeChar_eq_cons true hquote
        refine readBasicLines_cons hchar hbackslash ?_ h
        intro _ more heq
        rw [escape_cons hquote, htext] at heq
        exact hd (List.cons.inj heq).1

/-- Escapes between three double quotes are read, whatever the text is. -/
theorem readBasicLines_escape (text : List Char) {room : Nat}
    (hroom : room ≤ 2) :
    readBasicLines .text (escape true 2 room text ++
      '"' :: '"' :: '"' :: rest) = some (text, rest) := by
  induction text generalizing room with
  | nil =>
      have hnext : ∀ cs, rest ≠ '"' :: cs := by
        rintro cs rfl
        exact hrest rfl
      simp [escape, readBasicLines, hnext]
  | cons c text ih =>
      by_cases hquote : c = '"'
      · subst hquote
        match room with
        | 0 =>
            rw [escape]
            simp [readBasicLines, escaped?, isGap, prepend, ih]
        | room + 1 =>
            have hless : room ≤ 1 := by omega
            rw [escape, List.cons_append]
            exact readBasicLines_quote hrest hless (ih (by omega))
      · rw [escape_cons hquote, List.append_assoc]
        exact readBasicLines_escapeChar hquote (ih (Nat.le_refl 2))

end

/-! Several lines between single quotes -/

theorem readVerbatimLines_cons {c : Char} {cs : List Char}
    (hchar : c = '\n' ∨ isTextChar c)
    (hquote : c = '\'' → ∀ more, cs ≠ '\'' :: '\'' :: more)
    (h : readVerbatimLines cs = some (text, rest)) :
    readVerbatimLines (c :: cs) = some (c :: text, rest) := by
  have hreturn : c ≠ '\r' := by
    rintro rfl
    revert hchar
    decide
  rw [readVerbatimLines.eq_6]
  · rw [if_pos hchar, h]
    rfl
  · exact fun _ hc => hquote hc _
  · exact fun _ hc => hquote hc _
  · exact fun _ hc => hquote hc _
  · exact fun _ hc => absurd hc hreturn

theorem le_longestRun (c : Char) (current : Nat) (cs : List Char) :
    current ≤ longestRun c current cs := by
  induction cs generalizing current with
  | nil => exact Nat.le_refl current
  | cons d cs ih =>
      rw [longestRun]
      split
      · exact (Nat.le_succ current).trans (ih (current + 1))
      · exact Nat.le_max_left current _

section

variable (hrest : rest.head? ≠ some '\'') {current : Nat}

include hrest

/-- A quote in front of a text without long runs stands for itself, or is read
together with the closing ones. -/
theorem readVerbatimLines_quote
    (hrun : longestRun '\'' (current + 1) text ≤ 2)
    (h : readVerbatimLines (text ++ '\'' :: '\'' :: '\'' :: rest) =
      some (text, rest)) :
    readVerbatimLines ('\'' :: (text ++ '\'' :: '\'' :: '\'' :: rest)) =
      some ('\'' :: text, rest) := by
  have hnext : ∀ cs, rest ≠ '\'' :: cs := by
    rintro cs rfl
    exact hrest rfl
  have hchar : '\'' = '\n' ∨ isTextChar '\'' := Or.inr rfl
  cases text with
  | nil => simp [readVerbatimLines]
  | cons c text =>
      by_cases hquote : c = '\''
      · subst hquote
        cases text with
        | nil => simp [readVerbatimLines]
        | cons d text =>
            refine readVerbatimLines_cons hchar ?_ h
            intro _ more heq
            have hd : d = '\'' := (List.cons.inj (List.cons.inj heq).2).1
            rw [longestRun, if_pos rfl, longestRun, if_pos hd] at hrun
            have hlong := le_longestRun '\'' (current + 1 + 1 + 1) text
            omega
      · refine readVerbatimLines_cons hchar ?_ h
        intro _ more heq
        exact hquote (List.cons.inj heq).1

theorem readVerbatimLines_append
    (hrun : longestRun '\'' current text ≤ 2)
    (htext : ∀ c ∈ text, c = '\n' ∨ isTextChar c) :
    readVerbatimLines (text ++ '\'' :: '\'' :: '\'' :: rest) =
      some (text, rest) := by
  induction text generalizing current with
  | nil =>
      have hnext : ∀ cs, rest ≠ '\'' :: cs := by
        rintro cs rfl
        exact hrest rfl
      simp [readVerbatimLines, hnext]
  | cons c text ih =>
      have hmore : ∀ d ∈ text, d = '\n' ∨ isTextChar d :=
        fun d hd => htext d (List.mem_cons_of_mem c hd)
      rw [longestRun] at hrun
      split at hrun
      · next hquote =>
          rw [hquote]
          exact readVerbatimLines_quote hrest hrun (ih hrun hmore)
      · next hquote =>
          have hshort : longestRun '\'' 0 text ≤ 2 :=
            (Nat.le_max_right current _).trans hrun
          exact readVerbatimLines_cons (htext c List.mem_cons_self)
            (fun heq => absurd heq hquote) (ih hshort hmore)

end

/-! Any quotes -/

/-- A text without bare control characters. -/
theorem isTextChar_of_isFree (hfree : !text.any isBareControl) {c : Char}
    (hc : c ∈ text) : c = '\n' ∨ isTextChar c := by
  have hall : ∀ d ∈ text, ¬isBareControl d := by simpa using hfree
  have hbare := hall c hc
  simpa [isBareControl, or_iff_not_imp_left] using hbare

theorem of_quotingOf_eq_verbatim (h : quotingOf text = .verbatim) :
    ∀ c ∈ text, isTextChar c ∧ c ≠ '\'' := by
  simp only [quotingOf] at h
  split at h
  · cases h
  · split at h
    · next hverbatim =>
        obtain ⟨hfree, hline, hquote⟩ := hverbatim
        intro c hc
        have hcharacter := isTextChar_of_isFree hfree hc
        refine ⟨hcharacter.resolve_left ?_, ?_⟩
        · rintro rfl
          simp [hc] at hline
        · rintro rfl
          simp [hc] at hquote
    · split at h
      · cases h
      · split at h
        · cases h
        · split at h <;> cases h

theorem of_quotingOf_eq_verbatimLines (h : quotingOf text = .verbatimLines) :
    (∀ c ∈ text, c = '\n' ∨ isTextChar c) ∧ longestRun '\'' 0 text ≤ 2 := by
  simp only [quotingOf] at h
  split at h
  · cases h
  · split at h
    · cases h
    · split at h
      · cases h
      · split at h
        · next hlines =>
            exact ⟨fun c hc => isTextChar_of_isFree hlines.1 hc, hlines.2⟩
        · split at h <;> cases h

/-- Quotes that are not three are read on one line. -/
theorem readQuoted?_eq_readLine? {q : Char} {cs : List Char}
    (h : ∀ more, cs ≠ q :: q :: more) :
    readQuoted? (q :: cs) = readLine? (q :: cs) := by
  rw [readQuoted?.eq_def]
  split
  · next heq =>
      cases heq
      exact absurd rfl (h _)
  · next heq =>
      cases heq
      exact absurd rfl (h _)
  · rfl

theorem readQuoted?_basic (text rest : List Char) :
    readQuoted? ('"' :: (escape false 0 0 text ++ '"' :: '\n' :: rest)) =
      some (text, '\n' :: rest) := by
  rw [readQuoted?_eq_readLine?]
  · exact readBasic_escape text ('\n' :: rest)
  · intro more heq
    cases text with
    | nil => cases heq
    | cons c text =>
        obtain ⟨d, tail, htext, hd⟩ := exists_escape_eq_cons false 0 c text
        rw [htext] at heq
        exact hd (List.cons.inj heq).1

theorem readQuoted?_verbatim
    (htext : ∀ c ∈ text, isTextChar c ∧ c ≠ '\'') (rest : List Char) :
    readQuoted? ('\'' :: (text ++ '\'' :: '\n' :: rest)) =
      some (text, '\n' :: rest) := by
  rw [readQuoted?_eq_readLine?]
  · exact readVerbatim_append htext ('\n' :: rest)
  · intro more heq
    cases text with
    | nil => cases heq
    | cons c text =>
        exact (htext c List.mem_cons_self).2 (List.cons.inj heq).1

/-- The line end behind three opening quotes, which the text does not begin
with itself if it has none. -/
theorem skipFirstLineEnd_opening {body : List Char} {c : Char}
    {cs : List Char} (hbody : body = c :: cs) (hreturn : c ≠ '\r')
    (hline : text.contains '\n' = false → c ≠ '\n') :
    skipFirstLineEnd
      ((if text.contains '\n' then ['\n'] else []) ++ body) = body := by
  split
  · rfl
  · next hnone =>
      have hc := hline (Bool.eq_false_iff.mpr hnone)
      rw [hbody]
      simp [skipFirstLineEnd, hc, hreturn]

theorem exists_escape_lines_eq_cons (text cs : List Char) :
    ∃ c tail, escape true 2 2 text ++ '"' :: cs = c :: tail ∧ c ≠ '\r' ∧
      (text.contains '\n' = false → c ≠ '\n') := by
  cases text with
  | nil => exact ⟨'"', cs, rfl, by decide, fun _ => by decide⟩
  | cons c text =>
      by_cases hquote : c = '"'
      · subst hquote
        exact ⟨'"', _, rfl, by decide, fun _ => by decide⟩
      · rw [escape_cons hquote, escapeChar.eq_def]
        split
        case h_4 => exact ⟨'\n', _, rfl, by decide, by simp⟩
        case h_7 =>
          split
          · next hline hfeed hreturn _ =>
              exact ⟨c, _, rfl, hreturn, fun _ => hline⟩
          · exact ⟨'\\', _, rfl, by decide, fun _ => by decide⟩
        all_goals exact ⟨'\\', _, rfl, by decide, fun _ => by decide⟩

theorem exists_verbatim_lines_eq_cons
    (htext : ∀ c ∈ text, c = '\n' ∨ isTextChar c) (cs : List Char) :
    ∃ c tail, text ++ '\'' :: cs = c :: tail ∧ c ≠ '\r' ∧
      (text.contains '\n' = false → c ≠ '\n') := by
  cases text with
  | nil => exact ⟨'\'', cs, rfl, by decide, fun _ => by decide⟩
  | cons c text =>
      refine ⟨c, _, rfl, ?_, ?_⟩
      · rintro rfl
        have hreturn := htext '\r' List.mem_cons_self
        revert hreturn
        decide
      · rintro hnone rfl
        simp at hnone

/-- A quoted text is read back at the end of its line. -/
theorem readQuoted?_quote (text rest : List Char) :
    readQuoted? (quote text ++ '\n' :: rest) = some (text, '\n' :: rest) := by
  cases hform : quotingOf text with
  | basic =>
      have hread := readQuoted?_basic text rest
      simpa [quote, hform, Quoting.quotes, Quoting.isManyLines] using hread
  | verbatim =>
      have hread := readQuoted?_verbatim (of_quotingOf_eq_verbatim hform) rest
      simpa [quote, hform, Quoting.quotes, Quoting.isManyLines] using hread
  | basicLines =>
      have hend : ('\n' :: rest).head? ≠ some '"' := by simp
      have hread := readBasicLines_escape hend text (Nat.le_refl 2)
      obtain ⟨c, tail, hbody, hreturn, hline⟩ :=
        exists_escape_lines_eq_cons text ('"' :: '"' :: '\n' :: rest)
      rw [← skipFirstLineEnd_opening hbody hreturn hline] at hread
      simpa [quote, hform, Quoting.quotes, Quoting.isManyLines, readQuoted?]
        using hread
  | verbatimLines =>
      have hend : ('\n' :: rest).head? ≠ some '\'' := by simp
      obtain ⟨htext, hrun⟩ := of_quotingOf_eq_verbatimLines hform
      have hread := readVerbatimLines_append hend hrun htext
      obtain ⟨c, tail, hbody, hreturn, hline⟩ :=
        exists_verbatim_lines_eq_cons htext ('\'' :: '\'' :: '\n' :: rest)
      rw [← skipFirstLineEnd_opening hbody hreturn hline] at hread
      simpa [quote, hform, Quoting.quotes, Quoting.isManyLines, readQuoted?]
        using hread

end LanRelay.Toml
