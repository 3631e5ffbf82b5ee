/-
How a text is cut: at a separator, at blank characters, and after a given
start.

Each way of cutting is described by the text that it is taken from:
`cutAt?_eq_some_iff`, `head?_splitAt_eq_some_iff`, `firstWord_eq_iff`, and
`trim_append` for the blank characters at the ends.
-/
import LanRelay.Text.Blank
import Mathlib.Data.List.DropRight

namespace LanRelay.Text

variable {sep : Char}

/-! A separator. -/

theorem cutAt?_eq_some_iff {cs before after : List Char} :
    cutAt? sep cs = some (before, after) ↔
      sep ∉ before ∧ cs = before ++ sep :: after := by
  induction cs generalizing before with
  | nil => simp [cutAt?]
  | cons c cs ih =>
      rw [cutAt?]
      split
      · next hsep =>
          subst hsep
          cases before with
          | nil => simp [eq_comm]
          | cons d before =>
              simp only [Option.some.injEq, Prod.mk.injEq, List.mem_cons,
                List.cons_append, List.cons.injEq]
              constructor
              · rintro ⟨hnil, -⟩
                cases hnil
              · rintro ⟨hnot, rfl, -⟩
                exact absurd (Or.inl rfl) hnot
      · next hsep =>
          cases before with
          | nil =>
              simp [hsep]
          | cons d before =>
              simp only [Option.map_eq_some_iff, Prod.mk.injEq, Prod.exists,
                List.cons.injEq, List.mem_cons, List.cons_append]
              constructor
              · rintro ⟨front, rest, hcut, ⟨rfl, rfl⟩, rfl⟩
                obtain ⟨hnot, rfl⟩ := ih.mp hcut
                refine ⟨?_, rfl, rfl⟩
                rintro (rfl | hmem)
                · exact hsep rfl
                · exact hnot hmem
              · rintro ⟨hnot, rfl, rfl⟩
                refine ⟨before, after, ih.mpr ⟨?_, rfl⟩, ⟨rfl, rfl⟩, rfl⟩
                exact fun hmem => hnot (Or.inr hmem)

theorem splitAt_ne_nil (sep : Char) (cs : List Char) : splitAt sep cs ≠ [] := by
  cases cs with
  | nil => simp [splitAt]
  | cons c cs =>
      rw [splitAt]
      split
      · simp
      · split <;> simp

theorem splitAt_cons_of_ne {c : Char} (hc : c ≠ sep) {cs piece : List Char}
    {pieces : List (List Char)} (h : splitAt sep cs = piece :: pieces) :
    splitAt sep (c :: cs) = (c :: piece) :: pieces := by
  rw [splitAt, if_neg hc, h]

/-- A text without the separator is one piece. -/
theorem splitAt_of_not_mem {cs : List Char} (h : sep ∉ cs) :
    splitAt sep cs = [cs] := by
  induction cs with
  | nil => rfl
  | cons c cs ih =>
      rw [List.mem_cons, not_or] at h
      exact splitAt_cons_of_ne (Ne.symm h.1) (ih h.2)

theorem splitAt_append {piece : List Char} (h : sep ∉ piece)
    (rest : List Char) :
    splitAt sep (piece ++ sep :: rest) = piece :: splitAt sep rest := by
  induction piece with
  | nil => rw [List.nil_append, splitAt, if_pos rfl]
  | cons c piece ih =>
      rw [List.mem_cons, not_or] at h
      exact splitAt_cons_of_ne (Ne.symm h.1) (ih h.2)

theorem not_mem_of_mem_splitAt {cs piece : List Char}
    (h : piece ∈ splitAt sep cs) : sep ∉ piece := by
  induction cs generalizing piece with
  | nil =>
      rw [splitAt, List.mem_singleton] at h
      simp [h]
  | cons c cs ih =>
      obtain ⟨first, pieces, hsplit⟩ :=
        List.exists_cons_of_ne_nil (splitAt_ne_nil sep cs)
      by_cases hc : c = sep
      · rw [splitAt, if_pos hc, List.mem_cons] at h
        rcases h with rfl | h
        · exact List.not_mem_nil
        · exact ih h
      · rw [splitAt_cons_of_ne hc hsplit, List.mem_cons] at h
        rw [hsplit] at ih
        rcases h with rfl | h
        · rw [List.mem_cons, not_or]
          exact ⟨Ne.symm hc, ih List.mem_cons_self⟩
        · exact ih (List.mem_cons_of_mem first h)

/-- A text has no separator, or begins with a piece that one follows. -/
theorem not_mem_or_exists_append (sep : Char) (cs : List Char) :
    sep ∉ cs ∨ ∃ piece rest, sep ∉ piece ∧ cs = piece ++ sep :: rest := by
  by_cases h : sep ∈ cs
  · obtain ⟨piece, rest, rfl, hnot⟩ := List.eq_append_cons_of_mem h
    exact Or.inr ⟨piece, rest, hnot, rfl⟩
  · exact Or.inl h

/-- The first piece ends where the separator first occurs, or with the
text. -/
theorem head?_splitAt_eq_some_iff {cs piece : List Char} :
    (splitAt sep cs).head? = some piece ↔
      sep ∉ piece ∧ (cs = piece ∨ ∃ rest, cs = piece ++ sep :: rest) := by
  constructor
  · intro h
    rcases not_mem_or_exists_append sep cs with hnot | ⟨first, rest, hnot, rfl⟩
    · rw [splitAt_of_not_mem hnot, List.head?_cons, Option.some.injEq] at h
      exact ⟨h ▸ hnot, Or.inl h⟩
    · rw [splitAt_append hnot, List.head?_cons, Option.some.injEq] at h
      exact ⟨h ▸ hnot, Or.inr ⟨rest, h ▸ rfl⟩⟩
  · rintro ⟨hnot, rfl | ⟨rest, rfl⟩⟩
    · rw [splitAt_of_not_mem hnot, List.head?_cons]
    · rw [splitAt_append hnot, List.head?_cons]

/-! A start. -/

theorem stripStart?_eq_some_iff {start text rest : List Char} :
    stripStart? start text = some rest ↔ text = start ++ rest :=
  ⟨eq_append_of_stripStart?, fun h => h ▸ stripStart?_append start rest⟩

/-! Blank characters. -/

variable {cs front word : List Char}

/-- The first word of a text, which is not empty, stands behind blank
characters and in front of one or of the end. -/
theorem firstWord_eq_iff (hword : word ≠ [])
    (hvisible : ∀ c ∈ word, isBlank c = false) :
    firstWord cs = word ↔ ∃ blanks rest, cs = blanks ++ word ++ rest ∧
      (∀ c ∈ blanks, isBlank c) ∧ ∀ c ∈ rest.head?, isBlank c := by
  constructor
  · rintro rfl
    refine ⟨cs.takeWhile isBlank, (cs.dropWhile isBlank).dropWhile (!isBlank ·),
      ?_, fun c hc => List.mem_takeWhile_imp hc, ?_⟩
    · rw [firstWord, List.append_assoc, List.takeWhile_append_dropWhile,
        List.takeWhile_append_dropWhile]
    · intro c hc
      have hnot := List.head?_dropWhile_not (!isBlank ·) (cs.dropWhile isBlank)
      rw [hc] at hnot
      simpa using hnot
  · rintro ⟨blanks, rest, rfl, hblanks, hrest⟩
    obtain ⟨c, word, rfl⟩ := List.exists_cons_of_ne_nil hword
    have hc := hvisible c List.mem_cons_self
    rw [firstWord, List.append_assoc, List.dropWhile_append_of_pos hblanks,
      List.cons_append, List.dropWhile_cons_of_neg (by simp [hc]),
      ← List.cons_append,
      List.takeWhile_append_of_pos (by simpa using hvisible)]
    cases rest with
    | nil => simp
    | cons d rest => simp [hrest d rfl]

theorem trimEnd_eq_self (hlast : ∀ c ∈ cs.getLast?, isBlank c = false) :
    trimEnd cs = cs := by
  refine List.rdropWhile_eq_self_iff.mpr fun hne => ?_
  rw [hlast _ (List.getLast?_eq_some_getLast hne)]
  exact Bool.false_ne_true

/-- Nothing is taken off behind a visible character. -/
theorem trimEnd_append (hlast : ∀ c ∈ front.getLast?, isBlank c = false)
    (rest : List Char) : trimEnd (front ++ rest) = front ++ trimEnd rest := by
  have hfront : front.reverse.dropWhile isBlank = front.reverse := by
    have htrim := trimEnd_eq_self hlast
    rwa [trimEnd, List.reverse_eq_iff] at htrim
  rw [trimEnd, trimEnd, List.reverse_append, List.dropWhile_append, hfront]
  split
  · next hnil =>
      rw [List.isEmpty_iff.mp hnil, List.reverse_reverse, List.reverse_nil,
        List.append_nil]
  · rw [List.reverse_append, List.reverse_reverse]

/-- Nothing is taken off in front of a visible character. -/
theorem trim_append (hne : front ≠ [])
    (hfirst : ∀ c ∈ front.head?, isBlank c = false)
    (hlast : ∀ c ∈ front.getLast?, isBlank c = false) (rest : List Char) :
    trim (front ++ rest) = front ++ trimEnd rest := by
  obtain ⟨c, front, rfl⟩ := List.exists_cons_of_ne_nil hne
  rw [trim, List.cons_append, List.dropWhile_cons_of_neg, ← List.cons_append,
    trimEnd_append hlast]
  rw [hfirst c rfl]
  exact Bool.false_ne_true

theorem trim_eq_self (hfirst : ∀ c ∈ cs.head?, isBlank c = false)
    (hlast : ∀ c ∈ cs.getLast?, isBlank c = false) : trim cs = cs := by
  cases cs with
  | nil => rfl
  | cons c cs =>
      have h := trim_append (List.cons_ne_nil c cs) hfirst hlast []
      rwa [List.append_nil, trimEnd, List.reverse_nil, List.dropWhile_nil,
        List.reverse_nil, List.append_nil] at h

theorem mem_of_mem_trim {c : Char} (h : c ∈ trim cs) : c ∈ cs :=
  (List.dropWhile_suffix isBlank).mem
    ((List.rdropWhile_prefix isBlank (cs.dropWhile isBlank)).mem h)

/-- A text without blank characters at its ends begins with a visible one. -/
theorem head?_trim : ∀ c ∈ (trim cs).head?, isBlank c = false := by
  intro c hc
  have hcut : (List.rdropWhile isBlank (cs.dropWhile isBlank)).head? = some c :=
    hc
  have hhead : (cs.dropWhile isBlank).head? = some c := by
    obtain ⟨rest, hrest⟩ :=
      List.rdropWhile_prefix isBlank (cs.dropWhile isBlank)
    rw [← hrest, List.head?_append, hcut, Option.some_or]
  have hnot := List.head?_dropWhile_not isBlank cs
  rw [hhead] at hnot
  exact hnot

end LanRelay.Text
