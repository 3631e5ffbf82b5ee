/-
A tree is read back from its JSON text.

Main statement: `Json.parse?_pretty`. Every reader is given the text that was
written for it and more; it takes the text and leaves the rest.
-/
import LanRelay.Document.Json
import LanRelay.Proofs.Text.Numerals
import Mathlib.Data.List.Forall2

namespace LanRelay

open LanRelay.Text

/-- A tree whose texts are Unicode texts and whose numbers are integers, with
no date in it. -/
inductive Document.IsPlain : Document → Prop where
  | null : IsPlain .null
  | bool (value : Bool) : IsPlain (.bool value)
  | whole (value : Int) : IsPlain (.whole value)
  | text (text : String) : IsPlain (.ofText text)
  | list (items : List Document) (hitems : ∀ item ∈ items, IsPlain item) :
      IsPlain (.list items)
  | record (fields : List (String × Document))
      (hfields : ∀ field ∈ fields, IsPlain field.2) :
      IsPlain (.ofFields fields)

namespace Json

variable {rest : List Char}

/-! Texts -/

theorem hex4?_digits {d₃ d₂ d₁ d₀ : Nat}
    (hdigits : ∀ d ∈ [d₃, d₂, d₁, d₀], d < 16) :
    hex4? (Nat.digitChar d₃) (Nat.digitChar d₂) (Nat.digitChar d₁)
      (Nat.digitChar d₀) = some (ofDigits 16 [d₃, d₂, d₁, d₀]) := by
  have hread (d : Nat) (hd : d ∈ [d₃, d₂, d₁, d₀]) :
      digit? 16 (Nat.digitChar d) = some d :=
    digit?_digitChar (hdigits d hd) (by decide)
  simp [hex4?, hread]

/-- What stands for one code point is read as that code point. -/
theorem readPoints_escape {point : Nat} (hvalid : point.isValidChar)
    {cs : List Char} {literal : Literal}
    (h : readPoints cs = some (literal, rest)) :
    readPoints (escape point ++ cs) =
      some ({ literal with points := point :: literal.points }, rest) := by
  rw [escape.eq_def]
  split
  case h_8 hquote hbackslash _ _ _ _ _ =>
    split
    · next hcontrol =>
        have hsmall : point < 16 ^ 4 := by omega
        obtain ⟨d₃, d₂, d₁, d₀, htext, hdigits, hvalue⟩ :=
          exists_digits_padStart hsmall
        have hpoint := hex4?_digits hdigits
        rw [hvalue] at hpoint
        simp [htext, readPoints, hpoint, h]
    · next hvisible =>
        have hpoint : (Char.ofNat point).toNat = point := by
          rw [Char.ofNat, dif_pos hvalid]
          rfl
        have hnoQuote : Char.ofNat point ≠ '"' := fun hc =>
          hquote (by rw [← hpoint, hc]; rfl)
        have hnoBackslash : Char.ofNat point ≠ '\\' := fun hc =>
          hbackslash (by rw [← hpoint, hc]; rfl)
        simp [readPoints, hnoBackslash, hpoint, hvisible, h]
  all_goals simp [readPoints, escaped?, h]

/-- The points of a text are read up to its closing quote. -/
theorem readPoints_flatMap_escape {points : List Nat}
    (hvalid : ∀ point ∈ points, point.isValidChar) :
    readPoints (points.flatMap escape ++ '"' :: rest) =
      some (⟨points, true⟩, rest) := by
  induction points with
  | nil => simp [readPoints]
  | cons point points ih =>
      have hmore := ih fun p hp => hvalid p (List.mem_cons_of_mem point hp)
      rw [List.flatMap_cons, List.append_assoc]
      exact readPoints_escape (hvalid point List.mem_cons_self) hmore

/-- Characters are no surrogates. -/
theorem joinSurrogates_of_valid {points : List Nat}
    (hvalid : ∀ point ∈ points, point.isValidChar) :
    joinSurrogates points = points := by
  fun_induction joinSurrogates points with
  | case1 high low points hpair ih =>
      have hhigh := hvalid high List.mem_cons_self
      simp only [Nat.isValidChar] at hhigh
      omega
  | case2 high low points hpair ih =>
      rw [ih fun p hp => hvalid p (List.mem_cons_of_mem high hp)]
  | case3 points hshort => rfl

theorem readLiteral_quote (text : String) :
    readLiteral (((Literal.ofText text).points.flatMap escape) ++
      '"' :: rest) = some (.ofText text, rest) := by
  have hvalid : ∀ point ∈ (Literal.ofText text).points,
      point.isValidChar := by
    intro point hpoint
    obtain ⟨c, -, rfl⟩ := List.mem_map.mp hpoint
    exact c.valid
  rw [readLiteral, readPoints_flatMap_escape hvalid]
  simp only [Option.map_some, joinSurrogates_of_valid hvalid]
  rfl

/-! Numbers -/

/-- A text with which no number goes on. -/
structure EndsNumber (rest : List Char) : Prop where
  noDigit : EndsDigits 10 rest
  noFraction : rest.head? ≠ some '.'
  noExponent : rest.head? ≠ some 'e' ∧ rest.head? ≠ some 'E'

theorem readDigits_toDigits (n : Nat) (hrest : EndsDigits 10 rest) :
    ∃ digits, readDigits (Nat.toDigits 10 n ++ rest) = some (digits, rest) ∧
      Spells 10 digits n := by
  obtain ⟨digits, hread, hspells, -⟩ :=
    leadingDigits_toDigits (by decide) (by decide) n hrest
  refine ⟨digits, ?_, hspells⟩
  rw [readDigits, hread]
  split
  · next heq => exact absurd (congrArg Prod.fst heq) hspells.nonempty
  · rfl

theorem skipFraction_of_ends (hrest : rest.head? ≠ some '.') :
    skipFraction rest = some (false, rest) := by
  cases rest with
  | nil => rfl
  | cons c rest =>
      have hc : c ≠ '.' := fun h => hrest (by rw [h]; rfl)
      simp [skipFraction, hc]

theorem skipExponent_of_ends
    (hrest : rest.head? ≠ some 'e' ∧ rest.head? ≠ some 'E') :
    skipExponent rest = some (false, rest) := by
  cases rest with
  | nil => rfl
  | cons c rest =>
      have hc : ¬(c = 'e' ∨ c = 'E') := by simpa using hrest
      rw [skipExponent.eq_def]
      exact if_neg hc

theorem readNumber_toDigits (negative : Bool) (n : Nat)
    (hsign : negative = true → n ≠ 0) (hrest : EndsNumber rest) :
    readNumber negative (Nat.toDigits 10 n ++ rest) =
      some (.whole (if negative then -n else n), rest) := by
  obtain ⟨digits, hread, hspells⟩ := readDigits_toDigits n hrest.noDigit
  have hzero : ¬(negative = true ∧ n = 0) := fun h => hsign h.1 h.2
  simp only [readNumber, hread, skipFraction_of_ends hrest.noFraction,
    skipExponent_of_ends hrest.noExponent, Option.bind_eq_bind,
    Option.bind_some, if_neg hspells.no_leading_zero, hspells.value]
  simp [hzero]

/-! Blanks -/

theorem skipSpace_append {gap : List Char} (hgap : gap.all isSpace)
    (cs : List Char) : skipSpace (gap ++ cs) = skipSpace cs :=
  List.dropWhile_append_of_pos fun c hc => List.all_eq_true.mp hgap c hc

theorem skipSpace_cons {c : Char} (hc : isSpace c = false) (cs : List Char) :
    skipSpace (c :: cs) = c :: cs := by
  simp [skipSpace, hc]

section

variable {gap : List Char} (hgap : gap.all isSpace) (fuel : Nat)
  (cs : List Char)

include hgap

theorem readValue_gap : readValue fuel (gap ++ cs) = readValue fuel cs := by
  cases fuel with
  | zero => rfl
  | succ fuel => rw [readValue, readValue, skipSpace_append hgap]

theorem readItems_gap : readItems fuel (gap ++ cs) = readItems fuel cs := by
  cases fuel with
  | zero => rfl
  | succ fuel => rw [readItems, readItems, readValue_gap hgap]

theorem readFields_gap : readFields fuel (gap ++ cs) = readFields fuel cs := by
  cases fuel with
  | zero => rfl
  | succ fuel => rw [readFields, readFields, readKey, readKey,
      skipSpace_append hgap]

end

/-! Values -/

/-- A text that a reader takes for a value, whatever follows it, given as many
units of fuel as the text has characters. -/
structure Spelling (text : List Char) (value : Document) : Prop where
  begins : ∃ c tail, text = c :: tail ∧ isSpace c = false ∧ c ≠ ']'
  read : ∀ fuel rest, EndsNumber rest → text.length ≤ fuel →
    readValue fuel (text ++ rest) = some (value, rest)

theorem Spelling.of_scalar {text : List Char} {value : Document} {c : Char}
    {tail : List Char} (htext : text = c :: tail) (hspace : isSpace c = false)
    (hbracket : c ∉ ['[', ']', '\x7b'])
    (hread : ∀ rest, EndsNumber rest →
      readScalar (text ++ rest) = some (value, rest)) :
    Spelling text value := by
  simp only [List.mem_cons, List.not_mem_nil, or_false, not_or] at hbracket
  refine ⟨⟨c, tail, htext, hspace, hbracket.2.1⟩, ?_⟩
  intro fuel rest hrest hfuel
  obtain ⟨fuel, rfl⟩ : ∃ less, fuel = less + 1 :=
    ⟨fuel - 1, by rw [htext, List.length_cons] at hfuel; omega⟩
  have hvalue := hread rest hrest
  rw [htext, List.cons_append] at hvalue ⊢
  rw [readValue, skipSpace_cons hspace]
  split
  · next heq => exact absurd (List.cons.inj heq).1 hbracket.1
  · next heq => exact absurd (List.cons.inj heq).1 hbracket.2.2
  · exact hvalue

theorem spelling_null : Spelling (renderScalar .null).toList .null :=
  .of_scalar rfl rfl (by decide) fun _ _ => rfl

theorem spelling_bool (value : Bool) :
    Spelling (renderScalar (.bool value)).toList (.bool value) := by
  cases value with
  | false => exact .of_scalar rfl rfl (by decide) fun _ _ => rfl
  | true => exact .of_scalar rfl rfl (by decide) fun _ _ => rfl

theorem toList_quote (literal : Literal) :
    (quote literal).toList =
      '"' :: (literal.points.flatMap escape ++ ['"']) := by
  simp [quote]

theorem spelling_text (text : String) :
    Spelling (renderScalar (.ofText text)).toList (.ofText text) := by
  refine .of_scalar (toList_quote _) rfl (by decide) ?_
  intro rest hrest
  rw [Document.ofText, renderScalar, toList_quote, List.cons_append,
    List.append_assoc, List.singleton_append, readScalar, readLiteral_quote]
  rfl

/-- A numeral is read as the number it stands for. -/
theorem readScalar_toDigits (n : Nat) (hrest : EndsNumber rest) :
    readScalar (Nat.toDigits 10 n ++ rest) = some (.whole n, rest) := by
  have hread := readNumber_toDigits false n (by simp) hrest
  obtain ⟨d, tail, hd, htext⟩ :=
    exists_toDigits_eq_cons (show 1 < 10 by decide) n
  have hdigit := digit?_digitChar hd (by decide)
  rw [htext, List.cons_append] at hread ⊢
  rw [readScalar.eq_def]
  split
  case h_6 => exact hread
  all_goals
    next heq =>
      exact absurd (List.cons.inj heq).1 (ne_of_digit? hdigit (by decide))

theorem spelling_whole (value : Int) :
    Spelling (renderScalar (.whole value)).toList (.whole value) := by
  cases value with
  | ofNat n =>
      obtain ⟨d, tail, hd, htext⟩ :=
        exists_toDigits_eq_cons (show 1 < 10 by decide) n
      have hrender : (renderScalar (.whole n)).toList = Nat.toDigits 10 n :=
        Nat.toList_repr
      refine .of_scalar (hrender.trans htext) ?_ ?_ ?_
      · interval_cases d <;> decide
      · interval_cases d <;> decide
      · intro rest hrest
        rw [Int.ofNat_eq_natCast, hrender]
        exact readScalar_toDigits n hrest
  | negSucc n =>
      have hrender : (renderScalar (.whole (.negSucc n))).toList =
          '-' :: Nat.toDigits 10 (n + 1) := by
        simp [renderScalar, Int.repr]
      refine .of_scalar hrender rfl (by decide) ?_
      intro rest hrest
      rw [hrender, List.cons_append, readScalar,
        readNumber_toDigits true (n + 1) (by simp) hrest]
      rfl

/-! Lists and records -/

theorem endsNumber_cons {c : Char} (hc : c = ',' ∨ c = '\n')
    (cs : List Char) : EndsNumber (c :: cs) := by
  rcases hc with rfl | rfl
  · exact ⟨endsDigits_cons (by decide), by simp, by simp⟩
  · exact ⟨endsDigits_cons (by decide), by simp, by simp⟩

/-- What follows the first line between brackets: a comma, a gap and the next
line, over and over. -/
def moreLines (gap : List Char) (lines : List (List Char)) : List Char :=
  lines.flatMap fun line => ',' :: (gap ++ line)

theorem moreLines_cons (gap line : List Char) (lines : List (List Char)) :
    moreLines gap (line :: lines) =
      ',' :: (gap ++ (line ++ moreLines gap lines)) := by
  simp [moreLines]

/-- The line end and the blanks in front of a closing bracket. -/
theorem skipSpace_lineEnd {last : List Char} (hlast : last.all isSpace)
    {c : Char} (hc : isSpace c = false) (cs : List Char) :
    skipSpace ('\n' :: (last ++ c :: cs)) = c :: cs := by
  rw [← List.singleton_append, skipSpace_append rfl, skipSpace_append hlast,
    skipSpace_cons hc]

theorem readItems_lines {gap last : List Char} (hgap : gap.all isSpace)
    (hlast : last.all isSpace) {text : List Char} {item : Document}
    {texts : List (List Char)} {items : List Document}
    (hitem : Spelling text item) (hitems : List.Forall₂ Spelling texts items)
    {fuel : Nat} (hfuel : (text ++ moreLines gap texts).length ≤ fuel)
    (rest : List Char) :
    readItems (fuel + 1) (text ++ (moreLines gap texts ++
        '\n' :: (last ++ ']' :: rest))) = some (item :: items, rest) := by
  induction hitems generalizing text item fuel with
  | nil =>
      have hclose : isSpace ']' = false := rfl
      have hends : EndsNumber ('\n' :: (last ++ ']' :: rest)) :=
        endsNumber_cons (Or.inr rfl) _
      have hread := hitem.read fuel _ hends (by simpa [moreLines] using hfuel)
      simp only [moreLines, List.flatMap_nil, List.nil_append, readItems,
        hread, skipSpace_lineEnd hlast hclose]
  | @cons next value texts items hnext hmore ih =>
      have hcomma : isSpace ',' = false := rfl
      simp only [moreLines_cons, List.length_append, List.length_cons,
        List.cons_append, List.append_assoc] at hfuel ih ⊢
      obtain ⟨less, rfl⟩ : ∃ less, fuel = less + 1 := ⟨fuel - 1, by omega⟩
      have hends : EndsNumber (',' :: (gap ++ (next ++
          (moreLines gap texts ++ '\n' :: (last ++ ']' :: rest))))) :=
        endsNumber_cons (Or.inl rfl) _
      have hread := hitem.read (less + 1) _ hends (by omega)
      have htail := ih hnext (show _ ≤ less by omega)
      rw [readItems, hread]
      simp only [skipSpace_cons hcomma, readItems_gap hgap, htail,
        Option.map_some]

/-- The line of a field: its key, a colon, and its value. -/
inductive FieldSpelling : List Char → Literal × Document → Prop where
  | mk {text : List Char} {value : Document} (key : String)
      (hvalue : Spelling text value) :
      FieldSpelling ((quote (.ofText key)).toList ++ ':' :: ' ' :: text)
        (.ofText key, value)

theorem readKey_quote (key : String) (cs : List Char) :
    readKey ((quote (.ofText key)).toList ++ ':' :: cs) =
      some (.ofText key, cs) := by
  have hquote : isSpace '"' = false := rfl
  have hcolon : isSpace ':' = false := rfl
  rw [toList_quote, List.cons_append, List.append_assoc,
    List.singleton_append, readKey, skipSpace_cons hquote]
  simp only [readLiteral_quote, Option.bind_eq_bind, Option.bind_some,
    skipSpace_cons hcolon]

/-- Read the value behind a key. -/
theorem FieldSpelling.read {text : List Char} {field : Literal × Document}
    (h : FieldSpelling text field) {fuel : Nat} (hrest : EndsNumber rest)
    (hfuel : text.length ≤ fuel) :
    ∃ cs, readKey (text ++ rest) = some (field.1, cs) ∧
      readValue fuel cs = some (field.2, rest) := by
  obtain ⟨key, hvalue⟩ := h
  rename_i text value
  have hblank : [' '].all isSpace := rfl
  refine ⟨' ' :: (text ++ rest), ?_, ?_⟩
  · rw [List.append_assoc, List.cons_append, readKey_quote]
    rfl
  · rw [← List.singleton_append, readValue_gap hblank]
    simp only [List.length_append, List.length_cons] at hfuel
    exact hvalue.read fuel rest hrest (by omega)

theorem readFields_lines {gap last : List Char} (hgap : gap.all isSpace)
    (hlast : last.all isSpace) {text : List Char}
    {field : Literal × Document} {texts : List (List Char)}
    {fields : List (Literal × Document)} (hfield : FieldSpelling text field)
    (hfields : List.Forall₂ FieldSpelling texts fields) {fuel : Nat}
    (hfuel : (text ++ moreLines gap texts).length ≤ fuel)
    (rest : List Char) :
    readFields (fuel + 1) (text ++ (moreLines gap texts ++
        '\n' :: (last ++ '\x7d' :: rest))) = some (field :: fields, rest) := by
  induction hfields generalizing text field fuel with
  | nil =>
      have hclose : isSpace '\x7d' = false := rfl
      have hends : EndsNumber ('\n' :: (last ++ '\x7d' :: rest)) :=
        endsNumber_cons (Or.inr rfl) _
      obtain ⟨cs, hkey, hvalue⟩ :=
        hfield.read hends (by simpa [moreLines] using hfuel)
      simp only [moreLines, List.flatMap_nil, List.nil_append, readFields,
        hkey, hvalue, skipSpace_lineEnd hlast hclose]
  | @cons next more texts fields hnext hmore ih =>
      have hcomma : isSpace ',' = false := rfl
      simp only [moreLines_cons, List.length_append, List.length_cons,
        List.cons_append, List.append_assoc] at hfuel ih ⊢
      obtain ⟨less, rfl⟩ : ∃ less, fuel = less + 1 := ⟨fuel - 1, by omega⟩
      have hends : EndsNumber (',' :: (gap ++ (next ++
          (moreLines gap texts ++ '\n' :: (last ++ '\x7d' :: rest))))) :=
        endsNumber_cons (Or.inl rfl) _
      obtain ⟨cs, hkey, hvalue⟩ :=
        hfield.read hends (show text.length ≤ less + 1 by omega)
      have htail := ih hnext (show _ ≤ less by omega)
      rw [readFields, hkey]
      simp only [hvalue, skipSpace_cons hcomma, readFields_gap hgap, htail,
        Option.map_some]

/-- The gap in front of a line of the given depth. -/
def lineGap (depth : Nat) : List Char := '\n' :: (indent depth).toList

theorem all_isSpace_indent (depth : Nat) :
    (indent depth).toList.all isSpace := by
  simp [indent, isSpace]

theorem all_isSpace_lineGap (depth : Nat) : (lineGap depth).all isSpace := by
  rw [lineGap, List.all_cons, all_isSpace_indent]
  rfl

theorem toList_joinedLines (depth : Nat) (line : String)
    (lines : List String) (cs : List Char) :
    '\n' :: ((",\n".intercalate
        ((line :: lines).map (indent depth ++ ·))).toList ++ cs) =
      lineGap depth ++ (line.toList ++
        (moreLines (lineGap depth) (lines.map String.toList) ++ cs)) := by
  induction lines generalizing line with
  | nil => simp [lineGap, moreLines]
  | cons next lines ih =>
      have htail := ih next
      simp only [List.map_cons, String.intercalate_cons_cons, moreLines_cons,
        String.toList_append, List.append_assoc, List.cons_append] at htail ⊢
      rw [← htail]
      simp [lineGap]

/-- Lines between brackets, as characters. -/
theorem toList_block_cons (opening closing : String) (depth : Nat)
    (line : String) (lines : List String) :
    (block opening closing depth (line :: lines)).toList =
      opening.toList ++ (lineGap (depth + 1) ++ (line.toList ++
        (moreLines (lineGap (depth + 1)) (lines.map String.toList) ++
          '\n' :: ((indent depth).toList ++ closing.toList)))) := by
  rw [← toList_joinedLines]
  simp [block]

theorem prettyItems_eq_map (depth : Nat) (items : List Document) :
    prettyItems depth items = items.map (pretty depth) := by
  induction items with
  | nil => rfl
  | cons item items ih => rw [prettyItems, ih, List.map_cons]

/-- The line of a field with a known name. -/
def fieldLine (depth : Nat) (field : String × Document) : String :=
  quote (.ofText field.1) ++ ": " ++ pretty depth field.2

theorem pretty_ofFields (depth : Nat) (fields : List (String × Document)) :
    pretty depth (.ofFields fields) =
      block "\x7b" "\x7d" depth (fields.map (fieldLine (depth + 1))) := by
  rw [Document.ofFields, pretty]
  congr 1
  induction fields with
  | nil => rfl
  | cons field fields ih =>
      rw [List.map_cons, prettyFields, ih]
      rfl

theorem readValue_items {gap : List Char} (hgap : gap.all isSpace) {c : Char}
    {cs : List Char} (hspace : isSpace c = false) (hbracket : c ≠ ']')
    {fuel : Nat} {items : List Document}
    (hread : readItems fuel (c :: cs) = some (items, rest)) :
    readValue (fuel + 1) ('[' :: (gap ++ c :: cs)) =
      some (.list items, rest) := by
  have hopen : isSpace '[' = false := rfl
  rw [readValue, skipSpace_cons hopen]
  simp only [skipSpace_append hgap, skipSpace_cons hspace]
  split
  · next heq => exact absurd (List.cons.inj heq).1 hbracket
  · rw [hread]
    rfl

theorem readValue_fields {gap : List Char} (hgap : gap.all isSpace)
    {cs : List Char} {fuel : Nat} {fields : List (Literal × Document)}
    (hread : readFields fuel ('"' :: cs) = some (fields, rest)) :
    readValue (fuel + 1) ('\x7b' :: (gap ++ '"' :: cs)) =
      some (.record fields, rest) := by
  have hopen : isSpace '\x7b' = false := rfl
  have hquote : isSpace '"' = false := rfl
  rw [readValue, skipSpace_cons hopen]
  simp only [skipSpace_append hgap, skipSpace_cons hquote]
  split
  · next heq => cases heq
  · rw [hread]
    rfl

/-- Nothing between brackets. -/
theorem spelling_empty (c d : Char) {text : List Char} {value : Document}
    (htext : text = [c, d]) (hspace : isSpace c = false) (hbracket : c ≠ ']')
    (hread : ∀ fuel rest, readValue (fuel + 1) (c :: d :: rest) =
      some (value, rest)) :
    Spelling text value := by
  refine ⟨⟨c, [d], htext, hspace, hbracket⟩, ?_⟩
  intro fuel rest hrest hfuel
  obtain ⟨fuel, rfl⟩ : ∃ less, fuel = less + 1 :=
    ⟨fuel - 1, by simp [htext] at hfuel; omega⟩
  rw [htext]
  exact hread fuel rest

theorem spelling_list {depth : Nat} {items : List Document}
    (hitems : ∀ item ∈ items, Spelling (pretty (depth + 1) item).toList item) :
    Spelling (pretty depth (.list items)).toList (.list items) := by
  rw [pretty, prettyItems_eq_map]
  cases items with
  | nil =>
      exact spelling_empty '[' ']' (by simp [block]) rfl (by decide)
        fun _ _ => rfl
  | cons item items =>
      have hitem := hitems item List.mem_cons_self
      have hmore : List.Forall₂ Spelling
          ((items.map (pretty (depth + 1))).map String.toList) items := by
        rw [List.map_map, List.forall₂_map_left_iff, List.forall₂_same]
        exact fun item h => hitems item (List.mem_cons_of_mem _ h)
      obtain ⟨c, tail, htext, hspace, hbracket⟩ := hitem.begins
      rw [List.map_cons, toList_block_cons]
      refine ⟨⟨'[', _, rfl, rfl, by decide⟩, ?_⟩
      intro fuel rest hrest hfuel
      have hone : "[".toList.length = 1 := rfl
      simp only [List.length_append, List.length_cons, hone] at hfuel
      obtain ⟨fuel, rfl⟩ : ∃ less, fuel = less + 2 := ⟨fuel - 2, by omega⟩
      have hread := readItems_lines (all_isSpace_lineGap (depth + 1))
        (all_isSpace_indent depth) hitem hmore
        (show _ ≤ fuel by rw [List.length_append]; omega) rest
      rw [htext, List.cons_append] at hread
      have hvalue := readValue_items (all_isSpace_lineGap (depth + 1)) hspace
        hbracket hread
      simpa [htext] using hvalue

theorem spelling_record {depth : Nat} {fields : List (String × Document)}
    (hfields : ∀ field ∈ fields,
      Spelling (pretty (depth + 1) field.2).toList field.2) :
    Spelling (pretty depth (.ofFields fields)).toList (.ofFields fields) := by
  have hline (field : String × Document) (h : field ∈ fields) :
      FieldSpelling (fieldLine (depth + 1) field).toList
        (.ofText field.1, field.2) := by
    have hspelling := FieldSpelling.mk field.1 (hfields field h)
    simpa [fieldLine] using hspelling
  rw [pretty_ofFields]
  cases fields with
  | nil =>
      exact spelling_empty '\x7b' '\x7d' (by simp [block]) rfl (by decide)
        fun _ _ => rfl
  | cons field fields =>
      have hfirst := hline field List.mem_cons_self
      have hmore : List.Forall₂ FieldSpelling
          ((fields.map (fieldLine (depth + 1))).map String.toList)
          (fields.map fun field => (.ofText field.1, field.2)) := by
        rw [List.map_map, List.forall₂_map_left_iff,
          List.forall₂_map_right_iff, List.forall₂_same]
        exact fun field h => hline field (List.mem_cons_of_mem _ h)
      obtain ⟨tail, htext⟩ : ∃ tail,
          (fieldLine (depth + 1) field).toList = '"' :: tail :=
        ⟨_, by rw [fieldLine, String.toList_append, String.toList_append,
          toList_quote]; rfl⟩
      rw [List.map_cons, toList_block_cons]
      refine ⟨⟨'\x7b', _, rfl, rfl, by decide⟩, ?_⟩
      intro fuel rest hrest hfuel
      have hone : "\x7b".toList.length = 1 := rfl
      simp only [List.length_append, List.length_cons, hone] at hfuel
      obtain ⟨fuel, rfl⟩ : ∃ less, fuel = less + 2 := ⟨fuel - 2, by omega⟩
      have hread := readFields_lines (all_isSpace_lineGap (depth + 1))
        (all_isSpace_indent depth) hfirst hmore
        (show _ ≤ fuel by rw [List.length_append]; omega) rest
      rw [htext, List.cons_append] at hread
      have hvalue := readValue_fields (all_isSpace_lineGap (depth + 1)) hread
      simpa [htext, Document.ofFields] using hvalue

/-- A plain tree is read from its text, whatever follows it. -/
theorem spelling_pretty {document : Document} (h : document.IsPlain) :
    ∀ depth, Spelling (pretty depth document).toList document := by
  induction h with
  | null => exact fun _ => spelling_null
  | bool value => exact fun _ => spelling_bool value
  | whole value => exact fun _ => spelling_whole value
  | text text => exact fun _ => spelling_text text
  | list items hitems ih =>
      intro depth
      exact spelling_list fun item h => ih item h (depth + 1)
  | record fields hfields ih =>
      intro depth
      exact spelling_record fun field h => ih field h (depth + 1)

/-- A plain tree is read back from its text. -/
theorem parse?_pretty {document : Document} (h : document.IsPlain) :
    parse? (pretty 0 document) = some document := by
  have hends : EndsNumber [] := ⟨endsDigits_nil, by simp, by simp⟩
  have hread := (spelling_pretty h 0).read
    (2 * (pretty 0 document).toList.length + 2) [] hends (by omega)
  rw [List.append_nil] at hread
  rw [parse?, hread]
  rfl

end Json

end LanRelay
