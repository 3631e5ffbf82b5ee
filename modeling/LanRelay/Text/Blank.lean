/-
Blank characters, and the ways of cutting a text at them.

A character is blank when Unicode gives it the property White_Space; this
includes the line ends, the no-break space and the ideographic space.
-/
namespace LanRelay.Text

/-- The characters with the Unicode property White_Space. -/
def isBlank (c : Char) : Bool :=
  let n := c.toNat
  (0x09 ≤ n && n ≤ 0x0D) || n == 0x20 || n == 0x85 || n == 0xA0 ||
    n == 0x1680 || (0x2000 ≤ n && n ≤ 0x200A) || n == 0x2028 ||
    n == 0x2029 || n == 0x202F || n == 0x205F || n == 0x3000

/-- Drop the blank characters at the end. -/
def trimEnd (cs : List Char) : List Char :=
  (cs.reverse.dropWhile isBlank).reverse

/-- Drop the blank characters at both ends. -/
def trim (cs : List Char) : List Char :=
  trimEnd (cs.dropWhile isBlank)

/-- A text without any visible character. -/
def isBlankText (text : String) : Bool := text.toList.all isBlank

/-- The first run of characters that are not blank; empty if there is none. -/
def firstWord (cs : List Char) : List Char :=
  (cs.dropWhile isBlank).takeWhile (!isBlank ·)

/-- The pieces between the occurrences of `sep`; there is always a first one. -/
def splitAt (sep : Char) : List Char → List (List Char)
  | [] => [[]]
  | c :: cs =>
      if c = sep then [] :: splitAt sep cs
      else
        match splitAt sep cs with
        | [] => [[c]]
        | piece :: pieces => (c :: piece) :: pieces

/-- What stands before and after the first occurrence of `sep`, if it
occurs. -/
def cutAt? (sep : Char) : List Char → Option (List Char × List Char)
  | [] => none
  | c :: cs =>
      if c = sep then some ([], cs)
      else (cutAt? sep cs).map fun (before, after) => (c :: before, after)

/-- The text after `start`, if the text begins with it. -/
def stripStart? : (start text : List Char) → Option (List Char)
  | [], text => some text
  | _ :: _, [] => none
  | s :: start, c :: text => if s = c then stripStart? start text else none

theorem stripStart?_append (start text : List Char) :
    stripStart? start (start ++ text) = some text := by
  induction start with
  | nil => rfl
  | cons s start ih => simp [stripStart?, ih]

theorem eq_append_of_stripStart? {start text rest : List Char}
    (h : stripStart? start text = some rest) : text = start ++ rest := by
  induction start generalizing text with
  | nil => simpa [stripStart?] using h
  | cons s start ih =>
      cases text with
      | nil => simp [stripStart?] at h
      | cons c text =>
          simp only [stripStart?] at h
          split at h
          · rename_i hsc
            rw [ih h, hsc, List.cons_append]
          · cases h

/-- Two texts that differ at most in the case of ASCII letters. -/
def sameIgnoringAsciiCase (a b : String) : Bool :=
  a.toList.map Char.toLower == b.toList.map Char.toLower

end LanRelay.Text
