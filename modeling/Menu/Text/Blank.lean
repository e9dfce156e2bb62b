/-!
# Blank characters and trimming

Blank characters separate words and are cut from the ends of a text: tab and the line breaks, the four
separators U+001C to U+001F, the space, and the spaces and separators of Unicode.  The zero-width space
U+200B and the byte order mark U+FEFF are not blank.

Trimming works on lists of characters: `trimStart` and `trimEnd` drop the blanks at one end and `trim`
those at both, so a text is all blank exactly if trimming leaves nothing.  Only blanks are cut off at the end
(`exists_trimEnd_append`), and none is left there (`isBlank_getLast_trimEnd`).  `firstWord?` takes the first word
from a text.
-/

namespace Menu.Text

/-- Whether a character is blank. -/
def isBlank (c : Char) : Bool :=
  let n := c.toNat
  (0x09 ≤ n && n ≤ 0x0d) || (0x1c ≤ n && n ≤ 0x20) || n == 0x85 || n == 0xa0 || n == 0x1680 ||
    (0x2000 ≤ n && n ≤ 0x200a) || n == 0x2028 || n == 0x2029 || n == 0x202f || n == 0x205f ||
    n == 0x3000

/-- A text without the blanks it starts with. -/
def trimStart (cs : List Char) : List Char :=
  cs.dropWhile isBlank

/-- A text without the blanks it ends in. -/
def trimEnd (cs : List Char) : List Char :=
  (cs.reverse.dropWhile isBlank).reverse

/-- A text without the blanks at its two ends. -/
def trim (cs : List Char) : List Char :=
  trimEnd (trimStart cs)

/-- The first word of a text and what follows it; the blanks before the word and those that end it are
left out.  A text of blanks alone has no first word. -/
def firstWord? (cs : List Char) : Option (List Char × List Char) :=
  match trimStart cs with
  | [] => none
  | c :: rest =>
    some (c :: rest.takeWhile (!isBlank ·), trimStart (rest.dropWhile (!isBlank ·)))

/-- Only blanks are cut off at the end of a text. -/
theorem exists_trimEnd_append (cs : List Char) :
    ∃ blanks, trimEnd cs ++ blanks = cs ∧ ∀ c ∈ blanks, isBlank c = true := by
  refine ⟨(cs.reverse.takeWhile isBlank).reverse, ?_, fun c mem => ?_⟩
  · rw [trimEnd, ← List.reverse_append, List.takeWhile_append_dropWhile, List.reverse_reverse]
  · exact List.all_eq_true.1 List.all_takeWhile c (List.mem_reverse.1 mem)

/-- No blank is left there. -/
theorem isBlank_getLast_trimEnd {c : Char} {cs : List Char} (h : (trimEnd cs).getLast? = some c) : isBlank c = false := by
  have first := List.head?_dropWhile_not isBlank cs.reverse
  rw [trimEnd, List.getLast?_reverse] at h
  rw [h] at first
  simpa using first

/-- What stands up to a character that is no blank stays. -/
theorem trimEnd_append_of_solid {a : List Char} (some : a ≠ []) (solid : isBlank (a.getLast some) = false)
    (cs : List Char) : trimEnd (a ++ cs) = a ++ trimEnd cs := by
  have turned : a.reverse = [a.getLast some].reverse ++ a.dropLast.reverse := by
    rw [← List.reverse_append, List.dropLast_concat_getLast]
  have stays : a.reverse.dropWhile isBlank = a.reverse := by
    rw [turned, List.reverse_singleton, List.singleton_append, List.dropWhile_cons_of_neg (by simp [solid])]
  rw [trimEnd, List.reverse_append, List.dropWhile_append, stays]
  split
  · rename_i blank
    rw [trimEnd, List.isEmpty_iff.1 blank, List.reverse_nil, List.append_nil, List.reverse_reverse]
  · rw [List.reverse_append, List.reverse_reverse, trimEnd]

example : isBlank (Char.ofNat 0x1c) ∧ isBlank (Char.ofNat 0x3000) := by decide

example : ¬ isBlank (Char.ofNat 0x200b) ∧ ¬ isBlank (Char.ofNat 0xfeff) := by decide

end Menu.Text
