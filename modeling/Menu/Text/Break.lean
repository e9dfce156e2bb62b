/-!
# Line breaks

A text from a file ends its lines with a line feed, a carriage return, or the two in that order;
`unifyBreaks` makes one line feed of each.  `linesOf` cuts a text after its line feeds and leaves them
out; a text that ends in one has no further line behind it (`linesOf_append_break`).

`piecesAt` cuts a list at every member equal to a separator, so that n separators give n + 1 pieces.
-/

namespace Menu.Text

/-- The text with one line feed for each line break. -/
def unifyBreaks : List Char → List Char
  | [] => []
  | '\r' :: '\n' :: rest => '\n' :: unifyBreaks rest
  | c :: rest => (if c = '\r' then '\n' else c) :: unifyBreaks rest

/-- The lines of a text whose first line starts with the characters `line`, last one first. -/
def linesFrom (line : List Char) : List Char → List (List Char)
  | [] => if line = [] then [] else [line.reverse]
  | c :: rest =>
    if c = '\n' then line.reverse :: linesFrom [] rest else linesFrom (c :: line) rest

/-- The lines of a text, without the line feeds that end them. -/
def linesOf (cs : List Char) : List (List Char) :=
  linesFrom [] cs

theorem linesFrom_append_break (line cs rest : List Char) (h : '\n' ∉ cs) :
    linesFrom line (cs ++ '\n' :: rest) = (line.reverse ++ cs) :: linesOf rest := by
  induction cs generalizing line with
  | nil => simp [linesFrom, linesOf]
  | cons c cs ih =>
    have hc : c ≠ '\n' := fun e => h (e ▸ List.mem_cons_self)
    rw [List.cons_append, linesFrom, if_neg hc, ih (c :: line) fun m => h (List.mem_cons_of_mem _ m)]
    simp

/-- A line and its line feed in front of a text make one more line in front of the others. -/
theorem linesOf_append_break (line rest : List Char) (h : '\n' ∉ line) :
    linesOf (line ++ '\n' :: rest) = line :: linesOf rest := by
  simpa [linesOf] using linesFrom_append_break [] line rest h

/-- The pieces of a list between the members equal to `sep`. -/
def piecesAt {α : Type} [DecidableEq α] (sep : α) : List α → List (List α)
  | [] => [[]]
  | c :: rest =>
    if c = sep then [] :: piecesAt sep rest
    else match piecesAt sep rest with
      | [] => [[c]]
      | piece :: pieces => (c :: piece) :: pieces

/-- No piece holds what separates them. -/
theorem not_mem_of_mem_piecesAt {α : Type} [DecidableEq α] {sep : α} {xs piece : List α}
    (mem : piece ∈ piecesAt sep xs) : sep ∉ piece := by
  induction xs generalizing piece with
  | nil =>
    rw [piecesAt, List.mem_singleton] at mem
    exact mem ▸ List.not_mem_nil
  | cons x xs ih =>
    rw [piecesAt] at mem
    split at mem
    · rcases List.mem_cons.1 mem with rfl | mem
      · exact List.not_mem_nil
      · exact ih mem
    · rename_i other
      generalize piecesAt sep xs = pieces at mem ih
      cases pieces with
      | nil =>
        rw [List.mem_singleton.1 mem, List.mem_singleton]
        exact fun same => other same.symm
      | cons first others =>
        rcases List.mem_cons.1 mem with rfl | mem
        · intro here
          rcases List.mem_cons.1 here with same | here
          · exact other same.symm
          · exact ih List.mem_cons_self here
        · exact ih (List.mem_cons_of_mem _ mem)

example : linesOf "a\n\nb\n".toList = [['a'], [], ['b']] ∧ linesOf "a\nb".toList = [['a'], ['b']] := by
  decide

example : piecesAt '/' "/a//b".toList = [[], ['a'], [], ['b']] := by decide

end Menu.Text
