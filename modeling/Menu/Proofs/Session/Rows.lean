import Menu.Proofs.Session.Launches

/-!
# Rows and indices

The numbered listing is what one chooses an index from.  Each of its rows can be read back: the index that stands in
front, and whether a star stands behind it (`rowHead`).  The blanks that are cut off at the end of a row may take the
column of the mark with them, but never the index or the star.

* `rowHead_numberedRow`: the row of an entry tells its index and whether it has a command.
* `View.splitOn_listing`: the rows are what stands between the line feeds of the listing.
* `View.guides`: what the rows tell is what comes of choosing an index.
-/

namespace Menu

namespace Text

/-- A separator behind pieces, as one more piece without members. -/
theorem intercalate_concat_nil (sep : List Char) {pieces : List (List Char)} (some : pieces ≠ []) :
    sep.intercalate pieces ++ sep = sep.intercalate (pieces ++ [[]]) := by
  induction pieces with
  | nil => exact absurd rfl some
  | cons piece pieces ih =>
    cases pieces with
    | nil => simp [List.intercalate_cons_cons]
    | cons next pieces =>
      rw [List.intercalate_cons_cons, List.append_assoc, ih (List.cons_ne_nil _ _)]
      exact List.intercalate_cons_cons.symm

end Text

open Text

/-! ## Reading a row back -/

/-- What stands in front of a numbered row: the index, and whether a star stands behind it. -/
def rowHead (row : String) : Nat × Bool :=
  let cs := row.toList.dropWhile (· = ' ')
  (Nat.ofDigitChars 10 (cs.takeWhile Char.isDigit) 0, (cs.dropWhile Char.isDigit).head? = some '*')

variable {e : Entry} {width index i : Nat} {c : Char}

theorem isBlank_of_isDigit (digit : c.isDigit = true) : isBlank c = false := by
  have low : 48 ≤ c.toNat ∧ c.toNat ≤ 57 := Char.isDigit_iff_toNat.1 digit
  simp only [isBlank, Bool.or_eq_false_iff, Bool.and_eq_false_iff, decide_eq_false_iff_not, beq_eq_false_iff_ne]
  omega

theorem isDigit_toDigits (mem : c ∈ Nat.toDigits 10 i) : c.isDigit = true :=
  Nat.isDigit_of_mem_toDigits (by decide) (by decide) mem

/-- The mark of an entry. -/
def Entry.mark (e : Entry) : Char :=
  if e.hasCommand then '*' else ' '

theorem toList_padLeft (width index : Nat) :
    (padLeft width (toString index)).toList =
      List.replicate (width - (Nat.toDigits 10 index).length) ' ' ++ Nat.toDigits 10 index := by
  have length : (toString index).length = (Nat.toDigits 10 index).length := by
    rw [Nat.toString_eq_ofList_toDigits, String.length_ofList]
  rw [padLeft, length, String.toList_append, String.toList_ofList, Nat.toString_eq_ofList_toDigits,
    String.toList_ofList]

/-- A row is its index, and what is left of the mark and the text. -/
theorem toList_numberedRow (e : Entry) (width index : Nat) :
    (e.numberedRow width index).toList =
      List.replicate (width - (Nat.toDigits 10 index).length) ' ' ++ Nat.toDigits 10 index ++
        trimEnd (e.mark :: ' ' :: e.row.toList) := by
  have digits : Nat.toDigits 10 index ≠ [] := Nat.toDigits_ne_nil
  have solid : isBlank ((List.replicate (width - (Nat.toDigits 10 index).length) ' ' ++
      Nat.toDigits 10 index).getLast (List.append_ne_nil_of_right_ne_nil _ digits)) = false := by
    rw [List.getLast_append_of_ne_nil _ digits]
    exact isBlank_of_isDigit (isDigit_toDigits (List.getLast_mem digits))
  have mark : (if e.hasCommand then "*" else " ").toList = [e.mark] := by
    unfold Entry.mark
    split <;> rfl
  rw [Entry.numberedRow, String.toList_ofList, ← trimEnd_append_of_solid _ solid]
  simp only [String.toList_append, toList_padLeft, mark, List.append_assoc]
  rfl

/-- The mark is cut off only if it is blank. -/
theorem trimEnd_mark (e : Entry) (cs : List Char) :
    (∃ rest, trimEnd (e.mark :: cs) = e.mark :: rest) ∨
      trimEnd (e.mark :: cs) = [] ∧ e.hasCommand = false := by
  obtain ⟨blanks, whole, all⟩ := exists_trimEnd_append (e.mark :: cs)
  cases cut : trimEnd (e.mark :: cs) with
  | nil =>
    rw [cut, List.nil_append] at whole
    have blank : isBlank e.mark = true := all e.mark (whole ▸ List.mem_cons_self)
    refine .inr ⟨rfl, Bool.eq_false_iff.2 fun command => ?_⟩
    rw [Entry.mark, if_pos command] at blank
    exact absurd blank (by decide)
  | cons c rest =>
    rw [cut, List.cons_append] at whole
    exact .inl ⟨rest, by rw [(List.cons.inj whole).1]⟩

/-- A row tells its index and whether its entry has a command. -/
theorem rowHead_numberedRow (e : Entry) (width index : Nat) :
    rowHead (e.numberedRow width index) = (index, e.hasCommand) := by
  have digits : ∀ c ∈ Nat.toDigits 10 index, c.isDigit = true := fun c mem => isDigit_toDigits mem
  obtain ⟨d, ds, number⟩ := List.exists_cons_of_ne_nil (@Nat.toDigits_ne_nil index 10)
  have solid : d ≠ ' ' := by
    rintro rfl
    exact absurd (digits ' ' (number ▸ List.mem_cons_self)) (by decide)
  have front : (e.numberedRow width index).toList.dropWhile (· = ' ') =
      Nat.toDigits 10 index ++ trimEnd (e.mark :: ' ' :: e.row.toList) := by
    rw [toList_numberedRow, List.append_assoc, List.dropWhile_append_of_pos (by simp), number, List.cons_append,
      List.dropWhile_cons_of_neg (by simpa using solid)]
  have mark : e.mark.isDigit = false ∧ (e.mark = '*' ↔ e.hasCommand = true) := by
    unfold Entry.mark
    split <;> simp [*]
  rw [rowHead, front]
  simp only [List.takeWhile_append_of_pos digits, List.dropWhile_append_of_pos digits]
  obtain ⟨rest, there⟩ | ⟨gone, bare⟩ := trimEnd_mark e (' ' :: e.row.toList)
  · simp [there, mark, Nat.ofDigitChars_ten_toDigits]
  · simp [gone, bare, Nat.ofDigitChars_ten_toDigits]

theorem break_not_mem_numberedRow (oneLine : '\n' ∉ e.text.toList) (width index : Nat) :
    '\n' ∉ (e.numberedRow width index).toList := by
  obtain ⟨blanks, whole, -⟩ := exists_trimEnd_append (e.mark :: ' ' :: e.row.toList)
  have mark : e.mark ≠ '\n' := by
    unfold Entry.mark
    split <;> decide
  have row : '\n' ∉ e.row.toList := by
    unfold Entry.row
    split <;> simp [titleMark, warningMark, oneLine]
  have digits : '\n' ∉ Nat.toDigits 10 index := fun mem => absurd (isDigit_toDigits mem) (by decide)
  have tail : '\n' ∉ trimEnd (e.mark :: ' ' :: e.row.toList) := by
    intro mem
    have mem := whole ▸ List.mem_append_left blanks mem
    simp [mark.symm, row] at mem
  rw [toList_numberedRow]
  simp [digits, tail]

/-! ## The listing -/

namespace View

variable {v : View}

theorem length_rows (v : View) (numbered : Bool) : (v.rows numbered).length = v.size + 1 := by
  unfold rows size
  cases numbered <;> simp

theorem rows_of_entry (there : v.entries[i]? = some e) :
    (v.rows true)[i + 1]? = some (e.numberedRow v.indexWidth i) ∧ (v.rows false)[i + 1]? = some e.row := by
  simp [rows, there]

/-- Behind the title there are only rows of entries. -/
theorem entry_of_rows {row : String} (there : (v.rows true)[i + 1]? = some row) :
    ∃ e, v.entries[i]? = some e ∧ row = e.numberedRow v.indexWidth i := by
  rw [rows, if_pos rfl, List.getElem?_cons_succ, List.getElem?_mapIdx, Option.map_eq_some_iff] at there
  obtain ⟨e, found, rfl⟩ := there
  exact ⟨e, found, rfl⟩

/-- The column is wide enough for every index. -/
theorem length_toDigits_le_indexWidth (inside : i < v.size) :
    (Nat.toDigits 10 i).length ≤ v.indexWidth := by
  have width : v.indexWidth = (Nat.toDigits 10 (v.size - 1)).length := by
    rw [indexWidth, Nat.toString_eq_ofList_toDigits, String.length_ofList]
  have some : 0 < (Nat.toDigits 10 (v.size - 1)).length := List.length_pos_iff.2 Nat.toDigits_ne_nil
  have last := (Nat.length_toDigits_le_iff (by decide) some).1 (Nat.le_refl _)
  rw [width, Nat.length_toDigits_le_iff (by decide) some]
  omega

/-- No text of the view holds a line feed. -/
def OneLined (v : View) : Prop :=
  ∀ text ∈ v.title :: v.entries.map Entry.text, '\n' ∉ text.toList

theorem break_not_mem_rows (oneLined : v.OneLined) {row : String} (mem : row ∈ v.rows true) : '\n' ∉ row.toList := by
  rw [rows, if_pos rfl, List.mem_cons, List.mem_mapIdx] at mem
  obtain rfl | ⟨i, inside, rfl⟩ := mem
  · exact oneLined _ List.mem_cons_self
  · exact break_not_mem_numberedRow
      (oneLined _ (List.mem_cons_of_mem _ (List.mem_map_of_mem (List.getElem_mem inside)))) _ _

/-- The rows are what stands between the line feeds of the listing, and there is one at its end. -/
theorem splitOn_listing (oneLined : v.OneLined) :
    (v.listing true).toList.splitOn '\n' = (v.rows true).map String.toList ++ [[]] := by
  have listing : (v.listing true).toList = ['\n'].intercalate ((v.rows true).map String.toList ++ [[]]) := by
    rw [View.listing, String.toList_append, String.toList_intercalate]
    exact intercalate_concat_nil _ (by simp [rows])
  rw [listing]
  refine List.splitOn_intercalate '\n' (fun piece mem => ?_) (by simp)
  obtain mem | last := List.mem_append.1 mem
  · obtain ⟨row, there, rfl⟩ := List.mem_map.1 mem
    exact break_not_mem_rows oneLined there
  · rw [List.mem_singleton.1 last]
    exact List.not_mem_nil

end View

/-! ## Choosing from the listing -/

/-- A row that reads as an entry and its index. -/
structure Entry.ReadsAs (e : Entry) (width index : Nat) (row : String) : Prop where
  aligned : (padLeft width (toString index)).length = width
  /-- The index in its column, the mark, a blank and the row of an unnumbered listing; blanks are cut off at the end. -/
  whole : ∃ blanks, row.toList ++ blanks = (padLeft width (toString index)).toList ++ e.mark :: ' ' :: e.row.toList ∧
    ∀ c ∈ blanks, isBlank c = true
  solid : ∀ c, row.toList.getLast? = some c → isBlank c = false
  head : rowHead row = (index, e.hasCommand)

theorem Entry.readsAs (e : Entry) (fits : (Nat.toDigits 10 index).length ≤ width) :
    e.ReadsAs width index (e.numberedRow width index) where
  aligned := by
    rw [← String.length_toList, toList_padLeft, List.length_append, List.length_replicate, Nat.sub_add_cancel fits]
  whole := by
    obtain ⟨blanks, whole, all⟩ := exists_trimEnd_append (e.mark :: ' ' :: e.row.toList)
    exact ⟨blanks, by rw [toList_numberedRow, toList_padLeft, List.append_assoc, whole], all⟩
  solid c last := by
    rw [Entry.numberedRow, String.toList_ofList] at last
    exact isBlank_getLast_trimEnd last
  head := rowHead_numberedRow e width index

/-- A state in which an index was chosen. -/
def State.choosing (s : State) (index : Int) : State :=
  { s with execute := some index }

/-- The numbered listing of a view tells what comes of choosing an index. -/
structure View.Guides (v : View) (w : World) (s : State) : Prop where
  lines : (v.listing true).toList.splitOn '\n' = (v.rows true).map String.toList ++ [[]]
  count : (v.rows true).length = v.size + 1
  title : (v.rows true)[0]? = some v.title
  reads : ∀ (i : Nat) e, v.entries[i]? = some e → ∃ row, (v.rows true)[i + 1]? = some row ∧
    (v.rows false)[i + 1]? = some e.row ∧ e.ReadsAs v.indexWidth i row
  starred : ∀ (i : Nat) row, (v.rows true)[i + 1]? = some row →
    ((rowHead row).2 = true ↔ ∃ launch, runCommand.Starts w (s.choosing i) launch)
  bare : ∀ (i : Nat) row, (v.rows true)[i + 1]? = some row →
    (rowHead row).2 = false → runCommand.StartsNothing w (s.choosing i)
  args : ∀ (i : Nat) e launch, v.entries[i]? = some e → runCommand.Starts w (s.choosing i) launch →
    launch.args = e.command.before ++ e.text :: e.command.after
  outside : ∀ index : Int, index < 0 ∨ v.size ≤ index →
    (runCommand w (s.choosing index)).1 = .error (.complaint (.noEntry index)) ∧
      runCommand.StartsNothing w (s.choosing index)

section

variable {v : View} {w : World} {s : State}

theorem View.get?_ofNat (v : View) (i : Nat) : v.get? i = v.entries[i]? := by
  rw [View.get?, if_neg (by omega), Int.toNat_natCast]

theorem View.get?_of_outside {index : Int} (outside : index < 0 ∨ v.size ≤ index) : v.get? index = none := by
  unfold View.get?
  split
  · rfl
  · exact List.getElem?_eq_none (by unfold View.size at outside; omega)

theorem State.choosing_chooses_iff (shown : s.view = some v) {index : Int} :
    (s.choosing index).Chooses e ↔ v.get? index = some e ∧ e.hasCommand = true := by
  rw [State.chooses_iff (s := s.choosing index) shown]
  simp [State.choosing]

/-- What is asked for when an index is chosen is the command of its entry. -/
theorem starts_choosing_iff (shown : s.view = some v) (there : v.entries[i]? = some e) {launch : Launch} :
    runCommand.Starts w (s.choosing i) launch ↔ e.hasCommand = true ∧ launch = e.launch w := by
  simp only [starts_runCommand_iff, State.choosing_chooses_iff shown, v.get?_ofNat, there, Option.some.injEq]
  constructor
  · rintro ⟨_, ⟨rfl, command⟩, rfl⟩
    exact ⟨command, rfl⟩
  · rintro ⟨command, rfl⟩
    exact ⟨e, ⟨rfl, command⟩, rfl⟩

/-- The numbered listing of a view without line feeds in its texts tells what comes of choosing an index. -/
theorem View.guides (oneLined : v.OneLined) (shown : s.view = some v) : v.Guides w s where
  lines := v.splitOn_listing oneLined
  count := v.length_rows true
  title := rfl
  reads i e there := by
    have inside : i < v.size := (List.getElem?_eq_some_iff.1 there).1
    obtain ⟨numbered, plain⟩ := v.rows_of_entry there
    exact ⟨_, numbered, plain, e.readsAs (v.length_toDigits_le_indexWidth inside)⟩
  starred i row found := by
    obtain ⟨e, there, rfl⟩ := v.entry_of_rows found
    simp only [rowHead_numberedRow, starts_choosing_iff shown there, exists_and_left, exists_eq, and_true]
  bare i row found unstarred := by
    obtain ⟨e, there, rfl⟩ := v.entry_of_rows found
    rw [rowHead_numberedRow] at unstarred
    refine startsNothing_runCommand fun e' chooses => ?_
    have starts := (starts_choosing_iff (w := w) shown there).1 (starts_runCommand chooses)
    exact absurd starts.1 (Bool.eq_false_iff.1 unstarred)
  args i e launch there starts := by
    obtain ⟨-, rfl⟩ := (starts_choosing_iff shown there).1 starts
    rfl
  outside index outside := by
    have missing := v.get?_of_outside outside
    refine ⟨?_, startsNothing_runCommand fun e chooses => ?_⟩
    · have refused : runCommand w (s.choosing index) = w.refuse (.noEntry index) :=
        runCommand_of_missing rfl shown missing
      rw [refused]
      rfl
    · obtain ⟨found, -⟩ := (State.choosing_chooses_iff shown).1 chooses
      cases missing.symm.trans found

end

/-- Eleven entries: commands of either template, an empty row, a heading, a warning, and rows of blanks. -/
def View.eleven : View where
  root := Path.ofPlace ["menu"]
  title := " Lunch "
  entries :=
    [⟨"soup", Path.ofPlace ["menu"], 1, .normal, ⟨["echo"], []⟩⟩, ⟨"", Path.ofPlace ["menu"], 2, .normal, {}⟩,
      ⟨"", Path.ofPlace ["menu"], 3, .normal, ⟨[], [""]⟩⟩, ⟨"Cold", Path.ofPlace ["menu"], 4, .title, {}⟩,
      ⟨"* ", Path.ofPlace ["menu"], 5, .normal, {}⟩, ⟨"gone", Path.ofPlace ["menu"], 6, .warning, {}⟩] ++
    List.replicate 5 ⟨" ", Path.ofPlace ["menu"], 7, .normal, ⟨["eat"], ["now"]⟩⟩
  sources := [Path.ofPlace ["menu"]]

def World.empty : World where
  tree := {}
  home? := none
  start _ := .ok 1

def State.showing (v : View) : State where
  inputDirectory := Path.ofPlace []
  outputDirectory := Path.ofPlace []
  view := some v

theorem View.guides_eleven :
    View.eleven.OneLined ∧ (State.showing View.eleven).view = some View.eleven ∧
      View.eleven.rows true = [" Lunch ", " 0* soup", " 1", " 2*", " 3  -- Cold", " 4  *", " 5  [warning] gone", " 6*",
        " 7*", " 8*", " 9*", "10*"] ∧
      View.eleven.Guides World.empty (State.showing View.eleven) := by
  have oneLined : View.eleven.OneLined := by
    simp [View.OneLined, View.eleven]
  exact ⟨oneLined, rfl, by decide +kernel, View.eleven.guides oneLined rfl⟩

end Menu
