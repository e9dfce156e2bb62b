import Menu.Proofs.Blocks.Order
import Menu.Proofs.Includes.Isolation

/-!
# Files that are included for their lines

A file that is opened by `lines` contributes its texts and its empty lines as they stand, up to the line that ends
it or to the read that fails, and nothing else that it contains has an effect.

* `Stream.literal`: the lines of the file that count, and the fault that stops their reading.
* `step_of_line`, `step_of_end`, `step_of_fault`: one read in such a file.
* `leads_of_literal`: all reads, until the file is left.
* `lines_literal`: what an inclusion by `lines` comes to.
-/

namespace Menu

/-! ## What counts of a file -/

/-- What is shown of a line of a file, if it is read as it stands. -/
def Directive.literal? (file : Path) (command : Template) (position : Int) : Directive → Option Entry
  | .text line => some ⟨line, file, position, .normal, command⟩
  | .empty => some ⟨"", file, position, .normal, {}⟩
  | _ => none

/-- The lines that reads give before the first one that ends the file, and the fault of a read before that one;
`broken` is the fault behind the last of these reads. -/
def literalReads (m : Markers) (broken : Option Fault) : List (Except Fault String) → List String × Option Fault
  | [] => ([], broken)
  | .error why :: _ => ([], some why)
  | .ok line :: reads =>
    match m.parse line with
    | .close => ([], none)
    | _ =>
      let (lines, fault) := literalReads m broken reads
      (line :: lines, fault)

/-- The lines of a file before the first one that ends it, as far as they can be read, and the fault if they
cannot all be read. -/
def Stream.literal (m : Markers) (s : Stream) : List String × Option Fault :=
  literalReads m s.broken s.reads

/-- What is shown of lines with the numbers from `first` on, if they are read as they stand. -/
def literalEntries (m : Markers) (file : Path) (command : Template) (first : Nat) (lines : List String) :
    List Entry :=
  (lines.zipIdx first).filterMap fun line => (m.parse line.1).literal? file command line.2

/-- The warning that a file could not be read on behind the line with a number. -/
def unreadable (file : Path) (position : Int) (why : Fault) : Entry :=
  ⟨"could not read " ++ file.text ++ ", " ++ why.text, file, position, .warning, {}⟩

theorem literalReads_of_other {m : Markers} {line : String} (other : m.parse line ≠ .close) (broken : Option Fault)
    (reads : List (Except Fault String)) :
    literalReads m broken (.ok line :: reads) =
      (line :: (literalReads m broken reads).1, (literalReads m broken reads).2) := by
  rw [literalReads]
  split
  · exact absurd ‹_› other
  · rfl

theorem literalReads_of_close {m : Markers} {line : String} (closes : m.parse line = .close)
    (broken : Option Fault) (reads : List (Except Fault String)) :
    literalReads m broken (.ok line :: reads) = ([], none) := by
  simp only [literalReads, closes]

theorem literalEntries_cons (m : Markers) (file : Path) (command : Template) (first : Nat) (line : String)
    (lines : List String) :
    literalEntries m file command first (line :: lines) =
      ((m.parse line).literal? file command first).toList ++ literalEntries m file command (first + 1) lines := by
  rw [literalEntries, List.zipIdx_cons, List.filterMap_cons, literalEntries]
  cases (m.parse line).literal? file command first <;> rfl

namespace Build

variable {m : Markers} {site : Site} {path file : Path} {stream content : Stream} {origins : List Origin}
  {b next : Build} {c : Context} {below : List Context} {shared : Shared} {events : List Event} {number : Nat}
  {cell lineage : Handle} {broken : Option Fault} {reads : List (Except Fault String)} {position : Int}

/-! ## Reading such a file -/

/-- A file that was opened by `lines`, with these reads ahead. -/
def literalFile (file : Path) (number : Nat) (cell lineage : Handle) (broken : Option Fault)
    (reads : List (Except Fault String)) (position : Int) : Context :=
  { path := file, stream := number, isRoot := false, reader := { stream := ⟨reads, broken⟩, position }, cell, lineage,
    scopes := [⟨.literal, true⟩] }

/-- A line of such a file that does not end it is shown or passed over. -/
theorem step_of_line {line : String} (other : site.markers.parse line ≠ .close) :
    ∃ events,
      step site ⟨literalFile file number cell lineage broken (.ok line :: reads) position :: below, shared⟩ =
        (.ok ⟨literalFile file number cell lineage broken reads (position + 1) :: below, shared⟩, events) ∧
      entriesOf events =
        ((site.markers.parse line).literal? file (shared.cells.get cell) (position + 1)).toList := by
  have reaction : ∀ r, Context.react site (below.length + 1) shared
      (literalFile file number cell lineage broken reads (position + 1)) (position + 1)
      (Scopes.apply [⟨.literal, true⟩] (site.markers.parse line)) = .ok r →
      step site ⟨literalFile file number cell lineage broken (.ok line :: reads) position :: below, shared⟩ =
        (.ok (settle below r), .read number :: r.events) := fun r h => step_of_reaction h
  rcases Scopes.literal_cases (site.markers.parse line) with ⟨passed, kinds⟩ | ⟨dropped, -, notEmpty, notText⟩
  · rw [passed] at reaction
    rcases kinds with closes | empty | ⟨text, isText⟩
    · exact absurd closes other
    · rw [empty] at reaction ⊢
      exact ⟨_, reaction _ rfl, rfl⟩
    · rw [isText] at reaction ⊢
      exact ⟨_, reaction _ rfl, rfl⟩
  · rw [dropped] at reaction
    refine ⟨_, reaction _ rfl, ?_⟩
    cases parsed : site.markers.parse line with
    | empty => exact absurd parsed notEmpty
    | text text => exact absurd parsed (notText text)
    | _ => rfl

/-- A line that ends such a file. -/
theorem step_of_closing {line : String} (closes : site.markers.parse line = .close) :
    ∃ events,
      step site ⟨literalFile file number cell lineage broken (.ok line :: reads) position :: below, shared⟩ =
        (.ok ⟨below, shared⟩, events) ∧ entriesOf events = [] := by
  have read : (Reader.read site.markers { stream := ⟨.ok line :: reads, broken⟩, position }).1 =
      .ok (position + 1, .close) := by rw [← closes]; rfl
  exact ⟨_, step_of_react (c := literalFile file number cell lineage broken _ position) read rfl, rfl⟩

/-- The end of such a file. -/
theorem step_of_end (site : Site) (file : Path) (number : Nat) (cell lineage : Handle) (position : Int)
    (below : List Context) (shared : Shared) :
    ∃ events,
      step site ⟨literalFile file number cell lineage none [] position :: below, shared⟩ =
        (.ok ⟨below, shared⟩, events) ∧ entriesOf events = [] :=
  ⟨_, step_of_react (c := literalFile file number cell lineage none [] position) rfl rfl, rfl⟩

variable (site) (reads) (broken) in
/-- A read that fails in such a file, which is left with a warning. -/
theorem step_of_fault {why : Fault} (covered : below ≠ [])
    (failed : (Stream.next ⟨reads, broken⟩).1 = .error why) :
    ∃ events,
      step site ⟨literalFile file number cell lineage broken reads position :: below, shared⟩ =
        (.ok ⟨below, shared⟩, events) ∧ entriesOf events = [unreadable file position why] := by
  have notLast : below.isEmpty = false := List.isEmpty_eq_false_iff.2 covered
  have reaction : ∀ after : List (Except Fault String),
      (Reader.read site.markers { stream := ⟨reads, broken⟩, position }) =
        (.error (.fault why), { stream := ⟨after, broken⟩, position }) →
      step site ⟨literalFile file number cell lineage broken reads position :: below, shared⟩ =
        (.ok ⟨below, shared⟩,
          .read number ::
            ((literalFile file number cell lineage broken after position).abandon shared (below.length + 1)
              why).events) := by
    intro after read
    refine step_of_reaction (r := (literalFile file number cell lineage broken after position).abandon shared
      (below.length + 1) why) ?_
    rw [Context.readOn, literalFile]
    simp only [read, reactionTo, notLast]
    rfl
  cases reads with
  | cons first reads =>
    cases first with
    | ok line => cases failed
    | error fault =>
      cases failed
      exact ⟨_, reaction reads rfl, rfl⟩
  | nil =>
    cases broken with
    | none => cases failed
    | some fault =>
      cases failed
      exact ⟨_, reaction [] rfl, rfl⟩

/-- Such a file is read to its end, or to a read that fails, and nothing else is read meanwhile. -/
theorem leads_of_literal (site : Site) (file : Path) (number : Nat) (cell lineage : Handle) (broken : Option Fault)
    (reads : List (Except Fault String)) (position : Nat) (shared : Shared) (covered : below ≠ []) :
    ∃ events,
      LeadsWhile site (·.stream = number)
        ⟨literalFile file number cell lineage broken reads position :: below, shared⟩ events ⟨below, shared⟩ ∧
      entriesOf events =
        literalEntries site.markers file (shared.cells.get cell) (position + 1)
            (literalReads site.markers broken reads).1 ++
          ((literalReads site.markers broken reads).2.map
            (unreadable file (position + (literalReads site.markers broken reads).1.length : Nat))).toList := by
  induction reads generalizing position with
  | nil =>
    cases broken with
    | none =>
      obtain ⟨events, taken, quiet⟩ := step_of_end site file number cell lineage position below shared
      exact ⟨events, .single rfl taken, quiet⟩
    | some why =>
      obtain ⟨events, taken, shown⟩ := step_of_fault site (some why) [] covered rfl
      exact ⟨events, .single rfl taken, shown⟩
  | cons first reads ih =>
    cases first with
    | error why =>
      obtain ⟨events, taken, shown⟩ := step_of_fault site broken (.error why :: reads) covered rfl
      exact ⟨events, .single rfl taken, shown⟩
    | ok line =>
      by_cases closes : site.markers.parse line = .close
      · obtain ⟨events, taken, quiet⟩ := step_of_closing closes
        rw [literalReads_of_close closes]
        exact ⟨events, .single rfl taken, quiet⟩
      · obtain ⟨seen, taken, shown⟩ := step_of_line closes
        obtain ⟨events, leads, rest⟩ := ih (position + 1)
        refine ⟨seen ++ events, .step rfl taken leads, ?_⟩
        have number : position + ((literalReads site.markers broken reads).1.length + 1) =
            position + 1 + (literalReads site.markers broken reads).1.length := by omega
        rw [literalReads_of_other closes, entriesOf_append, shown, rest, literalEntries_cons, List.append_assoc,
          List.length_cons, number]
        rfl

/-! ## The inclusion -/

/-- Nothing is ever put on top of a file that was opened by `lines`. -/
theorem lines_on_top (reached : Underway m path stream origins b) : .included .lines ∉ origins.tail := by
  induction reached with
  | start => exact List.not_mem_nil
  | @step origins b next events site reached same _ taken ih =>
    subst same
    have fits := fits_of_underway reached
    obtain ⟨stack, shared⟩ := b
    cases stack with
    | nil =>
      cases taken
      simpa [originsAfter] using ih
    | cons c below =>
      obtain ⟨r, h, rfl, -⟩ := exists_reaction taken
      obtain ⟨o, others, top, -, rfl⟩ := List.forall₂_cons_right_iff.1 fits
      cases moves : r.move with
      | stay =>
        rw [originsAfter_stay moves]
        exact ih
      | leave =>
        rw [originsAfter_leave moves]
        exact fun mem => ih (List.mem_of_mem_tail mem)
      | enter child =>
        obtain ⟨_, _, how, _, _, _, read, inclusion, -⟩ := reaction_enter h moves
        rw [originsAfter_enter moves read inclusion]
        refine fun mem => (List.mem_cons.1 mem).elim (fun lines => ?_) ih
        obtain ⟨-, leaves | ⟨stays, -⟩⟩ := literal_of_reaction (top.lines lines.symm) h
        · rw [moves] at leaves
          cases leaves
        · rw [moves] at stays
          cases stays

variable (site) in
/-- **What an inclusion by `lines` comes to.**  Whatever is in the file, its texts are shown with the command that
the including file has, and its empty lines with none, each with its number, up to the first line that ends the
file.  If a read fails before that line, a warning follows.  Nothing else is shown, no other file is read meanwhile,
and then the build goes on in the including file with nothing else changed: title, commands, and the sets of the
files taken in.  Nor is anything put on top of such a file in any other build. -/
theorem lines_literal {target : String}
    (dispatched : dispatched? site.markers ⟨c :: below, shared⟩ = some (.inclusion .lines target))
    (resolved : site.resolve target c.directory = .ok file) (opened : site.openTarget file = .ok content) :
    ∃ child later pushed events,
      step site ⟨c :: below, shared⟩ = (.ok ⟨child :: c.readOn site.markers :: below, later⟩, pushed) ∧
      child.path = file ∧ entriesOf pushed = [] ∧
      LeadsWhile site (·.stream = child.stream) ⟨child :: c.readOn site.markers :: below, later⟩ events
        ⟨c.readOn site.markers :: below, later⟩ ∧
      entriesOf events =
        literalEntries site.markers file (shared.cells.get c.cell) 1 (content.literal site.markers).1 ++
          ((content.literal site.markers).2.map
            (unreadable file (content.literal site.markers).1.length)).toList ∧
      later.title = shared.title ∧ later.imported = shared.imported ∧ later.cells = shared.cells ∧
      (∀ h, shared.lineages.Holds h → later.lineages.get h = shared.lineages.get h) ∧
      ∀ m document stream origins b, Underway m document stream origins b → .included .lines ∉ origins.tail := by
  obtain ⟨position, written, read, applied⟩ := exists_read_of_dispatched dispatched
  obtain ⟨reads, broken⟩ := content
  have pushed : step site ⟨c :: below, shared⟩ = _ := step_of_opened read applied resolved rfl opened
  obtain ⟨events, leads, shown⟩ := leads_of_literal site file shared.opened c.cell _ broken reads 0
    ((c.readOn site.markers).child shared .lines file ⟨reads, broken⟩).2
    (List.cons_ne_nil (c.readOn site.markers) below)
  refine ⟨_, _, _, events, pushed, rfl, ?_, leads, ?_, rfl, rfl, rfl, fun h held => Pool.get_add_of_holds [] held,
    fun _ _ _ _ _ reached => lines_on_top reached⟩
  · rw [entriesOf_append, entriesOf_reading]
    rfl
  · rw [shown, Nat.zero_add, Nat.zero_add]
    rfl

/-- What is shown of a file that is included for its lines is its text and its empty line before the line that ends
it; an end of a block and an inclusion of the file itself have no effect. -/
theorem lines_literal_of_closed :
    ∃ child c shared later seen events,
      step (.holding [("f", ["t", "#-end", "", "#-lines f", "#-close", "u"])])
          (start ⟨.root, ["menu"]⟩ (.ofLines ["#-lines f"])) = (.ok ⟨[child, c], later⟩, seen) ∧
      Leads (.holding [("f", ["t", "#-end", "", "#-lines f", "#-close", "u"])]) ⟨[child, c], later⟩ events
        ⟨[c], shared⟩ ∧
      entriesOf events = [⟨"t", ⟨.root, ["f"]⟩, 1, .normal, {}⟩, ⟨"", ⟨.root, ["f"]⟩, 3, .normal, {}⟩] := by
  have resolved : (Site.holding [("f", ["t", "#-end", "", "#-lines f", "#-close", "u"])]).resolve "f" ⟨.root, []⟩ =
      .ok ⟨.root, ["f"]⟩ := Site.resolve_holding (by decide) (by decide +kernel) rfl rfl
  obtain ⟨child, later, seen, events, taken, -, -, leads, shown, -⟩ :=
    lines_literal (.holding [("f", ["t", "#-end", "", "#-lines f", "#-close", "u"])])
      (c := ⟨⟨.root, ["menu"]⟩, 0, true, { stream := .ofLines ["#-lines f"] }, 0, 0, [], {}⟩) rfl resolved rfl
  exact ⟨child, _, _, later, seen, events, taken, leads.leads, shown⟩

end Build

end Menu
