import Menu.Proofs.Context.Reactions

/-!
# Files read behind others

A file that is read while others wait shares pools with them, and its streams are counted on from theirs.  But it
holds only values of its own, so that it goes on as if the others were not there: `Context.behind` is the file as it
is in the larger build, and `Shared.behind` what is shared there.

The larger build differs in three ways.  Its handles and numbers come behind those of the files that wait; more
files are imported; and no file belongs to the lineage of the document.  None of this is shown.

* `alreadyTaken_behind`: the same files count as taken in, but for those that only the files that wait imported.
* `child_behind`: the same files are put on top.
* `react_behind`: each directive comes to the same in both builds, and shows the same entries.
-/

namespace Menu

/-! ## Shared values -/

namespace Pool

variable {α : Type}

/-- The values of a pool put behind those of another. -/
def behind (p base : Pool α) : Pool α :=
  ⟨base.values ++ p.values⟩

/-- A handle of a pool whose values are put behind those of another. -/
def shift (base : Pool α) (h : Handle) : Handle :=
  base.values.length + h

theorem get_behind [Inhabited α] (p base : Pool α) (h : Handle) : (p.behind base).get (base.shift h) = p.get h := by
  have found : (base.values ++ p.values)[base.values.length + h]? = p.values[h]? := by
    rw [List.getElem?_append_right (Nat.le_add_right _ _), Nat.add_sub_cancel_left]
  rw [get, get, behind, shift, found]

theorem add_behind (p base : Pool α) (a : α) :
    (p.behind base).add a = ((p.add a).1.behind base, base.shift (p.add a).2) := by
  simp [add, behind, shift]

theorem modify_behind (p base : Pool α) (h : Handle) (f : α → α) :
    (p.behind base).modify (base.shift h) f = (p.modify h f).behind base := by
  have appended : ∀ xs : List α, (xs ++ p.values).modify (xs.length + h) f = xs ++ p.values.modify h f := by
    intro xs
    induction xs with
    | nil => rw [List.nil_append, List.length_nil, Nat.zero_add, List.nil_append]
    | cons x xs ih =>
      rw [List.cons_append, List.length_cons, Nat.add_right_comm, List.modify_succ_cons, ih, List.cons_append]
  exact congrArg Pool.mk (appended base.values)

end Pool

namespace Shared

/-- What is shared when the files of `s` are read while those of `base` wait. -/
def behind (s base : Shared) : Shared where
  cells := s.cells.behind base.cells
  lineages := s.lineages.behind base.lineages
  imported := s.imported ++ base.imported
  sources := base.sources ++ s.sources.filter (· ∉ base.sources)
  title := base.title
  opened := base.opened + s.opened

theorem visit_behind (s base : Shared) (file : Path) : (s.behind base).visit file = (s.visit file).behind base := by
  by_cases waits : file ∈ base.sources
  · by_cases here : file ∈ s.sources <;> simp [visit, behind, waits, here, Nat.add_assoc]
  · by_cases here : file ∈ s.sources <;> simp [visit, behind, waits, here, Nat.add_assoc]

theorem newCell_behind (s base : Shared) :
    (s.behind base).newCell = (s.newCell.1.behind base, base.cells.shift s.newCell.2) := by
  have added := s.cells.add_behind base.cells {}
  simp only [newCell, behind] at added ⊢
  rw [added]

theorem newLineage_behind (s base : Shared) (files : List Path) :
    (s.behind base).newLineage files =
      ((s.newLineage files).1.behind base, base.lineages.shift (s.newLineage files).2) := by
  have added := s.lineages.add_behind base.lineages files
  simp only [newLineage, behind] at added ⊢
  rw [added]

theorem modify_cells_behind (s base : Shared) (cell : Handle) (f : Template → Template) :
    { s.behind base with cells := (s.behind base).cells.modify (base.cells.shift cell) f } =
      { s with cells := s.cells.modify cell f }.behind base := by
  simp only [behind, Pool.modify_behind]

theorem modify_lineages_behind (s base : Shared) (lineage : Handle) (f : List Path → List Path) :
    { s.behind base with lineages := (s.behind base).lineages.modify (base.lineages.shift lineage) f } =
      { s with lineages := s.lineages.modify lineage f }.behind base := by
  simp only [behind, Pool.modify_behind]

theorem alreadyTaken_behind (s base : Shared) (lineage : Handle) {how : Inclusion} {file : Path}
    (apart : how = .importing → file ∉ base.imported) :
    (s.behind base).alreadyTaken (base.lineages.shift lineage) how file = s.alreadyTaken lineage how file := by
  cases how with
  | importing => simp [alreadyTaken, behind, apart rfl]
  | sourcing => rw [alreadyTaken, alreadyTaken, behind, Pool.get_behind]
  | lines => rfl

end Shared

/-! ## Files -/

namespace Context

/-- A file that is read while the files of `base` wait. -/
def behind (c : Context) (base : Shared) : Context :=
  { c with
    stream := base.opened + c.stream
    isRoot := false
    cell := base.cells.shift c.cell
    lineage := base.lineages.shift c.lineage }

theorem child_behind (c : Context) (shared base : Shared) (how : Inclusion) (file : Path) (stream : Stream) :
    (c.behind base).child (shared.behind base) how file stream =
      ((c.child shared how file stream).1.behind base, (c.child shared how file stream).2.behind base) := by
  cases how with
  | importing =>
    rw [child, child, Shared.visit_behind]
    dsimp only
    rw [Shared.newCell_behind]
    dsimp only
    rw [Shared.newLineage_behind]
    rfl
  | sourcing =>
    rw [child, child, Shared.visit_behind]
    exact congrArg _ (Shared.modify_lineages_behind _ base c.lineage _)
  | lines =>
    rw [child, child, Shared.visit_behind]
    dsimp only
    rw [Shared.newLineage_behind]
    rfl

end Context

/-! ## Reactions -/

/-- What becomes of the open files while those of `base` wait. -/
def Move.behind (base : Shared) : Move → Move
  | stay => .stay
  | leave => .leave
  | enter child => .enter (child.behind base)

/-- The same reaction, `r'` while the files of `base` wait and `r` without them. -/
structure Reaction.Behind (base : Shared) (r r' : Reaction) : Prop where
  context : r'.context = r.context.behind base
  shared : r'.shared = r.shared.behind base
  move : r'.move = r.move.behind base
  entries : entriesOf r'.events = entriesOf r.events

namespace Context

variable {site : Site} {depth depth' : Nat} {shared base : Shared} {c : Context} {position : Int} {d : Directive}
  {r : Reaction}

theorem entriesOf_leaving_behind (c : Context) (base : Shared) (depth depth' : Nat) :
    entriesOf ((c.behind base).leaving depth') = entriesOf (c.leaving depth) := by
  rw [entriesOf_leaving_eq, entriesOf_leaving_eq]
  rfl

theorem includeFile_behind {how : Inclusion} {target : String}
    (h : c.includeFile site depth shared position how target = .ok r)
    (apart : how = .importing → ∀ file, site.resolve target c.directory = .ok file → file ∉ base.imported) :
    ∃ r', (c.behind base).includeFile site depth' (shared.behind base) position how target = .ok r' ∧
      r.Behind base r' := by
  cases resolved : site.resolve target c.directory with
  | error obstacle =>
    cases obstacle with
    | stop why => rw [includeFile, resolved] at h; cases h
    | bad why =>
      rw [includeFile_of_unresolved resolved] at h
      cases h
      exact ⟨_, includeFile_of_unresolved (c := c.behind base) resolved, rfl, rfl, rfl, rfl⟩
  | ok file =>
    have same := shared.alreadyTaken_behind base c.lineage fun importing => apart importing file resolved
    cases old : shared.alreadyTaken c.lineage how file with
    | true =>
      rw [includeFile_of_taken resolved old] at h
      cases h
      exact ⟨_, includeFile_of_taken (c := c.behind base) resolved (same.trans old), rfl, rfl, rfl, rfl⟩
    | false =>
      cases opened : site.openTarget file with
      | error obstacle =>
        cases obstacle with
        | stop why =>
          simp only [includeFile, resolved, old, opened, Bool.false_eq_true, if_false] at h
          cases h
        | bad why =>
          rw [includeFile_of_unopened resolved old opened] at h
          cases h
          exact ⟨_, includeFile_of_unopened (c := c.behind base) resolved (same.trans old) opened, rfl, rfl, rfl, rfl⟩
      | ok stream =>
        rw [includeFile_of_opened resolved old opened] at h
        cases h
        refine ⟨_, includeFile_of_opened (c := c.behind base) resolved (same.trans old) opened, rfl, ?_, ?_, rfl⟩
        · rw [enter, child_behind]
          rfl
        · rw [enter, child_behind]
          rfl

theorem endBlock_behind (c : Context) (shared base : Shared) (position : Int) (automatic : Bool) :
    (c.endBlock shared position automatic).Behind base
      ((c.behind base).endBlock (shared.behind base) position automatic) := by
  have same : (c.behind base).scopes = c.scopes := rfl
  simp only [endBlock, same]
  repeat' split
  all_goals exact ⟨rfl, rfl, rfl, rfl⟩

theorem resolveWatch_behind (c : Context) (shared base : Shared) (position : Int) (rule : List String → Rule)
    (complaint : String) :
    (c.resolveWatch shared position rule complaint).Behind base
      ((c.behind base).resolveWatch (shared.behind base) position rule complaint) := by
  have same : (c.behind base).watch.stop? = c.watch.stop? := rfl
  simp only [resolveWatch, same]
  split <;> exact ⟨rfl, rfl, rfl, rfl⟩

/-- Each directive comes to the same while other files wait, if no import names a file that only they imported. -/
theorem react_behind (h : c.react site depth shared position d = .ok r)
    (apart : ∀ target file, d = .inclusion .importing target → site.resolve target c.directory = .ok file →
      file ∉ base.imported) :
    ∃ r', (c.behind base).react site depth' (shared.behind base) position d = .ok r' ∧ r.Behind base r' := by
  cases d with
  | inclusion how target =>
    exact includeFile_behind h fun importing file resolved => apart target file (by rw [importing]) resolved
  | endBlock automatic => cases h; exact ⟨_, rfl, endBlock_behind c shared base position automatic⟩
  | thenBlock => cases h; exact ⟨_, rfl, resolveWatch_behind c shared base position _ _⟩
  | elseBlock => cases h; exact ⟨_, rfl, resolveWatch_behind c shared base position _ _⟩
  | close => cases h; exact ⟨_, rfl, rfl, rfl, rfl, entriesOf_leaving_behind c base depth depth'⟩
  | clean =>
    cases h
    have added := shared.newCell_behind base
    have context := congrArg (fun new => { c.behind base with cell := new.2 }) added
    exact ⟨_, rfl, context, congrArg Prod.fst added, rfl, rfl⟩
  | before arg => cases h; exact ⟨_, rfl, rfl, shared.modify_cells_behind base c.cell _, rfl, rfl⟩
  | after arg => cases h; exact ⟨_, rfl, rfl, shared.modify_cells_behind base c.cell _, rfl, rfl⟩
  | text text =>
    cases h
    refine ⟨_, rfl, rfl, rfl, rfl, ?_⟩
    exact congrArg (fun command => [(⟨text, c.path, position, .normal, command⟩ : Entry)])
      (shared.cells.get_behind base.cells c.cell)
  | title text =>
    -- a title is missed if the file belongs to the lineage of the document, but no entry shows it
    simp only [react] at h
    split at h <;> cases h <;> exact ⟨_, rfl, rfl, rfl, rfl, rfl⟩
  | warning text =>
    have same : (c.behind base).watch.running = c.watch.running := rfl
    rw [react] at h ⊢
    rw [same]
    split at h
    · cases h
      exact ⟨_, if_pos ‹_›, rfl, rfl, rfl, rfl⟩
    · cases h
      exact ⟨_, if_neg ‹_›, rfl, rfl, rfl, rfl⟩
  | watch =>
    have same : (c.behind base).watch.start? = c.watch.start? := rfl
    rw [react] at h ⊢
    rw [same]
    cases started : c.watch.start? with
    | none => rw [started] at h; cases h; exact ⟨_, rfl, rfl, rfl, rfl, rfl⟩
    | some watch => rw [started] at h; cases h; exact ⟨_, rfl, rfl, rfl, rfl, rfl⟩
  | _ => cases h; exact ⟨_, rfl, rfl, rfl, rfl, rfl⟩

end Context

end Menu
