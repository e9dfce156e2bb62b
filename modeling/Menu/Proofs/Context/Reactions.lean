import Menu.Context.Progress

/-!
# What a directive does to its file

A directive changes little of the file it was read in.  `Context.Changes` lists the changes, each with the
directive that makes it, and `changes_of_react` says that there are no others.  What becomes of one part of a
file is read off from there.

* `same_of_react`: no directive makes another file of the one it was read in.
* `watch_of_react`: what becomes of the watch.
* `scopes_of_react`: what becomes of the open blocks.
* `reader_of_react`: what a file is given to read again.
* `includeFile_of_unresolved`, `includeFile_of_taken`, `includeFile_of_unopened`, `includeFile_of_opened`: the four
  outcomes of an inclusion that does not end the build.
* `react_enter`, `react_leave`: only an inclusion puts a file on top, and only the end of a file takes it away.
* `exists_react`: only an inclusion can end a build.
* `ofText_of_includeFile`: and it does so for a path or for the name of an encoding.
-/

namespace Menu

/-- The reasons to stop that lie in a text, which is a path or the name of an encoding. -/
inductive Abort.OfText : Abort → Prop
  | flawed (why : Flaw) : OfText (.flawed why)
  | unknownEncoding (name : String) : OfText (.unknownEncoding name)
  | nulInEncoding : OfText .nulInEncoding

namespace Context

variable {site : Site} {depth : Nat} {shared : Shared} {c : Context} {position : Int} {d : Directive}
  {r : Reaction}

/-- A file after a read. -/
def readOn (m : Markers) (c : Context) : Context :=
  { c with reader := (c.reader.read m).2 }

/-! ## All changes -/

/-- What may become of a file by a directive that was read at a position. -/
inductive Changes (c : Context) (position : Int) : Directive → Context → Prop
  | nothing (d : Directive) : Changes c position d c
  | clean (cell : Handle) : Changes c position .clean { c with cell }
  | collect (text : String) :
    c.watch.running = true → Changes c position (.warning text) { c with watch := c.watch.collect text }
  | watch : c.watch.running = false → Changes c position .watch { c with watch := ⟨true, []⟩ }
  | endBlock (automatic : Bool) :
    Changes c position (.endBlock automatic) { c with scopes := c.scopes.tail }
  | ignoreWarnings :
    Changes c position .ignoreWarnings { c with scopes := ⟨.ignoreWarnings, false⟩ :: c.scopes }
  | ignoreText : Changes c position .ignoreText { c with scopes := ⟨.ignoreText, false⟩ :: c.scopes }
  | thenBlock :
    c.watch.running = true →
    Changes c position .thenBlock
      { c with watch := ⟨false, []⟩, scopes := ⟨.thenBlock c.watch.warnings, false⟩ :: c.scopes }
  | elseBlock :
    c.watch.running = true →
    Changes c position .elseBlock
      { c with watch := ⟨false, []⟩, scopes := ⟨.elseBlock c.watch.warnings, false⟩ :: c.scopes }
  | multiple (ds : List Directive) :
    Changes c position (.multiple ds) { c with reader := c.reader.pushBack position ds }
  | inclusion (how : Inclusion) (target text : String) :
    Changes c position (.inclusion how target)
      { c with reader := c.reader.pushBack position [.warning text] }
  | close : Changes c position .close c.left

theorem changes_of_includeFile {how : Inclusion} {target : String}
    (h : c.includeFile site depth shared position how target = .ok r) :
    c.Changes position (.inclusion how target) r.context := by
  unfold includeFile at h
  repeat' split at h
  all_goals cases h
  · exact .inclusion how target _
  · exact .nothing _
  · exact .inclusion how target _
  · exact .nothing _

theorem changes_of_endBlock (shared : Shared) (c : Context) (position : Int) (automatic : Bool) :
    c.Changes position (.endBlock automatic) (c.endBlock shared position automatic).context := by
  unfold endBlock
  cases scopes : c.scopes with
  | nil => exact .nothing _
  | cons s outer =>
    have popped : c.Changes position (.endBlock automatic) { c with scopes := c.scopes.tail } :=
      .endBlock automatic
    rw [scopes] at popped
    dsimp only
    split
    · exact popped
    · exact .nothing _

theorem context_resolveWatch (shared : Shared) (c : Context) (position : Int) (rule : List String → Rule)
    (complaint : String) :
    (c.resolveWatch shared position rule complaint).context = c ∨
      c.watch.running = true ∧ (c.resolveWatch shared position rule complaint).context =
        { c with watch := ⟨false, []⟩, scopes := ⟨rule c.watch.warnings, false⟩ :: c.scopes } := by
  unfold resolveWatch Watch.stop?
  cases c.watch.running with
  | false => exact .inl rfl
  | true => exact .inr ⟨rfl, rfl⟩

/-- There are no other changes. -/
theorem changes_of_react (h : c.react site depth shared position d = .ok r) :
    c.Changes position d r.context := by
  have resolved := context_resolveWatch shared c position
  cases d with
  | inclusion how target => exact changes_of_includeFile h
  | endBlock automatic => cases h; exact changes_of_endBlock shared c position automatic
  | thenBlock =>
    cases h
    rcases resolved .thenBlock "then: no watch to resolve" with e | ⟨running, e⟩
    · rw [e]; exact .nothing _
    · rw [e]; exact .thenBlock running
  | elseBlock =>
    cases h
    rcases resolved .elseBlock "else: no watch to resolve" with e | ⟨running, e⟩
    · rw [e]; exact .nothing _
    · rw [e]; exact .elseBlock running
  | warning text =>
    simp only [react] at h
    split at h <;> cases h
    · exact .collect text ‹_›
    · exact .nothing _
  | watch =>
    simp only [react, Watch.start?] at h
    cases running : c.watch.running with
    | false => rw [running] at h; cases h; exact .watch running
    | true => rw [running] at h; cases h; exact .nothing _
  | title text =>
    simp only [react] at h
    split at h <;> cases h <;> exact .nothing _
  | clean => cases h; exact .clean _
  | ignoreWarnings => cases h; exact .ignoreWarnings
  | ignoreText => cases h; exact .ignoreText
  | multiple ds => cases h; exact .multiple ds
  | close => cases h; exact .close
  | _ => cases h; exact .nothing _

/-! ## The parts of a file -/

/-- What a file keeps as long as it is open. -/
structure Same (c c' : Context) : Prop where
  path : c'.path = c.path
  stream : c'.stream = c.stream
  isRoot : c'.isRoot = c.isRoot
  lineage : c'.lineage = c.lineage

/-- No directive makes another file of the one it was read in. -/
theorem same_of_react (h : c.react site depth shared position d = .ok r) : c.Same r.context := by
  have changes := changes_of_react h
  generalize r.context = after at changes
  cases changes <;> exact ⟨rfl, rfl, rfl, rfl⟩

/-- The watch of a file goes on as it was, collects a warning, starts, or stops. -/
theorem watch_of_react (h : c.react site depth shared position d = .ok r) :
    r.context.watch = c.watch ∨
      (c.watch.running = true ∧ ∃ text, d = .warning text ∧ r.context.watch = c.watch.collect text) ∨
      (c.watch.running = false ∧ d = .watch ∧ r.context.watch = ⟨true, []⟩) ∨
      (c.watch.running = true ∧ (d = .thenBlock ∨ d = .elseBlock ∨ d = .close) ∧
        r.context.watch = ⟨false, []⟩) := by
  have changes := changes_of_react h
  generalize r.context = after at changes
  cases changes with
  | collect text running => exact .inr (.inl ⟨running, text, rfl, rfl⟩)
  | watch asleep => exact .inr (.inr (.inl ⟨asleep, rfl, rfl⟩))
  | thenBlock running => exact .inr (.inr (.inr ⟨running, .inl rfl, rfl⟩))
  | elseBlock running => exact .inr (.inr (.inr ⟨running, .inr (.inl rfl), rfl⟩))
  | close =>
    cases running : c.watch.running with
    | false => exact .inl (by simp [left, Watch.stop?, running])
    | true => exact .inr (.inr (.inr ⟨rfl, .inr (.inr rfl), by simp [left, Watch.stop?, running]⟩))
  | _ => exact .inl rfl

/-- The open blocks of a file stay, or the innermost one ends, or a block begins: a `then` or `else` block
with the warnings of the watch that it stops. -/
theorem scopes_of_react (h : c.react site depth shared position d = .ok r) :
    r.context.scopes = c.scopes ∨
      (∃ automatic, d = .endBlock automatic ∧ r.context.scopes = c.scopes.tail) ∨
      (d = .ignoreWarnings ∧ r.context.scopes = ⟨.ignoreWarnings, false⟩ :: c.scopes) ∨
      (d = .ignoreText ∧ r.context.scopes = ⟨.ignoreText, false⟩ :: c.scopes) ∨
      (d = .thenBlock ∧ r.context.watch = ⟨false, []⟩ ∧
        r.context.scopes = ⟨.thenBlock c.watch.warnings, false⟩ :: c.scopes) ∨
      (d = .elseBlock ∧ r.context.watch = ⟨false, []⟩ ∧
        r.context.scopes = ⟨.elseBlock c.watch.warnings, false⟩ :: c.scopes) := by
  have changes := changes_of_react h
  generalize r.context = after at changes
  cases changes with
  | endBlock automatic => exact .inr (.inl ⟨automatic, rfl, rfl⟩)
  | ignoreWarnings => exact .inr (.inr (.inl ⟨rfl, rfl⟩))
  | ignoreText => exact .inr (.inr (.inr (.inl ⟨rfl, rfl⟩)))
  | thenBlock => exact .inr (.inr (.inr (.inr (.inl ⟨rfl, rfl, rfl⟩))))
  | elseBlock => exact .inr (.inr (.inr (.inr (.inr ⟨rfl, rfl, rfl⟩))))
  | _ => exact .inl rfl

/-- A file that stays open is given to read again what was put in the place of a directive, or what is wrong
with an inclusion. -/
theorem reader_of_react (h : c.react site depth shared position d = .ok r) (stays : r.move ≠ .leave) :
    r.context.reader = c.reader ∨
      (∃ ds, d = .multiple ds ∧ r.context.reader = c.reader.pushBack position ds) ∨
      ∃ how target text, d = .inclusion how target ∧
        r.context.reader = c.reader.pushBack position [.warning text] := by
  have stillOpen : d ≠ .close := by
    rintro rfl
    cases h
    exact stays rfl
  have changes := changes_of_react h
  generalize r.context = after at changes
  cases changes with
  | multiple ds => exact .inr (.inl ⟨ds, rfl, rfl⟩)
  | inclusion how target text => exact .inr (.inr ⟨how, target, text, rfl, rfl⟩)
  | close => exact absurd rfl stillOpen
  | _ => exact .inl rfl

/-! ## Inclusions -/

section Inclusions

variable {how : Inclusion} {target : String} {file : Path} {why : BadTarget} {stream : Stream}

theorem includeFile_of_unresolved (resolved : site.resolve target c.directory = .error (.bad why)) :
    c.includeFile site depth shared position how target = .ok (c.reject shared position how target why) := by
  rw [includeFile, resolved]

theorem includeFile_of_taken (resolved : site.resolve target c.directory = .ok file)
    (old : shared.alreadyTaken c.lineage how file = true) :
    c.includeFile site depth shared position how target = .ok (c.skip shared how file) := by
  rw [includeFile, resolved]
  exact if_pos old

theorem includeFile_of_unopened (resolved : site.resolve target c.directory = .ok file)
    (fresh : shared.alreadyTaken c.lineage how file = false)
    (opened : site.openTarget file = .error (.bad why)) :
    c.includeFile site depth shared position how target = .ok (c.reject shared position how target why) := by
  rw [includeFile, resolved]
  simp only [fresh, opened, Bool.false_eq_true, if_false]

theorem includeFile_of_opened (resolved : site.resolve target c.directory = .ok file)
    (fresh : shared.alreadyTaken c.lineage how file = false) (opened : site.openTarget file = .ok stream) :
    c.includeFile site depth shared position how target = .ok (c.enter shared depth how file stream) := by
  rw [includeFile, resolved]
  simp only [fresh, opened, Bool.false_eq_true, if_false]

end Inclusions

/-! ## Warnings that are shown -/

/-- A warning as an entry that comes from a file. -/
def warningEntry (c : Context) (position : Int) (text : String) : Entry :=
  ⟨text, c.path, position, .warning, {}⟩

@[simp] theorem entriesOf_warn (c : Context) (position : Int) (text : String) :
    entriesOf (c.warn position text) = [c.warningEntry position text] := rfl

/-- The end of a file shows what its watch holds, after a warning that it was not stopped. -/
theorem entriesOf_leaving (running : c.watch.running = true) :
    entriesOf (c.leaving depth) =
      ("watch was not closed by then or else before end of file" :: c.watch.warnings).map
        (c.warningEntry c.reader.position) := by
  have shown : ∀ ws : List String, entriesOf (ws.map (c.entry c.reader.position · .warning)) =
      ws.map (c.warningEntry c.reader.position) := by
    intro ws
    rw [entriesOf, List.filterMap_map]
    exact congrFun List.filterMap_eq_map' ws
  rw [entriesOf_leaving_eq, flush, Watch.stop?, if_pos running]
  simp only [entriesOf_append, shown, entriesOf_warn]
  rfl

/-! ## Files put on top -/

theorem stream_of_child (c : Context) (shared : Shared) (how : Inclusion) (file : Path) (stream : Stream) :
    (c.child shared how file stream).1.stream = shared.opened := by
  cases how <;> rfl

theorem opened_of_child (c : Context) (shared : Shared) (how : Inclusion) (file : Path) (stream : Stream) :
    (c.child shared how file stream).2.opened = shared.opened + 1 := by
  cases how <;> rfl

/-- A file is put on top of another only by an inclusion whose target was found, is new, and was opened. -/
theorem react_enter {child : Context} (h : c.react site depth shared position d = .ok r)
    (moves : r.move = .enter child) :
    ∃ how target file stream, d = .inclusion how target ∧ site.resolve target c.directory = .ok file ∧
      shared.alreadyTaken c.lineage how file = false ∧ site.openTarget file = .ok stream ∧
      r = c.enter shared depth how file stream ∧ child = (c.child shared how file stream).1 := by
  cases d with
  | inclusion how target =>
    simp only [react, includeFile] at h
    cases resolved : site.resolve target c.directory with
    | error obstacle =>
      rw [resolved] at h
      cases obstacle <;> cases h
      cases moves
    | ok file =>
      rw [resolved] at h
      dsimp only at h
      split at h
      · cases h; cases moves
      · rename_i fresh
        cases opened : site.openTarget file with
        | error obstacle =>
          rw [opened] at h
          cases obstacle <;> cases h
          cases moves
        | ok stream =>
          rw [opened] at h
          cases h
          cases moves
          exact ⟨how, target, file, stream, rfl, resolved, by simpa using fresh, opened, rfl, rfl⟩
  | endBlock automatic =>
    cases h
    rw [(steady_of_endBlock shared c position automatic).1.stays] at moves
    cases moves
  | thenBlock =>
    cases h
    rw [(steady_of_resolveWatch .thenBlock _).1.stays] at moves
    cases moves
  | elseBlock =>
    cases h
    rw [(steady_of_resolveWatch .elseBlock _).1.stays] at moves
    cases moves
  | _ =>
    simp only [react] at h
    repeat' split at h
    all_goals cases h
    all_goals cases moves

/-- A file is left only at its end. -/
theorem react_leave (h : c.react site depth shared position d = .ok r) (moves : r.move = .leave) :
    d = .close := by
  cases d with
  | close => rfl
  | inclusion how target =>
    simp only [react, includeFile] at h
    repeat' split at h
    all_goals cases h
    all_goals cases moves
  | endBlock automatic =>
    cases h
    rw [(steady_of_endBlock shared c position automatic).1.stays] at moves
    cases moves
  | thenBlock =>
    cases h
    rw [(steady_of_resolveWatch .thenBlock _).1.stays] at moves
    cases moves
  | elseBlock =>
    cases h
    rw [(steady_of_resolveWatch .elseBlock _).1.stays] at moves
    cases moves
  | _ =>
    simp only [react] at h
    repeat' split at h
    all_goals cases h
    all_goals cases moves

/-- No directive takes back an opening. -/
theorem opened_le_of_react (h : c.react site depth shared position d = .ok r) :
    shared.opened ≤ r.shared.opened := by
  cases d with
  | inclusion how target =>
    simp only [react, includeFile] at h
    repeat' split at h
    all_goals cases h
    · exact Nat.le_refl _
    · exact Nat.le_refl _
    · exact Nat.le_refl _
    · exact Nat.le_of_lt (by rw [enter, opened_of_child]; omega)
  | endBlock automatic =>
    cases h
    unfold endBlock
    repeat' split
    all_goals exact Nat.le_refl _
  | thenBlock =>
    cases h
    unfold resolveWatch
    split <;> exact Nat.le_refl _
  | elseBlock =>
    cases h
    unfold resolveWatch
    split <;> exact Nat.le_refl _
  | _ =>
    simp only [react] at h
    repeat' split at h
    all_goals cases h
    all_goals exact Nat.le_refl _

/-- A directive that puts no file on top adds no source and opens no stream. -/
theorem visits_nothing (h : c.react site depth shared position d = .ok r)
    (moves : ∀ child, r.move ≠ .enter child) :
    r.shared.sources = shared.sources ∧ r.shared.opened = shared.opened := by
  cases d with
  | inclusion how target =>
    simp only [react, includeFile] at h
    repeat' split at h
    all_goals cases h
    · exact ⟨rfl, rfl⟩
    · exact ⟨rfl, rfl⟩
    · exact ⟨rfl, rfl⟩
    · exact absurd rfl (moves _)
  | endBlock automatic =>
    cases h
    unfold endBlock
    repeat' split
    all_goals exact ⟨rfl, rfl⟩
  | thenBlock =>
    cases h
    unfold resolveWatch
    split <;> exact ⟨rfl, rfl⟩
  | elseBlock =>
    cases h
    unfold resolveWatch
    split <;> exact ⟨rfl, rfl⟩
  | _ =>
    simp only [react] at h
    repeat' split at h
    all_goals cases h
    all_goals exact ⟨rfl, rfl⟩

/-- Every directive but an inclusion is carried out. -/
theorem exists_react (h : ∀ how target, d ≠ .inclusion how target) :
    ∃ r, c.react site depth shared position d = .ok r := by
  cases d with
  | inclusion how target => exact absurd rfl (h how target)
  | title text => cases root : c.isRoot <;> simp [react, root]
  | warning text => cases running : c.watch.running <;> simp [react, running]
  | watch => cases started : c.watch.start? <;> simp [react, started]
  | _ => exact ⟨_, rfl⟩

/-- What is wrong with a target that ends a build. -/
theorem ofText_of_includeFile {how : Inclusion} {target : String} {why : Abort}
    (failed : c.includeFile site depth shared position how target = .error why) : why.OfText := by
  unfold includeFile at failed
  split at failed
  · rename_i stop resolved
    cases failed
    unfold Site.resolve at resolved
    repeat' split at resolved
    all_goals cases resolved
    exact .flawed _
  · cases failed
  · split at failed
    · cases failed
    · split at failed
      · rename_i stop opened
        cases failed
        unfold Site.openTarget at opened
        split at opened <;> cases opened
        · exact .unknownEncoding _
        · exact .nulInEncoding
      · cases failed
      · cases failed

end Context

end Menu
