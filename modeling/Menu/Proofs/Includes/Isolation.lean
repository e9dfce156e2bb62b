import Menu.Proofs.Context.Commands
import Menu.Proofs.Includes.Once

/-!
# Files below stay as they are

While a file is included, those below it wait.  Nothing of them changes until it is left, the including file among
them, which has read its inclusion by then.  What they hold by a handle may change, but only in one way: a file
that is sourced gives arguments to the command of the file that includes it, and takes files into its lineage.

* `Pool.Later` and `Shared.Later`: what may become of shared values of which only some are free to change.
* `Context.Confined`: a file that can change only what is free.  A step keeps this of each file above
  (`later_of_reaction`), and all steps do as long as the file is open (`isolated_of_recorded`).
* `held_of_recorded`: the open files hold valid handles.
* `below_isolated`: what an included file leaves as it was.
-/

namespace Menu

/-! ## Shared values of which some are free to change -/

namespace Pool

section

variable {α : Type} {p q : Pool α} {h k : Handle}

theorem holds_add (a : α) (held : p.Holds h) : (p.add a).1.Holds h := by
  simp only [add, Holds, List.length_append] at held ⊢
  exact Nat.lt_add_right _ held

theorem holds_add_self (p : Pool α) (a : α) : (p.add a).1.Holds (p.add a).2 := by
  simp [add, Holds]

theorem not_holds_add (p : Pool α) (a : α) : ¬ p.Holds (p.add a).2 :=
  Nat.lt_irrefl _

theorem holds_modify_iff (f : α → α) : (p.modify k f).Holds h ↔ p.Holds h := by
  simp [modify, Holds]

end

section

variable {α : Type} [Inhabited α] {R : α → α → Prop} {free : Handle → Prop} {p q : Pool α} {k : Handle}

/-- A pool `q` that comes of `p` when values move by `R`, and those that are not free stay. -/
structure Later (R : α → α → Prop) (free : Handle → Prop) (p q : Pool α) : Prop where
  holds : ∀ h, p.Holds h → q.Holds h
  moved : ∀ h, p.Holds h → R (p.get h) (q.get h)
  kept : ∀ h, p.Holds h → ¬ free h → q.get h = p.get h

namespace Later

theorem refl (still : ∀ a, R a a) (p : Pool α) : p.Later R free p :=
  ⟨fun _ held => held, fun _ _ => still _, fun _ _ _ => rfl⟩

theorem add (later : p.Later R free q) (a : α) : p.Later R free (q.add a).1 where
  holds h held := holds_add a (later.holds h held)
  moved h held := by
    rw [get_add_of_holds a (later.holds h held)]
    exact later.moved h held
  kept h held guarded := by
    rw [get_add_of_holds a (later.holds h held)]
    exact later.kept h held guarded

theorem modify (later : p.Later R free q) {f : α → α} (moves : ∀ a b, R a b → R a (f b))
    (allowed : p.Holds k → free k) : p.Later R free (q.modify k f) where
  holds h held := (holds_modify_iff f).2 (later.holds h held)
  moved h held := by
    by_cases here : k = h
    · subst here
      rw [get_modify_self f (later.holds k held)]
      exact moves _ _ (later.moved k held)
    · rw [get_modify_of_ne f here]
      exact later.moved h held
  kept h held guarded := by
    have other : k ≠ h := fun here => guarded (here ▸ allowed (here ▸ held))
    rw [get_modify_of_ne f other]
    exact later.kept h held guarded

end Later

end

end Pool

/-- What is shared, `t`, when it was `s` before and only these commands and lineages were free to change: commands
get more arguments, and lineages more files. -/
structure Shared.Later (commands lineages : Handle → Prop) (s t : Shared) : Prop where
  cells : s.cells.Later Template.Extends commands t.cells
  lineages : s.lineages.Later (· ⊆ ·) lineages t.lineages

theorem Shared.Later.refl {commands lineages : Handle → Prop} (s : Shared) : s.Later commands lineages s :=
  ⟨.refl .refl _, .refl List.Subset.refl _⟩

/-! ## Files that can change only what is free -/

namespace Context

variable {commands lineages : Handle → Prop} {s shared : Shared} {c : Context}

/-- A file that can change, of what was shared as `s`, only what is free. -/
structure Confined (commands lineages : Handle → Prop) (s : Shared) (c : Context) : Prop where
  cell : c.Literal ∨ (s.cells.Holds c.cell → commands c.cell)
  lineage : s.lineages.Holds c.lineage → lineages c.lineage

/-- A file is confined when it is put on top, if it is not sourced or what it takes over is free. -/
theorem later_of_child (later : s.Later commands lineages shared) (how : Inclusion)
    (allowed : how = .sourcing →
      (s.cells.Holds c.cell → commands c.cell) ∧ (s.lineages.Holds c.lineage → lineages c.lineage))
    (file : Path) (stream : Stream) :
    s.Later commands lineages (c.child shared how file stream).2 ∧
      (c.child shared how file stream).1.Confined commands lineages s := by
  have fresh : ∀ files, ¬ s.lineages.Holds (shared.lineages.add files).2 := fun files held =>
    shared.lineages.not_holds_add files (later.lineages.holds _ held)
  cases how with
  | importing =>
    have new : ¬ s.cells.Holds (shared.cells.add {}).2 := fun held =>
      shared.cells.not_holds_add {} (later.cells.holds _ held)
    exact ⟨⟨later.cells.add {}, later.lineages.add [file]⟩, .inr fun held => absurd held new,
      fun held => absurd held (fresh [file])⟩
  | sourcing =>
    obtain ⟨cell, lineage⟩ := allowed rfl
    have grown : s.lineages.Later (· ⊆ ·) lineages (shared.lineages.modify c.lineage (file :: ·)) :=
      later.lineages.modify (fun _ _ sub => List.subset_cons_of_subset _ sub) lineage
    exact ⟨⟨later.cells, grown⟩, .inr cell, lineage⟩
  | lines =>
    exact ⟨⟨later.cells, later.lineages.add []⟩, .inl ⟨rfl, rfl⟩, fun held => absurd held (fresh [])⟩

/-- A directive that changes a command changes one that is free, and leaves a file with a free one or a new one. -/
theorem later_of_commands {cells after : Pool Template} {cell : Handle} {d : Directive}
    (later : s.cells.Later Template.Extends commands cells) (allowed : s.cells.Holds c.cell → commands c.cell)
    (changed : c.Commands cells d cell after) :
    s.cells.Later Template.Extends commands after ∧ (s.cells.Holds cell → commands cell) := by
  cases changed with
  | same => exact ⟨later, allowed⟩
  | clean =>
    have new : ¬ s.cells.Holds (cells.add {}).2 := fun held => cells.not_holds_add {} (later.holds _ held)
    exact ⟨later.add {}, fun held => absurd held new⟩
  | argument => exact ⟨later.modify (fun _ _ more => more.addTo _) allowed, allowed⟩

theorem Commands.held {cells after : Pool Template} {cell : Handle} {d : Directive}
    (changed : c.Commands cells d cell after) (held : cells.Holds c.cell) : after.Holds cell := by
  cases changed with
  | same => exact held
  | clean => exact cells.holds_add_self {}
  | argument => exact (Pool.holds_modify_iff _).2 held

theorem held_of_child (held : shared.cells.Holds c.cell) (how : Inclusion) (file : Path) (stream : Stream) :
    (c.child shared how file stream).2.cells.Holds (c.child shared how file stream).1.cell := by
  rcases c.commands_of_child shared how file stream with ⟨-, cell, cells⟩ | ⟨-, cell, cells⟩
  · rw [cell, cells]
    exact shared.cells.holds_add_self {}
  · rw [cell, cells]
    exact held

end Context

namespace Build

variable {m : Markers} {site : Site} {path : Path} {stream : Stream} {log earlier later : List Moment}
  {b next last : Build} {c : Context} {below files : List Context} {s shared : Shared} {r : Reaction}
  {seen : List Event} {commands lineages : Handle → Prop}

/-- A file that is read for its lines changes nothing that is shared. -/
theorem shared_of_literal (literal : c.Literal) {item : Except ReadFailure (Int × Directive)}
    (h : reactionTo site shared (c.readOn m) below item = .ok r) : r.shared = shared := by
  rcases reactionTo_cases h with ⟨position, d, -, h⟩ | ⟨why, -, rfl⟩
  · exact Context.shared_eq_of_literal (c := c.readOn m) literal.scopes h
  · rfl

/-- A confined file changes what is free, stays confined, and puts only confined files on top. -/
theorem later_of_reaction (later : s.Later commands lineages shared) (confined : c.Confined commands lineages s)
    (h : reactionTo site shared (c.readOn site.markers) below (c.reader.read site.markers).1 = .ok r) :
    s.Later commands lineages r.shared ∧ (r.move ≠ .leave → r.context.Confined commands lineages s) ∧
      ∀ child, r.move = .enter child → child.Confined commands lineages s := by
  obtain ⟨same, -⟩ := same_of_reaction h
  have lineage : s.lineages.Holds r.context.lineage → lineages r.context.lineage := by
    rw [same.lineage]
    exact confined.lineage
  rcases confined.cell with literal | allowed
  · obtain ⟨-, outcome⟩ := literal_of_reaction literal h
    refine ⟨shared_of_literal literal h ▸ later, fun stays => ?_, fun child moves => ?_⟩
    · rcases outcome with leaves | ⟨-, literal, -⟩
      · exact absurd leaves stays
      · exact ⟨.inl literal, lineage⟩
    · rcases outcome with leaves | ⟨stays, -⟩
      · rw [moves] at leaves
        cases leaves
      · rw [moves] at stays
        cases stays
  · by_cases enters : ∃ child, r.move = .enter child
    · obtain ⟨child, moves⟩ := enters
      obtain ⟨_, _, how, _, file, stream, _, _, _, _, _, rfl, rfl⟩ := reaction_enter h moves
      obtain ⟨grown, inner⟩ := Context.later_of_child (c := c.readOn site.markers) later how
        (fun _ => ⟨allowed, confined.lineage⟩) file stream
      refine ⟨grown, fun _ => ⟨.inr allowed, lineage⟩, fun other moves => ?_⟩
      cases moves
      exact inner
    · have moves : ∀ child, r.move ≠ .enter child := fun child moves => enters ⟨child, moves⟩
      obtain ⟨kept, -⟩ := opens_nothing h moves
      rcases reaction_cases h with ⟨position, d, -, h⟩ | ⟨why, -, rfl⟩
      · obtain ⟨cells, cell⟩ := Context.later_of_commands (c := c.readOn site.markers) later.cells allowed
          (Context.commands_of_react h moves)
        exact ⟨⟨cells, kept.lineages ▸ later.lineages⟩, fun _ => ⟨.inr cell, lineage⟩,
          fun child entered => absurd entered (moves child)⟩
      · refine ⟨later, fun stays => absurd rfl stays, fun child moves => ?_⟩
        cases moves

/-- Whatever happens, commands get more arguments and lineages more files. -/
theorem later_of_step (taken : b.step site = (.ok next, seen)) :
    b.shared.Later (fun _ => True) (fun _ => True) next.shared := by
  obtain ⟨stack, shared⟩ := b
  cases stack with
  | nil =>
    cases taken
    exact .refl shared
  | cons c below =>
    obtain ⟨r, h, rfl, -⟩ := exists_reaction taken
    have free : c.Confined (fun _ => True) (fun _ => True) shared := ⟨.inr fun _ => trivial, fun _ => trivial⟩
    obtain ⟨later, -⟩ := later_of_reaction (.refl shared) free h
    rw [shared_settle]
    exact later

/-! ## Handles -/

theorem held_of_step (held : ∀ c ∈ b.stack, b.shared.cells.Holds c.cell)
    (taken : b.step site = (.ok next, seen)) : ∀ c ∈ next.stack, next.shared.cells.Holds c.cell := by
  have later := later_of_step taken
  obtain ⟨stack, shared⟩ := b
  cases stack with
  | nil =>
    cases taken
    exact held
  | cons c below =>
    obtain ⟨r, h, settled, -⟩ := exists_reaction taken
    have kept : next.shared = r.shared := by rw [settled, shared_settle]
    rw [kept] at later ⊢
    obtain ⟨own, others⟩ := List.forall_mem_cons.1 held
    intro file mem
    rcases mem_settle (settled ▸ mem) with old | ⟨rfl, stays⟩ | moves
    · exact later.cells.holds _ (others file old)
    · by_cases enters : ∃ child, r.move = .enter child
      · obtain ⟨child, moves⟩ := enters
        obtain ⟨_, _, _, _, _, _, _, _, _, _, _, rfl, -⟩ := reaction_enter h moves
        exact later.cells.holds _ own
      · rcases reaction_cases h with ⟨position, d, -, h⟩ | ⟨why, -, rfl⟩
        · exact (Context.commands_of_react h fun child moves => enters ⟨child, moves⟩).held own
        · exact absurd rfl stays
    · obtain ⟨_, _, how, _, path, stream, _, _, _, _, _, rfl, rfl⟩ := reaction_enter h moves
      exact Context.held_of_child (c := c.readOn site.markers) own how path stream

/-- The open files hold commands and lineages that are there. -/
theorem held_of_recorded (recorded : Recorded m path stream log b) :
    ∀ c ∈ b.stack, b.shared.cells.Holds c.cell ∧ b.shared.lineages.Holds c.lineage := by
  have commands : ∀ c ∈ b.stack, b.shared.cells.Holds c.cell := by
    induction recorded with
    | start => exact List.forall_mem_singleton.2 Nat.zero_lt_one
    | step site _ _ _ taken ih => exact held_of_step ih taken
  have tracks := tracks_of_recorded recorded
  exact fun c mem => ⟨commands c mem, (tracks.taken _ (List.mem_map_of_mem mem)).1⟩

/-! ## One step and all steps -/

/-- The files above `files` are confined, and only what is free has changed since `s` was shared. -/
structure Isolated (commands lineages : Handle → Prop) (s : Shared) (files : List Context) (b : Build) : Prop where
  later : s.Later commands lineages b.shared
  above : ∃ above, b.stack = above ++ files ∧ ∀ c ∈ above, c.Confined commands lineages s

theorem isolated_of_step (isolated : Isolated commands lineages s files b)
    (deeper : files.length < b.stack.length) (taken : b.step site = (.ok next, seen)) :
    Isolated commands lineages s files next := by
  obtain ⟨stack, shared⟩ := b
  obtain ⟨later, above, rfl, confined⟩ := isolated
  cases above with
  | nil => exact absurd deeper (Nat.lt_irrefl _)
  | cons c above =>
    obtain ⟨own, others⟩ := List.forall_mem_cons.1 confined
    have taken : step site ⟨c :: (above ++ files), shared⟩ = (.ok next, seen) := taken
    obtain ⟨r, h, rfl, -⟩ := exists_reaction taken
    obtain ⟨grown, still, inner⟩ := later_of_reaction later own h
    cases moves : r.move with
    | leave =>
      rw [settle, moves]
      exact ⟨grown, above, rfl, others⟩
    | stay =>
      rw [settle, moves]
      exact ⟨grown, r.context :: above, rfl, List.forall_mem_cons.2 ⟨still (by simp [moves]), others⟩⟩
    | enter child =>
      rw [settle, moves]
      have kept : ∀ file ∈ r.context :: above, file.Confined commands lineages s :=
        List.forall_mem_cons.2 ⟨still (by simp [moves]), others⟩
      exact ⟨grown, child :: r.context :: above, rfl, List.forall_mem_cons.2 ⟨inner child moves, kept⟩⟩

/-- The steps taken while more than `files` are open keep them, and what is not free. -/
theorem isolated_of_recorded {first : Moment}
    (recorded : Recorded m path stream (later ++ first :: earlier) last)
    (isolated : Isolated commands lineages s files first.after)
    (deeper : ∀ mo ∈ later, files.length < mo.before.stack.length) :
    Isolated commands lineages s files last := by
  induction later generalizing last with
  | nil =>
    cases recorded
    exact isolated
  | cons mo later ih =>
    obtain ⟨now, before⟩ := List.forall_mem_cons.1 deeper
    cases recorded with
    | step site recorded _ _ taken => exact isolated_of_step (ih recorded before) now taken

/-! ## An included file -/

/-- **What an included file leaves as it was.**  From the step that puts it on top until it is left, the files
below stay as they are, the including one just past its inclusion.  The commands and the lineages that they hold
stay as well if the file is imported or included for its lines.  If it is sourced, arguments may be put behind
those of the including file's command, files may come into its lineage, and all others stay.  At no step does a
lineage lose a file. -/
theorem below_isolated
    (recorded : Recorded m path stream (later ++ ⟨⟨c :: below, shared⟩, seen, next⟩ :: earlier) last)
    (pushed : below.length + 1 < next.stack.length)
    (deeper : ∀ mo ∈ later, below.length + 1 < mo.before.stack.length) :
    ∃ how target above,
      dispatched? m ⟨c :: below, shared⟩ = some (.inclusion how target) ∧
      last.stack = above ++ c.readOn m :: below ∧
      (how ≠ .sourcing → ∀ file ∈ c :: below,
        last.shared.cells.get file.cell = shared.cells.get file.cell ∧
        last.shared.lineages.get file.lineage = shared.lineages.get file.lineage) ∧
      (how = .sourcing →
        (shared.cells.get c.cell).Extends (last.shared.cells.get c.cell) ∧
        ∀ file ∈ c :: below,
          (file.cell ≠ c.cell → last.shared.cells.get file.cell = shared.cells.get file.cell) ∧
          (file.lineage ≠ c.lineage →
            last.shared.lineages.get file.lineage = shared.lineages.get file.lineage)) ∧
      ∀ mo ∈ later ++ ⟨⟨c :: below, shared⟩, seen, next⟩ :: earlier, ∀ h, mo.before.shared.lineages.Holds h →
        mo.before.shared.lineages.get h ⊆ mo.after.shared.lineages.get h := by
  obtain ⟨before, -, site, rfl, taken⟩ := recorded.moment
  have before : Recorded site.markers path stream earlier ⟨c :: below, shared⟩ := before
  have taken : step site ⟨c :: below, shared⟩ = (.ok next, seen) := taken
  have held := held_of_recorded before
  obtain ⟨how, target, file, stream, dispatched, -, -, -, entered⟩ := opened_of_pushed taken pushed
  obtain ⟨grown, inner⟩ : shared.Later (fun h => how = .sourcing ∧ h = c.cell)
      (fun h => how = .sourcing ∧ h = c.lineage) ((c.readOn site.markers).child shared how file stream).2 ∧ _ :=
    Context.later_of_child (.refl shared) how (fun sourcing => ⟨fun _ => ⟨sourcing, rfl⟩, fun _ => ⟨sourcing, rfl⟩⟩)
      file stream
  have isolated : Isolated (fun h => how = .sourcing ∧ h = c.cell) (fun h => how = .sourcing ∧ h = c.lineage)
      shared (c.readOn site.markers :: below) next := by
    rw [entered]
    exact ⟨grown, [_], rfl, List.forall_mem_singleton.2 inner⟩
  obtain ⟨kept, above, stack, -⟩ := isolated_of_recorded recorded isolated deeper
  refine ⟨how, target, above, dispatched, stack, fun other f mem => ?_, fun sourcing => ⟨?_, fun f mem => ?_⟩, ?_⟩
  · obtain ⟨cell, lineage⟩ := held f mem
    exact ⟨kept.cells.kept _ cell fun e => other e.1, kept.lineages.kept _ lineage fun e => other e.1⟩
  · exact kept.cells.moved _ (held c List.mem_cons_self).1
  · obtain ⟨cell, lineage⟩ := held f mem
    exact ⟨fun other => kept.cells.kept _ cell fun e => other e.2,
      fun other => kept.lineages.kept _ lineage fun e => other e.2⟩
  · intro mo mem h held
    obtain ⟨after, before, split⟩ := List.append_of_mem mem
    obtain ⟨-, -, _, -, taken⟩ := (split ▸ recorded).moment
    exact (later_of_step taken).lineages.moved h held

/-- A file is sourced that gives an argument to the command of the document, takes a command of its own, and gives
that one an argument too. -/
theorem below_isolated_of_source :
    ∃ later c shared seen next last,
      Recorded {} ⟨.root, ["menu"]⟩ (.ofLines ["#-source s"]) (later ++ [⟨⟨[c], shared⟩, seen, next⟩]) last ∧
      last.stack = [c.readOn {}] ∧ last.shared.cells.values = [⟨["b"], []⟩, ⟨["c"], []⟩] ∧
      (shared.cells.get c.cell).Extends (last.shared.cells.get c.cell) := by
  have resolved : (Site.holding [("s", ["#-pre b", "#-clean", "#-pre c"])]).resolve "s" ⟨.root, []⟩ =
      .ok ⟨.root, ["s"]⟩ := Site.resolve_holding (by decide) (by decide +kernel) rfl rfl
  have fresh : (start ⟨.root, ["menu"]⟩ (.ofLines ["#-source s"])).shared.alreadyTaken 0 .sourcing
      ⟨.root, ["s"]⟩ = false := by decide +kernel
  have begun : Recorded {} ⟨.root, ["menu"]⟩ (.ofLines ["#-source s"]) [] _ := .start
  have pushed := begun.step (.holding [("s", ["#-pre b", "#-clean", "#-pre c"])]) rfl nofun
    (step_of_opened (c := ⟨⟨.root, ["menu"]⟩, 0, true, { stream := .ofLines ["#-source s"] }, 0, 0, [], {}⟩)
      rfl rfl resolved fresh rfl)
  have given := pushed.step .bare rfl nofun rfl
  have cleaned := given.step .bare rfl nofun rfl
  have own := cleaned.step .bare rfl nofun rfl
  have ended := own.step .bare rfl nofun rfl
  have deeper : 1 < 2 := Nat.lt_succ_self 1
  obtain ⟨_, _, above, dispatched, stack, -, sourced, -⟩ :=
    below_isolated (c := ⟨⟨.root, ["menu"]⟩, 0, true, { stream := .ofLines ["#-source s"] }, 0, 0, [], {}⟩)
      (show Recorded {} ⟨.root, ["menu"]⟩ _ ([_, _, _, _] ++ [_]) _ from ended) deeper
      (List.forall_mem_cons.2 ⟨deeper, List.forall_mem_cons.2 ⟨deeper, List.forall_mem_cons.2
        ⟨deeper, List.forall_mem_cons.2 ⟨deeper, nofun⟩⟩⟩⟩)
  cases dispatched
  refine ⟨[_, _, _, _], _, _, _, _, _, ended, rfl, rfl, ?_⟩
  exact (sourced rfl).1

end Build

end Menu
