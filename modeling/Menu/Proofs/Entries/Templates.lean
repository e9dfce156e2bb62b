import Menu.Proofs.Context.Shown
import Menu.Proofs.Includes.Isolation

/-!
# The commands that texts carry

A text carries the command of its file as it is when the text is read.  Several files may have one command: a file
that is sourced or included for its lines has that of the file which includes it, until it takes one of its own.

What a command should have is read off the history.  `Deed` is all that a step can do to commands, `commandOf` says
which command a file has, by the deed that it began with, and `given` are the arguments that a command was given,
by whichever file had it then.

* `Carries.takes`, `Carries.joins`, `Carries.gives`: what each deed makes of the commands of the open files.
* `carries_of_recorded`: the commands of the open files are what the history says.
* `command_of_text`: so are those that texts carry, and nothing else carries one.
-/

namespace Menu

/-! ## Commands by their history -/

/-- What a step may do to commands; the files go by their numbers. -/
inductive Deed
  /-- A file takes a new command. -/
  | takes (file : Nat)
  /-- A file is put on top with the command of the file that includes it. -/
  | joins (file parent : Nat)
  /-- A file gives its command an argument. -/
  | gives (file : Nat) (arg : Argument)
deriving DecidableEq, Repr

namespace Deed

/-- The command of a file after some deeds, the last one first: the number of the deed that it began with, which
is 0 for the one that the document starts with. -/
def commandOf : List Deed → Nat → Nat
  | [], _ => 0
  | takes taker :: earlier, file => if taker = file then earlier.length + 1 else commandOf earlier file
  | joins joiner parent :: earlier, file =>
    if joiner = file then commandOf earlier parent else commandOf earlier file
  | gives _ _ :: earlier, file => commandOf earlier file

/-- The arguments that a command was given, one after the other, by the files that had it at the time. -/
def given : List Deed → Nat → List Argument
  | [], _ => []
  | gives giver arg :: earlier, command =>
    if commandOf earlier giver = command then given earlier command ++ [arg] else given earlier command
  | takes _ :: earlier, command => given earlier command
  | joins _ _ :: earlier, command => given earlier command

variable {done : List Deed} {file : Nat}

theorem commandOf_takes_of_ne {taker : Nat} (ne : file ≠ taker) :
    commandOf (takes taker :: done) file = commandOf done file :=
  if_neg ne.symm

theorem commandOf_joins_of_ne {joiner parent : Nat} (ne : file ≠ joiner) :
    commandOf (joins joiner parent :: done) file = commandOf done file :=
  if_neg ne.symm

/-- Every command began by now. -/
theorem commandOf_le (done : List Deed) (file : Nat) : commandOf done file ≤ done.length := by
  induction done generalizing file with
  | nil => exact Nat.le_refl _
  | cons deed earlier ih =>
    rw [List.length_cons]
    cases deed with
    | takes taker =>
      rw [commandOf]
      split
      · exact Nat.le_refl _
      · exact Nat.le_succ_of_le (ih file)
    | joins joiner parent =>
      rw [commandOf]
      split
      · exact Nat.le_succ_of_le (ih parent)
      · exact Nat.le_succ_of_le (ih file)
    | gives giver arg => exact Nat.le_succ_of_le (ih file)

/-- A command that has not begun was given nothing. -/
theorem given_of_length_lt {command : Nat} (unborn : done.length < command) : given done command = [] := by
  induction done with
  | nil => rfl
  | cons deed earlier ih =>
    have before : given earlier command = [] := ih (Nat.lt_of_succ_lt unborn)
    cases deed with
    | takes taker => exact before
    | joins joiner parent => exact before
    | gives giver arg =>
      have other : commandOf earlier giver ≠ command :=
        Nat.ne_of_lt (Nat.lt_of_le_of_lt (commandOf_le earlier giver) (Nat.lt_of_succ_lt unborn))
      rw [given, if_neg other, before]

end Deed

/-! ## What files hold and what the history says -/

open Deed

/-- Files, each with its number and the command it holds, have the commands that the deeds say. -/
structure Carries (done : List Deed) (cells : Pool Template) (files : List (Nat × Handle)) : Prop where
  carries : ∀ f ∈ files, cells.get f.2 = .ofArguments (given done (commandOf done f.1))
  shares : ∀ f ∈ files, ∀ f' ∈ files, f.2 = f'.2 ↔ commandOf done f.1 = commandOf done f'.1

namespace Carries

variable {done : List Deed} {cells : Pool Template} {files fewer : List (Nat × Handle)} {number : Nat}
  {cell : Handle}

theorem sub (carries : Carries done cells files) (sub : fewer ⊆ files) : Carries done cells fewer where
  carries f mem := carries.carries f (sub mem)
  shares f mem f' mem' := carries.shares f (sub mem) f' (sub mem')

/-- A new command has no arguments, and no other file has it. -/
theorem takes (carries : Carries done cells files) (held : ∀ f ∈ files, cells.Holds f.2)
    (others : ∀ f ∈ files, f.1 ≠ number) :
    Carries (.takes number :: done) (cells.add {}).1 ((number, (cells.add {}).2) :: files) := by
  have own : commandOf (.takes number :: done) number = done.length + 1 := if_pos rfl
  have same : ∀ f ∈ files, commandOf (.takes number :: done) f.1 = commandOf done f.1 := fun f mem =>
    commandOf_takes_of_ne (others f mem)
  have older : ∀ f ∈ files, f.2 ≠ (cells.add {}).2 ∧ commandOf done f.1 ≠ done.length + 1 := fun f mem =>
    ⟨Nat.ne_of_lt (held f mem), Nat.ne_of_lt (Nat.lt_succ_of_le (commandOf_le done f.1))⟩
  refine ⟨List.forall_mem_cons.2 ⟨?empty, fun f mem => ?before⟩, List.forall_mem_cons.2
    ⟨List.forall_mem_cons.2 ⟨⟨fun _ => rfl, fun _ => rfl⟩, fun f mem => ?apart⟩,
    fun f mem => List.forall_mem_cons.2 ⟨?apartToo, fun f' mem' => ?sharing⟩⟩⟩
  case empty =>
    rw [own, Pool.get_add_self, given, given_of_length_lt (Nat.lt_succ_self _)]
    rfl
  case before =>
    rw [same f mem, Pool.get_add_of_holds _ (held f mem)]
    exact carries.carries f mem
  case apart =>
    rw [own, same f mem]
    exact ⟨fun e => absurd e.symm (older f mem).1, fun e => absurd e.symm (older f mem).2⟩
  case apartToo =>
    rw [own, same f mem]
    exact ⟨fun e => absurd e (older f mem).1, fun e => absurd e (older f mem).2⟩
  case sharing =>
    rw [same f mem, same f' mem']
    exact carries.shares f mem f' mem'

/-- A file that joins another has its command. -/
theorem joins {parent : Nat} (carries : Carries done cells files) (mem : (parent, cell) ∈ files)
    (others : ∀ f ∈ files, f.1 ≠ number) :
    Carries (.joins number parent :: done) cells ((number, cell) :: files) := by
  have joined : commandOf (.joins number parent :: done) number = commandOf done parent := if_pos rfl
  have same : ∀ f ∈ files, commandOf (.joins number parent :: done) f.1 = commandOf done f.1 := fun f mem =>
    commandOf_joins_of_ne (others f mem)
  refine ⟨List.forall_mem_cons.2 ⟨?now, fun f mem => ?before⟩, List.forall_mem_cons.2
    ⟨List.forall_mem_cons.2 ⟨⟨fun _ => rfl, fun _ => rfl⟩, fun f mem' => ?joined⟩,
    fun f mem' => List.forall_mem_cons.2 ⟨?joinedToo, fun f' mem'' => ?sharing⟩⟩⟩
  case now =>
    rw [joined]
    exact carries.carries _ mem
  case before =>
    rw [same f mem]
    exact carries.carries f mem
  case joined =>
    rw [joined, same f mem']
    exact carries.shares _ mem f mem'
  case joinedToo =>
    rw [joined, same f mem']
    exact carries.shares f mem' _ mem
  case sharing =>
    rw [same f mem', same f' mem'']
    exact carries.shares f mem' f' mem''

/-- An argument is seen by the files that have the command, and by no others. -/
theorem gives (carries : Carries done cells files) (held : cells.Holds cell) (mem : (number, cell) ∈ files)
    (arg : Argument) : Carries (.gives number arg :: done) (cells.modify cell arg.addTo) files := by
  refine ⟨fun f mem' => ?_, carries.shares⟩
  rw [commandOf, given]
  by_cases here : cell = f.2
  · rw [if_pos ((carries.shares _ mem f mem').1 here), Template.ofArguments_concat, ← carries.carries f mem', ← here,
      Pool.get_modify_self _ held]
  · rw [if_neg fun e => here ((carries.shares _ mem f mem').2 e), Pool.get_modify_of_ne _ here]
    exact carries.carries f mem'

end Carries

/-! ## The deeds of a history -/

/-- What a directive does to commands that is read in a file and puts no other on top. -/
def Directive.deed? (file : Nat) : Directive → Option Deed
  | .clean => some (.takes file)
  | d => d.argument?.map (.gives file)

namespace Build

/-- What a step did to commands. -/
def Moment.deed? (m : Markers) (mo : Moment) : Option Deed :=
  match mo.opening? m with
  | some o => some (if o.how = .importing then .takes o.number else .joins o.number o.parent)
  | none =>
    match mo.before.stack.head?, mo.before.dispatched? m with
    | some c, some d => d.deed? c.stream
    | _, _ => none

/-- All that was done to commands, the last deed first. -/
def deeds (m : Markers) (log : List Moment) : List Deed :=
  log.filterMap (Moment.deed? m)

/-- The open files, each with its number and the command it holds. -/
def holders (stack : List Context) : List (Nat × Handle) :=
  stack.map fun c => (c.stream, c.cell)

variable {m : Markers} {site : Site} {path : Path} {stream : Stream} {log earlier later : List Moment}
  {mo : Moment} {b next last : Build} {c : Context} {below : List Context} {shared : Shared} {r : Reaction}
  {seen : List Event} {done : List Deed}

theorem deeds_cons (mo : Moment) (log : List Moment) : deeds m (mo :: log) = (mo.deed? m).toList ++ deeds m log := by
  rw [deeds, List.filterMap_cons]
  cases mo.deed? m <;> rfl

/-- A file that is put on top takes a new command if it is imported, and joins the one that includes it if not. -/
theorem carries_of_child {how : Inclusion} {file : Path} {files : List (Nat × Handle)}
    (carries : Carries done shared.cells files) (held : ∀ f ∈ files, shared.cells.Holds f.2)
    (mem : (c.stream, c.cell) ∈ files) (others : ∀ f ∈ files, f.1 ≠ shared.opened) :
    Carries ((if how = .importing then .takes shared.opened else .joins shared.opened c.stream) :: done)
      (c.child shared how file stream).2.cells
      (((c.child shared how file stream).1.stream, (c.child shared how file stream).1.cell) :: files) := by
  rw [c.stream_of_child]
  rcases c.commands_of_child shared how file stream with ⟨rfl, cell, cells⟩ | ⟨other, cell, cells⟩
  · rw [cell, cells, if_pos rfl]
    exact carries.takes held others
  · rw [cell, cells, if_neg other]
    exact carries.joins mem others

/-- A directive that puts no file on top does its deed to the file on top. -/
theorem carries_of_commands {cells : Pool Template} {d : Directive} {cell : Handle} {files : List (Nat × Handle)}
    (carries : Carries done shared.cells ((c.stream, c.cell) :: files))
    (held : ∀ f ∈ (c.stream, c.cell) :: files, shared.cells.Holds f.2) (others : ∀ f ∈ files, f.1 ≠ c.stream)
    (changed : c.Commands shared.cells d cell cells) :
    Carries ((d.deed? c.stream).toList ++ done) cells ((c.stream, cell) :: files) := by
  obtain ⟨own, heldToo⟩ := List.forall_mem_cons.1 held
  cases changed with
  | same other nothing =>
    have idle : d.deed? c.stream = none := by
      cases d with
      | clean => exact absurd rfl other
      | _ => simp [Directive.deed?, nothing]
    rw [idle]
    exact carries
  | clean => exact (carries.sub (List.subset_cons_self _ _)).takes heldToo others
  | argument gives =>
    rename_i arg
    have deed : d.deed? c.stream = some (.gives c.stream arg) := by
      cases d with
      | clean => cases gives
      | _ => simp only [Directive.deed?, gives]; rfl
    rw [deed]
    exact carries.gives own List.mem_cons_self _

theorem holders_settle (moves : ∀ child, r.move ≠ .enter child) :
    holders (settle below r).stack ⊆ (r.context.stream, r.context.cell) :: holders below := by
  cases moved : r.move with
  | stay => rw [settle, moved]; exact List.Subset.refl _
  | leave => rw [settle, moved]; exact List.subset_cons_self _ _
  | enter child => exact absurd moved (moves child)

theorem carries_of_step {after : List Deed} (numbered : b.Numbered)
    (held : ∀ c ∈ b.stack, b.shared.cells.Holds c.cell) (carries : Carries done b.shared.cells (holders b.stack))
    (taken : b.step site = (.ok next, seen))
    (history : after = (Moment.deed? site.markers ⟨b, seen, next⟩).toList ++ done) :
    Carries after next.shared.cells (holders next.stack) := by
  subst history
  obtain ⟨stack, shared⟩ := b
  cases stack with
  | nil =>
    cases taken
    exact carries
  | cons c below =>
    obtain ⟨r, h, rfl, rfl⟩ := exists_reaction taken
    obtain ⟨same, -⟩ := same_of_reaction h
    obtain ⟨newest, above, -⟩ := numbered_iff.1 numbered
    have held : ∀ f ∈ holders (c :: below), shared.cells.Holds f.2 := List.forall_mem_map.2 held
    by_cases enters : ∃ child, r.move = .enter child
    · obtain ⟨child, moves⟩ := enters
      obtain ⟨position, d, how, target, file, stream, read, inclusion, -, -, -, entered, rfl⟩ :=
        reaction_enter h moves
      have dispatched : dispatched? site.markers ⟨c :: below, shared⟩ = some (c.scopes.apply d) :=
        dispatched?_of_read read
      rw [show c.scopes.apply d = _ from inclusion] at dispatched
      subst entered
      have others : ∀ f ∈ holders (c :: below), f.1 ≠ shared.opened :=
        List.forall_mem_map.2 (List.forall_mem_cons.2
          ⟨Nat.ne_of_lt newest, fun c' mem => Nat.ne_of_lt (Nat.lt_trans (above c' mem) newest)⟩)
      rw [Moment.deed?, opening?_of_enter dispatched]
      exact carries_of_child (c := c.readOn site.markers) carries held List.mem_cons_self others
    · have moves : ∀ child, r.move ≠ .enter child := fun child moves => enters ⟨child, moves⟩
      obtain ⟨-, nothing⟩ := opens_nothing h moves
      have others : ∀ f ∈ holders below, f.1 ≠ c.stream :=
        List.forall_mem_map.2 fun c' mem => Nat.ne_of_lt (above c' mem)
      have top : (r.context.stream, r.context.cell) = (c.stream, r.context.cell) := by rw [same.stream]; rfl
      have sub : _ ⊆ _ :: holders below := top ▸ holders_settle moves
      rw [Moment.deed?, opening?_of_nothing nothing, shared_settle]
      rcases reaction_cases h with ⟨position, d, dispatched, h⟩ | ⟨why, read, rfl⟩
      · simp only [List.head?_cons, dispatched]
        exact (carries_of_commands (c := c.readOn site.markers) carries held others
          (Context.commands_of_react h moves)).sub sub
      · simp only [dispatched?, read]
        exact carries.sub sub

theorem carries_of_recorded (recorded : Recorded m path stream log b) :
    Carries (deeds m log) b.shared.cells (holders b.stack) := by
  induction recorded with
  | start =>
    refine ⟨List.forall_mem_singleton.2 rfl, fun f mem f' mem' => ?_⟩
    rw [List.mem_singleton.1 mem, List.mem_singleton.1 mem']
    exact ⟨fun _ => rfl, fun _ => rfl⟩
  | step site recorded same _ taken ih =>
    subst same
    have held := held_of_recorded recorded
    exact carries_of_step recorded.numbered (fun c mem => (held c mem).1) ih taken (deeds_cons _ _)

/-! ## What is shown -/

/-- A text is shown with the command of its file as it is now. -/
theorem entriesOf_text {position : Int} {d : Directive} {text : String}
    (taken : step site ⟨c :: below, shared⟩ = (.ok next, seen))
    (read : (c.reader.read site.markers).1 = .ok (position, d)) (applied : c.scopes.apply d = .text text) :
    entriesOf seen = [⟨text, c.path, position, .normal, shared.cells.get c.cell⟩] := by
  have shown : step site ⟨c :: below, shared⟩ = _ := step_of_react read (by rw [applied]; rfl)
  rw [taken] at shown
  cases shown
  rw [entriesOf_append, entriesOf_reading]
  rfl

/-- Only the entry of a text carries a command. -/
theorem command_of_mem (taken : b.step site = (.ok next, seen))
    (other : ∀ text, b.dispatched? site.markers ≠ some (.text text)) : ∀ e ∈ entriesOf seen, e.command = {} := by
  intro e mem
  obtain ⟨stack, shared⟩ := b
  cases stack with
  | nil =>
    cases taken
    cases mem
  | cons c below =>
    obtain ⟨r, h, -, rfl⟩ := exists_reaction taken
    rw [entriesOf_append, entriesOf_reading, List.nil_append] at mem
    rcases reaction_cases h with ⟨position, d, dispatched, h⟩ | ⟨why, -, rfl⟩
    · exact (Context.shows_of_react h).command (fun text same => other text (same ▸ dispatched)) e mem
    · rw [Context.abandon, entriesOf_append, Context.entriesOf_warn] at mem
      rcases List.mem_append.1 mem with mem | mem
      · rw [List.mem_singleton.1 mem]
        rfl
      · exact (Context.shows_of_leaving (c.readOn site.markers) shared 0 (below.length + 1)).command nofun e mem

/-- **The command of a text.**  The entry of a text carries the arguments that the command of its file was given
before, in their order, by all files that had this command at the time: since it began, with the document, with
the opening of an imported file, or with a `clean`.  Two open files hold the same command if it began with the same
deed.  No other entry carries arguments. -/
theorem command_of_text (recorded : Recorded m path stream (later ++ mo :: earlier) last) :
    (∀ c below position d text, mo.before.stack = c :: below → (c.reader.read m).1 = .ok (position, d) →
      c.scopes.apply d = .text text →
      entriesOf mo.seen =
        [⟨text, c.path, position, .normal,
          .ofArguments (given (deeds m earlier) (commandOf (deeds m earlier) c.stream))⟩]) ∧
    (∀ c ∈ mo.before.stack, ∀ c' ∈ mo.before.stack,
      c.cell = c'.cell ↔ commandOf (deeds m earlier) c.stream = commandOf (deeds m earlier) c'.stream) ∧
    ((∀ text, mo.before.dispatched? m ≠ some (.text text)) → ∀ e ∈ entriesOf mo.seen, e.command = {}) := by
  obtain ⟨before, -, site, rfl, taken⟩ := recorded.moment
  have carries := carries_of_recorded before
  refine ⟨fun c below position d text stack read applied => ?_, fun c mem c' mem' => ?_,
    fun other => command_of_mem taken other⟩
  · obtain ⟨⟨_, shared⟩, seen, next⟩ := mo
    cases stack
    have own : shared.cells.get c.cell =
        .ofArguments (given (deeds site.markers earlier) (commandOf (deeds site.markers earlier) c.stream)) :=
      carries.carries _ List.mem_cons_self
    rw [← own]
    exact entriesOf_text taken read applied
  · exact carries.shares _ (List.mem_map_of_mem mem) _ (List.mem_map_of_mem mem')

/-- A file is sourced that gives an argument to the command of the document and then takes one of its own.  A text
of the document behind it carries that argument. -/
theorem command_of_text_behind_source :
    ∃ mo earlier last,
      Recorded {} ⟨.root, ["menu"]⟩ (.ofLines ["#-source s", "t"]) (mo :: earlier) last ∧
      deeds {} earlier = [.takes 1, .gives 1 (.before "b"), .joins 1 0] ∧
      entriesOf mo.seen = [⟨"t", ⟨.root, ["menu"]⟩, 2, .normal, ⟨["b"], []⟩⟩] := by
  have resolved : (Site.holding [("s", ["#-pre b", "#-clean"])]).resolve "s" ⟨.root, []⟩ = .ok ⟨.root, ["s"]⟩ :=
    Site.resolve_holding (by decide) (by decide +kernel) rfl rfl
  have fresh : (start ⟨.root, ["menu"]⟩ (.ofLines ["#-source s", "t"])).shared.alreadyTaken 0 .sourcing
      ⟨.root, ["s"]⟩ = false := by decide +kernel
  have begun : Recorded {} ⟨.root, ["menu"]⟩ (.ofLines ["#-source s", "t"]) [] _ := .start
  have sourced := begun.step (.holding [("s", ["#-pre b", "#-clean"])]) rfl nofun
    (step_of_opened (c := ⟨⟨.root, ["menu"]⟩, 0, true, { stream := .ofLines ["#-source s", "t"] }, 0, 0, [], {}⟩)
      rfl rfl resolved fresh rfl)
  have given := sourced.step .bare rfl nofun rfl
  have cleaned := given.step .bare rfl nofun rfl
  have left := cleaned.step .bare rfl nofun rfl
  have shown := left.step .bare rfl nofun rfl
  obtain ⟨texts, -, -⟩ := command_of_text (show Recorded _ _ _ ([] ++ _ :: _) _ from shown)
  exact ⟨_, _, _, shown, rfl, texts _ _ _ _ _ rfl rfl rfl⟩

end Build

end Menu
