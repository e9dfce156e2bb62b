import Mathlib.Data.List.Nodup
import Menu.Proofs.Build.History

/-!
# Files are taken in once

A file is imported at most once in a build, and sourced at most once in a lineage, which is the document or an
imported file together with all that is sourced from there.  The build keeps two kinds of sets for this: what it
has imported, and what each lineage has taken in.

What the sets should hold is read off the history: `openings` are the files that inclusions have opened, `head`
is where the lineage of a file starts, and `imports` and `lineage` are the files taken in by then.  Those opened
for their lines are in neither.

* `opens_nothing`: what does not put a file on top leaves all sets as they are.
* `tracks_of_recorded`: the sets hold what the history says, each file once (`Tracks`, step by step).
* `step_of_inclusion`: what an inclusion does, by whether its target is found, taken in before, and opened.
* `taken_once`: all of this about every build on its way.
-/

namespace Menu

/-! ## Files that were opened -/

/-- A file that an inclusion has opened. -/
structure Opening where
  how : Inclusion
  file : Path
  /-- The number of the file, which is the one of its stream. -/
  number : Nat
  /-- The number of the file that the inclusion stands in. -/
  parent : Nat
deriving DecidableEq, Repr

namespace Opening

/-- The files imported so far, the last one first, after the document. -/
def imports (document : Path) : List Opening → List Path
  | [] => [document]
  | o :: earlier =>
    if o.how = .importing then o.file :: imports document earlier else imports document earlier

/-- The number of the file that the lineage of a file starts from: only what is sourced belongs to the lineage
of another file. -/
def head : List Opening → Nat → Nat
  | [], number => number
  | o :: earlier, number =>
    if o.number = number ∧ o.how = .sourcing then head earlier o.parent else head earlier number

/-- The files taken into the lineage that starts from a file, the last one first: the document or the imported
file that it starts from, and what was sourced in it. -/
def lineage (document : Path) : List Opening → Nat → List Path
  | [], first => if first = 0 then [document] else []
  | o :: earlier, first =>
    if o.how = .importing ∧ o.number = first ∨ o.how = .sourcing ∧ head earlier o.parent = first then
      o.file :: lineage document earlier first
    else lineage document earlier first

/-- The files that an inclusion in the file with a number does not open again. -/
def taken (document : Path) (done : List Opening) (number : Nat) : Inclusion → List Path
  | .importing => imports document done
  | .sourcing => lineage document done (head done number)
  | .lines => []

variable {document : Path} {o : Opening} {done : List Opening} {number : Nat}

theorem head_cons_of_ne (h : o.number ≠ number) : head (o :: done) number = head done number := by
  rw [head, if_neg fun e => h e.1]

theorem head_cons_of_other (h : o.how ≠ .sourcing) : head (o :: done) number = head done number := by
  rw [head, if_neg fun e => h e.2]

theorem head_cons_of_sourcing (h : o.how = .sourcing) : head (o :: done) o.number = head done o.parent := by
  rw [head, if_pos ⟨rfl, h⟩]

theorem imports_cons_of_ne (h : o.how ≠ .importing) : imports document (o :: done) = imports document done := by
  rw [imports, if_neg h]

theorem lineage_cons_of_ne (other : o.how ≠ .sourcing) (ne : o.number ≠ number) :
    lineage document (o :: done) number = lineage document done number := by
  rw [lineage, if_neg]
  rintro (⟨-, same⟩ | ⟨sourced, -⟩)
  · exact ne same
  · exact other sourced

theorem lineage_cons_of_sourcing (h : o.how = .sourcing) :
    lineage document (o :: done) number =
      if head done o.parent = number then o.file :: lineage document done number
      else lineage document done number := by
  simp [lineage, h]

end Opening

/-- The number and the path of a file that an event shows to be opened. -/
def Event.opened? : Event → Option (Nat × Path)
  | opened stream path => some (stream, path)
  | _ => none

/-! ## What does not put a file on top -/

/-- The same sets of files taken in. -/
structure Shared.SameFiles (s t : Shared) : Prop where
  imported : t.imported = s.imported
  lineages : t.lineages = s.lineages

namespace Context

variable {site : Site} {depth : Nat} {shared : Shared} {c : Context} {position : Int} {d : Directive}
  {r : Reaction} {e : Event}

theorem opened?_of_mem_warn {text : String} (mem : e ∈ c.warn position text) : e.opened? = none := by
  simp only [warn, List.mem_cons, List.not_mem_nil, or_false] at mem
  rcases mem with rfl | rfl <;> rfl

theorem opened?_of_mem_leaving (mem : e ∈ c.leaving depth) : e.opened? = none := by
  rcases List.mem_append.1 mem with mem | mem
  · rcases List.mem_append.1 mem with mem | mem
    · unfold flush at mem
      split at mem
      · cases mem
      · rcases List.mem_append.1 mem with mem | mem
        · exact opened?_of_mem_warn mem
        · obtain ⟨_, -, rfl⟩ := List.mem_map.1 mem
          rfl
    · unfold closes at mem
      split at mem
      · rw [List.mem_singleton.1 mem]
        rfl
      · cases mem
  · rw [List.mem_singleton.1 mem]
    rfl

/-- A directive that puts no file on top opens none and takes none in. -/
theorem react_opens_nothing (h : c.react site depth shared position d = .ok r)
    (moves : ∀ child, r.move ≠ .enter child) :
    shared.SameFiles r.shared ∧ ∀ e ∈ r.events, e.opened? = none := by
  cases d with
  | inclusion how target =>
    simp only [react, includeFile] at h
    repeat' split at h
    all_goals cases h
    · exact ⟨⟨rfl, rfl⟩, by simp [reject, Event.opened?]⟩
    · refine ⟨⟨rfl, rfl⟩, ?_⟩
      cases how <;> simp [skip, Event.opened?]
    · exact ⟨⟨rfl, rfl⟩, by simp [reject, Event.opened?]⟩
    · exact absurd rfl (moves _)
  | close =>
    cases h
    exact ⟨⟨rfl, rfl⟩, fun e mem => opened?_of_mem_leaving mem⟩
  | endBlock automatic =>
    cases h
    unfold endBlock
    repeat' split
    all_goals exact ⟨⟨rfl, rfl⟩, by simp [warn, entry, Event.opened?]⟩
  | thenBlock =>
    cases h
    unfold resolveWatch
    split <;> exact ⟨⟨rfl, rfl⟩, by simp [warn, entry, Event.opened?]⟩
  | elseBlock =>
    cases h
    unfold resolveWatch
    split <;> exact ⟨⟨rfl, rfl⟩, by simp [warn, entry, Event.opened?]⟩
  | _ =>
    simp only [react] at h
    repeat' split at h
    all_goals cases h
    all_goals exact ⟨⟨rfl, rfl⟩, by simp [warn, entry, Event.opened?]⟩

end Context

namespace Build

variable {m : Markers} {site : Site} {path : Path} {stream : Stream} {log : List Moment} {b next : Build}
  {c : Context} {below : List Context} {shared : Shared} {r : Reaction} {seen : List Event}
  {done : List Opening}

theorem opens_nothing {item : Except ReadFailure (Int × Directive)}
    (h : reactionTo site shared c below item = .ok r) (moves : ∀ child, r.move ≠ .enter child) :
    shared.SameFiles r.shared ∧ ∀ e ∈ r.events, e.opened? = none := by
  rcases reactionTo_cases h with ⟨position, d, -, h⟩ | ⟨why, -, rfl⟩
  · exact Context.react_opens_nothing h moves
  · refine ⟨⟨rfl, rfl⟩, fun e mem => ?_⟩
    rcases List.mem_append.1 mem with mem | mem
    · exact Context.opened?_of_mem_warn mem
    · exact Context.opened?_of_mem_leaving mem

/-! ## The openings of a history -/

/-- The file that a step has opened by an inclusion. -/
def Moment.opening? (m : Markers) (mo : Moment) : Option Opening :=
  match mo.before.stack.head?, mo.before.dispatched? m, mo.seen.findSome? Event.opened? with
  | some c, some (.inclusion how _), some (number, file) => some ⟨how, file, number, c.stream⟩
  | _, _, _ => none

/-- The files that inclusions have opened, the last one first. -/
def openings (m : Markers) (log : List Moment) : List Opening :=
  log.filterMap (Moment.opening? m)

theorem findSome?_reading (c : Context) (events : List Event) :
    (reading c ++ events).findSome? Event.opened? = events.findSome? Event.opened? := by
  unfold reading
  split <;> rfl

theorem opening?_of_nothing (nothing : ∀ e ∈ r.events, e.opened? = none) :
    Moment.opening? m ⟨⟨c :: below, shared⟩, reading c ++ r.events, next⟩ = none := by
  have unseen : (reading c ++ r.events).findSome? Event.opened? = none := by
    rw [findSome?_reading]
    exact List.findSome?_eq_none_iff.2 nothing
  rw [Moment.opening?, unseen]
  split
  · simp_all
  · rfl

theorem opening?_of_enter {how : Inclusion} {target : String} {file : Path} {stream : Stream}
    (dispatched : dispatched? m ⟨c :: below, shared⟩ = some (.inclusion how target)) :
    Moment.opening? m
        ⟨⟨c :: below, shared⟩,
          reading c ++ ((c.readOn m).enter shared (below.length + 1) how file stream).events, next⟩ =
      some ⟨how, file, shared.opened, c.stream⟩ := by
  simp only [Moment.opening?, findSome?_reading, dispatched]
  rfl

/-! ## The sets and the history -/

/-- The open files, each with its number and the lineage it holds. -/
def members (stack : List Context) : List (Nat × Handle) :=
  stack.map fun c => (c.stream, c.lineage)

/-- The sets of the files taken in, when inclusions have opened these files. -/
structure Tracks (document : Path) (done : List Opening) (shared : Shared) (files : List (Nat × Handle)) :
    Prop where
  imported : shared.imported = Opening.imports document done
  importedOnce : (Opening.imports document done).Nodup
  lineageOnce : ∀ first, (Opening.lineage document done first).Nodup
  /-- A file that is not opened yet belongs to no lineage, and none starts from it. -/
  unborn : ∀ number, shared.opened ≤ number →
    Opening.head done number = number ∧ Opening.lineage document done number = []
  born : ∀ f ∈ files, f.1 < shared.opened ∧ Opening.head done f.1 < shared.opened
  taken : ∀ f ∈ files, shared.lineages.Holds f.2 ∧
    shared.lineages.get f.2 = Opening.lineage document done (Opening.head done f.1)
  shares : ∀ f ∈ files, ∀ f' ∈ files,
    f.2 = f'.2 ↔ Opening.head done f.1 = Opening.head done f'.1

variable {document : Path} {files : List (Nat × Handle)}

theorem tracks_start (path : Path) (stream : Stream) :
    Tracks path [] (start path stream).shared (members (start path stream).stack) := by
  have alone : ∀ f ∈ members (start path stream).stack, f = (0, 0) := fun f mem => List.mem_singleton.1 mem
  refine ⟨rfl, by simp [Opening.imports], fun first => ?_, fun number later => ⟨rfl, ?_⟩, fun f mem => ?_,
    fun f mem => ?_, fun f mem f' mem' => ?_⟩
  · unfold Opening.lineage
    split <;> simp
  · rw [Opening.lineage, if_neg (Nat.ne_of_gt later)]
  · rw [alone f mem]
    exact ⟨Nat.zero_lt_one, Nat.zero_lt_one⟩
  · rw [alone f mem]
    exact ⟨Nat.zero_lt_one, rfl⟩
  · rw [alone f mem, alone f' mem']
    exact ⟨fun _ => rfl, fun _ => rfl⟩

/-- Files that are left, and steps that open none, keep the sets what they are. -/
theorem Tracks.keep {later : Shared} {fewer : List (Nat × Handle)} (tracks : Tracks document done shared files)
    (same : shared.SameFiles later) (opened : shared.opened ≤ later.opened) (sub : fewer ⊆ files) :
    Tracks document done later fewer where
  imported := same.imported.trans tracks.imported
  importedOnce := tracks.importedOnce
  lineageOnce := tracks.lineageOnce
  unborn number unopened := tracks.unborn number (Nat.le_trans opened unopened)
  born f mem :=
    have ⟨number, head⟩ := tracks.born f (sub mem)
    ⟨Nat.lt_of_lt_of_le number opened, Nat.lt_of_lt_of_le head opened⟩
  taken f mem := by
    rw [same.lineages]
    exact tracks.taken f (sub mem)
  shares f mem f' mem' := tracks.shares f (sub mem) f' (sub mem')

section Opened

variable {o : Opening} {later : Shared}

/-- The heads of the open files stay when another is opened. -/
theorem Tracks.head_cons (tracks : Tracks document done shared files) (number : o.number = shared.opened)
    {f : Nat × Handle} (mem : f ∈ files) : Opening.head (o :: done) f.1 = Opening.head done f.1 :=
  Opening.head_cons_of_ne (number ▸ Nat.ne_of_gt (tracks.born f mem).1)

/-- So do the lineages that they share. -/
theorem Tracks.shares_cons (tracks : Tracks document done shared files) (number : o.number = shared.opened)
    {f f' : Nat × Handle} (mem : f ∈ files) (mem' : f' ∈ files) :
    f.2 = f'.2 ↔ Opening.head (o :: done) f.1 = Opening.head (o :: done) f'.1 := by
  rw [tracks.head_cons number mem, tracks.head_cons number mem']
  exact tracks.shares f mem f' mem'

/-- They and their heads are opened before the next file. -/
theorem Tracks.born_cons (tracks : Tracks document done shared files) (number : o.number = shared.opened)
    (opened : later.opened = shared.opened + 1) {f : Nat × Handle} (mem : f ∈ files) :
    f.1 < later.opened ∧ Opening.head (o :: done) f.1 < later.opened := by
  have := tracks.born f mem
  rw [tracks.head_cons number mem]
  exact ⟨by omega, by omega⟩

/-- An inclusion that starts a lineage. -/
theorem Tracks.cons_of_new (tracks : Tracks document done shared files) (number : o.number = shared.opened)
    (other : o.how ≠ .sourcing) {own : List Path} (own_eq : Opening.lineage document (o :: done) o.number = own)
    (ownOnce : own.Nodup) (imported : later.imported = Opening.imports document (o :: done))
    (importedOnce : (Opening.imports document (o :: done)).Nodup)
    (lineages : later.lineages = (shared.lineages.add own).1) (opened : later.opened = shared.opened + 1) :
    Tracks document (o :: done) later ((o.number, (shared.lineages.add own).2) :: files) := by
  have itself : Opening.head (o :: done) o.number = o.number := by
    rw [Opening.head_cons_of_other other, number]
    exact (tracks.unborn _ (Nat.le_refl _)).1
  have older : ∀ f ∈ files, Opening.head done f.1 ≠ o.number ∧ f.2 ≠ (shared.lineages.add own).2 := by
    intro f mem
    rw [number]
    exact ⟨Nat.ne_of_lt (tracks.born f mem).2, Nat.ne_of_lt (tracks.taken f mem).1⟩
  refine {
    imported
    importedOnce
    lineageOnce := fun first => ?lineageOnce
    unborn := fun unopened h => ?unborn
    born := List.forall_mem_cons.2 ⟨?bornNow, fun f mem => tracks.born_cons number opened mem⟩
    taken := List.forall_mem_cons.2 ⟨?takenNow, fun f mem => ?takenBefore⟩
    shares := List.forall_mem_cons.2
      ⟨List.forall_mem_cons.2 ⟨⟨fun _ => rfl, fun _ => rfl⟩, fun f mem => ?apart⟩,
      fun f mem => List.forall_mem_cons.2 ⟨?apartToo, fun f' mem' => tracks.shares_cons number mem mem'⟩⟩ }
  case lineageOnce =>
    by_cases same : o.number = first
    · rw [← same, own_eq]
      exact ownOnce
    · rw [Opening.lineage_cons_of_ne other same]
      exact tracks.lineageOnce first
  case unborn =>
    have before := tracks.unborn unopened (by omega)
    rw [Opening.head_cons_of_other other, Opening.lineage_cons_of_ne other (by omega)]
    exact before
  case bornNow =>
    rw [itself]
    exact ⟨by omega, by omega⟩
  case takenNow =>
    rw [itself, own_eq, lineages]
    exact ⟨by simp [Pool.add, Pool.Holds], Pool.get_add_self _ _⟩
  case takenBefore =>
    obtain ⟨held, same⟩ := tracks.taken f mem
    rw [tracks.head_cons number mem, lineages, Opening.lineage_cons_of_ne other (older f mem).1.symm,
      Pool.get_add_of_holds own held]
    exact ⟨Nat.lt_of_lt_of_le held (by simp [Pool.add]), same⟩
  case apart =>
    rw [itself, tracks.head_cons number mem]
    exact ⟨fun e => absurd e.symm (older f mem).2, fun e => absurd e.symm (older f mem).1⟩
  case apartToo =>
    rw [itself, tracks.head_cons number mem]
    exact ⟨fun e => absurd e (older f mem).2, fun e => absurd e (older f mem).1⟩

/-- An inclusion into a lineage. -/
theorem Tracks.cons_of_sourcing (tracks : Tracks document done shared files)
    (number : o.number = shared.opened) (sourcing : o.how = .sourcing) {lineage : Handle}
    (parent : (o.parent, lineage) ∈ files) (fresh : o.file ∉ shared.lineages.get lineage)
    (imported : later.imported = shared.imported)
    (lineages : later.lineages = shared.lineages.modify lineage (o.file :: ·))
    (opened : later.opened = shared.opened + 1) :
    Tracks document (o :: done) later ((o.number, lineage) :: files) := by
  obtain ⟨held, taken⟩ := tracks.taken _ parent
  have born : o.parent < shared.opened ∧ Opening.head done o.parent < shared.opened := tracks.born _ parent
  have joins : Opening.head (o :: done) o.number = Opening.head done o.parent :=
    Opening.head_cons_of_sourcing sourcing
  have grown : ∀ first, Opening.lineage document (o :: done) first =
      if Opening.head done o.parent = first then o.file :: Opening.lineage document done first
      else Opening.lineage document done first := fun _ => Opening.lineage_cons_of_sourcing sourcing
  have holds : ∀ h, shared.lineages.Holds h → later.lineages.Holds h := by
    intro h held
    rw [lineages]
    simpa [Pool.modify, Pool.Holds] using held
  have got : later.lineages.get lineage =
      Opening.lineage document (o :: done) (Opening.head done o.parent) := by
    rw [lineages, Pool.get_modify_self _ held, grown, if_pos rfl, taken]
  refine {
    imported := ?imported
    importedOnce := ?importedOnce
    lineageOnce := fun first => ?lineageOnce
    unborn := fun unopened h => ?unborn
    born := List.forall_mem_cons.2 ⟨?bornNow, fun f mem => tracks.born_cons number opened mem⟩
    taken := List.forall_mem_cons.2 ⟨⟨holds _ held, ?takenNow⟩, fun f mem => ?takenBefore⟩
    shares := List.forall_mem_cons.2
      ⟨List.forall_mem_cons.2 ⟨⟨fun _ => rfl, fun _ => rfl⟩, fun f mem => ?joined⟩,
      fun f mem => List.forall_mem_cons.2 ⟨?joinedToo, fun f' mem' => tracks.shares_cons number mem mem'⟩⟩ }
  case imported =>
    rw [imported, Opening.imports_cons_of_ne (by simp [sourcing])]
    exact tracks.imported
  case importedOnce =>
    rw [Opening.imports_cons_of_ne (by simp [sourcing])]
    exact tracks.importedOnce
  case lineageOnce =>
    rw [grown]
    split
    · rename_i same
      rw [← same, List.nodup_cons, ← taken]
      exact ⟨fresh, taken ▸ tracks.lineageOnce _⟩
    · exact tracks.lineageOnce first
  case unborn =>
    have before := tracks.unborn unopened (by omega)
    rw [Opening.head_cons_of_ne (by omega), grown, if_neg (by omega)]
    exact before
  case bornNow =>
    rw [joins]
    exact ⟨by omega, by omega⟩
  case takenNow =>
    rw [joins]
    exact got
  case takenBefore =>
    obtain ⟨heldToo, same⟩ := tracks.taken f mem
    refine ⟨holds _ heldToo, ?_⟩
    rw [tracks.head_cons number mem]
    by_cases here : lineage = f.2
    · rw [← here, got, (tracks.shares _ parent f mem).1 here]
    · have apart : Opening.head done o.parent ≠ Opening.head done f.1 := fun e =>
        here ((tracks.shares _ parent f mem).2 e)
      rw [lineages, Pool.get_modify_of_ne _ here, grown, if_neg apart]
      exact same
  case joined =>
    rw [joins, tracks.head_cons number mem]
    exact tracks.shares _ parent f mem
  case joinedToo =>
    rw [joins, tracks.head_cons number mem]
    exact tracks.shares f mem _ parent

end Opened

/-- A file that is put on top is entered into the history and into the set of its inclusion. -/
theorem tracks_of_child {how : Inclusion} {file : Path} {stream : Stream}
    (tracks : Tracks document done shared files) (mem : (c.stream, c.lineage) ∈ files)
    (fresh : shared.alreadyTaken c.lineage how file = false) :
    Tracks document (⟨how, file, shared.opened, c.stream⟩ :: done) (c.child shared how file stream).2
      (((c.child shared how file stream).1.stream, (c.child shared how file stream).1.lineage) :: files) := by
  have unborn := (tracks.unborn _ (Nat.le_refl shared.opened)).2
  have opened := c.opened_of_child shared how file stream
  cases how with
  | importing =>
    simp only [Shared.alreadyTaken, decide_eq_false_iff_not, tracks.imported] at fresh
    refine tracks.cons_of_new rfl (by simp) ?_ (List.nodup_singleton file) ?_ ?_ rfl opened
    · simp only [Opening.lineage, true_and, true_or, if_true, unborn]
    · simp only [Opening.imports, if_true, ← tracks.imported]
      rfl
    · simp only [Opening.imports, if_true]
      exact List.nodup_cons.2 ⟨fresh, tracks.importedOnce⟩
  | sourcing =>
    simp only [Shared.alreadyTaken, decide_eq_false_iff_not] at fresh
    exact tracks.cons_of_sourcing rfl rfl mem fresh rfl rfl opened
  | lines =>
    refine tracks.cons_of_new rfl (by simp) ?_ List.nodup_nil ?_ ?_ rfl opened
    · simp [Opening.lineage, unborn]
    · rw [Opening.imports_cons_of_ne (by simp), ← tracks.imported]
      rfl
    · rw [Opening.imports_cons_of_ne (by simp)]
      exact tracks.importedOnce

theorem tracks_of_step {later : List Opening} (tracks : Tracks document done b.shared (members b.stack))
    (taken : b.step site = (.ok next, seen))
    (history : later = (Moment.opening? site.markers ⟨b, seen, next⟩).toList ++ done) :
    Tracks document later next.shared (members next.stack) := by
  subst history
  obtain ⟨stack, shared⟩ := b
  cases stack with
  | nil =>
    cases taken
    exact tracks
  | cons c below =>
    obtain ⟨r, h, rfl, rfl⟩ := exists_reaction taken
    obtain ⟨same, opened⟩ := same_of_reaction h
    have top : (r.context.stream, r.context.lineage) = (c.stream, c.lineage) := by
      rw [same.stream, same.lineage]
      rfl
    cases moves : r.move with
    | enter child =>
      obtain ⟨position, d, how, target, file, stream, read, inclusion, -, fresh, -, entered, rfl⟩ :=
        reaction_enter h moves
      have dispatched : dispatched? site.markers ⟨c :: below, shared⟩ = some (c.scopes.apply d) :=
        dispatched?_of_read read
      rw [show c.scopes.apply d = _ from inclusion] at dispatched
      subst entered
      rw [opening?_of_enter dispatched]
      exact tracks_of_child (c := c.readOn site.markers) tracks List.mem_cons_self fresh
    | stay =>
      obtain ⟨files, nothing⟩ := opens_nothing h (by simp [moves])
      rw [opening?_of_nothing nothing, settle, moves]
      refine tracks.keep files opened ?_
      rw [members, List.map_cons, top]
      exact fun _ mem => mem
    | leave =>
      obtain ⟨files, nothing⟩ := opens_nothing h (by simp [moves])
      rw [opening?_of_nothing nothing, settle, moves]
      exact tracks.keep files opened (List.subset_cons_self _ _)

theorem openings_cons (mo : Moment) (log : List Moment) :
    openings m (mo :: log) = (mo.opening? m).toList ++ openings m log := by
  rw [openings, List.filterMap_cons]
  cases mo.opening? m <;> rfl

theorem tracks_of_recorded (recorded : Recorded m path stream log b) :
    Tracks path (openings m log) b.shared (members b.stack) := by
  induction recorded with
  | start => exact tracks_start path stream
  | step site _ same _ taken ih =>
    subst same
    exact tracks_of_step ih taken (openings_cons _ _)

/-! ## What an inclusion does -/

/-- An inclusion whose target is found, is new and is opened. -/
theorem step_of_opened {position : Int} {d : Directive} {how : Inclusion} {target : String} {file : Path}
    {stream : Stream} (read : (c.reader.read site.markers).1 = .ok (position, d))
    (applied : c.scopes.apply d = .inclusion how target) (resolved : site.resolve target c.directory = .ok file)
    (fresh : shared.alreadyTaken c.lineage how file = false) (opened : site.openTarget file = .ok stream) :
    step site ⟨c :: below, shared⟩ =
      (.ok ⟨((c.readOn site.markers).child shared how file stream).1 :: c.readOn site.markers :: below,
        ((c.readOn site.markers).child shared how file stream).2⟩,
        reading c ++ ((c.readOn site.markers).enter shared (below.length + 1) how file stream).events) :=
  step_of_react read (by rw [applied]; exact Context.includeFile_of_opened resolved fresh opened)

/-- No other step puts a file on top. -/
theorem opened_of_pushed (taken : step site ⟨c :: below, shared⟩ = (.ok next, seen))
    (pushed : below.length + 1 < next.stack.length) :
    ∃ how target file stream,
      dispatched? site.markers ⟨c :: below, shared⟩ = some (.inclusion how target) ∧
      site.resolve target c.directory = .ok file ∧ shared.alreadyTaken c.lineage how file = false ∧
      site.openTarget file = .ok stream ∧
      next = ⟨((c.readOn site.markers).child shared how file stream).1 :: c.readOn site.markers :: below,
        ((c.readOn site.markers).child shared how file stream).2⟩ := by
  obtain ⟨r, h, rfl, -⟩ := exists_reaction taken
  cases moves : r.move with
  | stay =>
    rw [settle, moves] at pushed
    exact absurd pushed (Nat.lt_irrefl _)
  | leave =>
    rw [settle, moves] at pushed
    exact absurd (Nat.lt_of_succ_lt pushed) (Nat.lt_irrefl _)
  | enter child =>
    obtain ⟨position, d, how, target, file, stream, read, inclusion, resolved, fresh, opened, entered, -⟩ :=
      reaction_enter h moves
    refine ⟨how, target, file, stream, ?_, resolved, fresh, opened, ?_⟩
    · rw [dispatched?_of_read read]
      exact congrArg some inclusion
    · rw [entered]
      rfl

/-- A file counts as taken in when the history says so. -/
theorem Tracks.alreadyTaken_iff (tracks : Tracks document done shared files)
    (mem : (c.stream, c.lineage) ∈ files) (how : Inclusion) (file : Path) :
    shared.alreadyTaken c.lineage how file = true ↔ file ∈ Opening.taken document done c.stream how := by
  cases how with
  | importing => simp [Shared.alreadyTaken, Opening.taken, tracks.imported]
  | sourcing => simp [Shared.alreadyTaken, Opening.taken, (tracks.taken _ mem).2]
  | lines => simp [Shared.alreadyTaken, Opening.taken]

theorem step_of_inclusion {how : Inclusion} {target : String}
    (dispatched : dispatched? site.markers ⟨c :: below, shared⟩ = some (.inclusion how target)) :
    (∀ why, site.resolve target c.directory = .error (.bad why) →
        ∃ c' seen, step site ⟨c :: below, shared⟩ = (.ok ⟨c' :: below, shared⟩, seen)) ∧
      ∀ file, site.resolve target c.directory = .ok file →
        (shared.alreadyTaken c.lineage how file = true →
          ∃ seen, step site ⟨c :: below, shared⟩ = (.ok ⟨c.readOn site.markers :: below, shared⟩, seen) ∧
            entriesOf seen = []) ∧
        (shared.alreadyTaken c.lineage how file = false →
          (∀ why, site.openTarget file = .error (.bad why) →
            ∃ c' seen, step site ⟨c :: below, shared⟩ = (.ok ⟨c' :: below, shared⟩, seen)) ∧
          ∀ stream, site.openTarget file = .ok stream →
            ∃ child later seen,
              step site ⟨c :: below, shared⟩ =
                (.ok ⟨child :: c.readOn site.markers :: below, later⟩, seen) ∧
              Moment.opening? site.markers
                  ⟨⟨c :: below, shared⟩, seen, ⟨child :: c.readOn site.markers :: below, later⟩⟩ =
                some ⟨how, file, child.stream, c.stream⟩) := by
  obtain ⟨position, d, read, applied⟩ := exists_read_of_dispatched dispatched
  have taken : ∀ {r : Reaction},
      (c.readOn site.markers).includeFile site (below.length + 1) shared position how target = .ok r →
      step site ⟨c :: below, shared⟩ = (.ok (settle below r), reading c ++ r.events) := fun h =>
    step_of_react read (by rw [applied]; exact h)
  refine ⟨fun why resolved => ⟨_, _, taken (Context.includeFile_of_unresolved resolved)⟩,
    fun file resolved => ⟨fun old => ?_, fun fresh => ⟨fun why opened => ?_, fun stream opened => ?_⟩⟩⟩
  · refine ⟨_, taken (Context.includeFile_of_taken resolved old), ?_⟩
    unfold reading
    cases how <;> split <;> rfl
  · exact ⟨_, _, taken (Context.includeFile_of_unopened resolved fresh opened)⟩
  · refine ⟨_, _, _, step_of_opened read applied resolved fresh opened, ?_⟩
    rw [Context.stream_of_child]
    exact opening?_of_enter dispatched

variable (site) in
/-- **Files are taken in once.**  No file is imported twice, nor the document; no file is sourced twice in one
lineage, nor the one that it starts from.  The build's sets hold just these files.  So an inclusion whose target
was taken in before changes nothing but the reader; a target that is not found or not opened is not taken in;
and every other target is opened, whatever failed before. -/
theorem taken_once (recorded : Recorded site.markers path stream log b) :
    (Opening.imports path (openings site.markers log)).Nodup ∧
    (∀ first, (Opening.lineage path (openings site.markers log) first).Nodup) ∧
    (∀ file, file ∈ b.shared.imported ↔ file ∈ Opening.imports path (openings site.markers log)) ∧
    (∀ c ∈ b.stack, ∀ file,
      file ∈ b.shared.lineages.get c.lineage ↔
        file ∈ Opening.lineage path (openings site.markers log)
          (Opening.head (openings site.markers log) c.stream)) ∧
    ∀ c below how target, b.stack = c :: below →
      b.dispatched? site.markers = some (.inclusion how target) →
      (∀ why, site.resolve target c.directory = .error (.bad why) →
        ∃ c' seen, b.step site = (.ok ⟨c' :: below, b.shared⟩, seen)) ∧
      ∀ file, site.resolve target c.directory = .ok file →
        (file ∈ Opening.taken path (openings site.markers log) c.stream how →
          ∃ seen, b.step site = (.ok ⟨c.readOn site.markers :: below, b.shared⟩, seen) ∧ entriesOf seen = []) ∧
        (file ∉ Opening.taken path (openings site.markers log) c.stream how →
          (∀ why, site.openTarget file = .error (.bad why) →
            ∃ c' seen, b.step site = (.ok ⟨c' :: below, b.shared⟩, seen)) ∧
          ∀ stream, site.openTarget file = .ok stream →
            ∃ child later seen,
              b.step site = (.ok ⟨child :: c.readOn site.markers :: below, later⟩, seen) ∧
              Moment.opening? site.markers ⟨b, seen, ⟨child :: c.readOn site.markers :: below, later⟩⟩ =
                some ⟨how, file, child.stream, c.stream⟩) := by
  have tracks := tracks_of_recorded recorded
  refine ⟨tracks.importedOnce, tracks.lineageOnce, fun file => by rw [tracks.imported], fun c mem file => ?_, ?_⟩
  · rw [(tracks.taken _ (List.mem_map_of_mem mem)).2]
  · obtain ⟨stack, shared⟩ := b
    rintro c below how target rfl dispatched
    obtain ⟨unresolved, resolved⟩ := step_of_inclusion dispatched
    refine ⟨unresolved, fun file found => ?_⟩
    obtain ⟨old, fresh⟩ := resolved file found
    have iff := tracks.alreadyTaken_iff (c := c) List.mem_cons_self how file
    exact ⟨fun mem => old (iff.2 mem), fun new => fresh (Bool.eq_false_iff.2 fun taken => new (iff.1 taken))⟩

/-- A document imports a file, which imports itself: it is imported once. -/
theorem taken_once_of_itself :
    ∃ log b c below,
      Recorded {} ⟨.root, ["menu"]⟩ (.ofLines ["#-import a"]) log b ∧ b.stack = c :: below ∧
      c.path = ⟨.root, ["a"]⟩ ∧
      (∀ file, file ∈ b.shared.imported ↔ file ∈ [⟨.root, ["a"]⟩, ⟨.root, ["menu"]⟩]) ∧
      b.dispatched? {} = some (.inclusion .importing "a") ∧
      ∃ seen, b.step (.holding [("a", ["#-import a"])]) = (.ok ⟨c.readOn {} :: below, b.shared⟩, seen) ∧
        entriesOf seen = [] := by
  have resolved : (Site.holding [("a", ["#-import a"])]).resolve "a" ⟨.root, []⟩ = .ok ⟨.root, ["a"]⟩ :=
    Site.resolve_holding (by decide) (by decide +kernel) rfl rfl
  have opened : (Site.holding [("a", ["#-import a"])]).openTarget ⟨.root, ["a"]⟩ =
      .ok (.ofLines ["#-import a"]) := rfl
  have fresh : (start ⟨.root, ["menu"]⟩ (.ofLines ["#-import a"])).shared.alreadyTaken 0 .importing
      ⟨.root, ["a"]⟩ = false := by decide +kernel
  have begun : Recorded {} ⟨.root, ["menu"]⟩ (.ofLines ["#-import a"]) [] _ := .start
  have reached := begun.step (.holding [("a", ["#-import a"])]) rfl nofun
    (step_of_opened (c := ⟨⟨.root, ["menu"]⟩, 0, true, { stream := .ofLines ["#-import a"] }, 0, 0, [], {}⟩)
      rfl rfl resolved fresh opened)
  obtain ⟨-, -, imported, -, includes⟩ := taken_once (.holding [("a", ["#-import a"])]) reached
  obtain ⟨-, found⟩ := includes _ _ .importing "a" rfl rfl
  obtain ⟨skipped, -⟩ := found _ resolved
  exact ⟨_, _, _, _, reached, rfl, rfl, imported, rfl, skipped List.mem_cons_self⟩

end Build

end Menu
