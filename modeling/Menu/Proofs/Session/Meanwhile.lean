import Menu.Proofs.Session.Waiting

/-!
# Edits between the actions of the loop

A round of the loop is made of actions: it looks for a change, reads the document, writes the listing, and takes down
the times of the files to watch.  Others may write files between any two of them.  A file that is written after it was
read and before its time is taken down is watched with the new time, and so the change is not seen.

* `Loop.act`: one action; `Loop.acts_of_lookAndSleep`: without edits in between, the actions are a look.
* `Loop.Kept`: what holds between any two actions, kept by an action (`Loop.Kept.act`) and by an edit.
* `Loop.current_iff`: as long as no change is seen, the view is that of the watched files exactly if each held, when its
  time was taken down, what had been read of it.
* `Loop.stale_of_late`: it is not, once a file is written between the two.
-/

namespace Menu

open Menu.Tree

/-! ## What was opened -/

/-- A source is a file in the tree from which the view was read. -/
theorem file_of_source {w : World} {tree : Tree} {path file : Path} {view : View} (faithful : w.Faithful)
    (built : (View.read (w.siteAt tree) path).1 = .ok view) (source : file ∈ view.sources) :
    ∃ place content stamp, file = Path.ofPlace place ∧ tree.Straight place ∧
      tree.node? place = some (.file content stamp) := by
  obtain ⟨text, texts⟩ := exists_opensWith_of_read faithful built
  obtain ⟨stream, opened⟩ := View.opens_sources built source
  obtain ⟨canonical, given⟩ := Site.openDocument_ok_iff.1 opened
  obtain ⟨content, read⟩ := (opened_iff_read faithful texts).1 ⟨stream, given⟩
  obtain ⟨place, rfl, straight⟩ := straight_of_canonical canonical
  rcases read_of_straight_cases straight with ⟨content', stamp, here, -⟩ | refused
  · exact ⟨place, content', stamp, rfl, straight, here⟩
  · cases read.symm.trans refused

/-- As long as its sources are files, a view can be read anew. -/
theorem View.reload_of_filesStay {w : World} {before now : Tree} {path : Path} {view : View} {why : Fault}
    (faithful : w.Faithful) (founded : now.Founded) (built : (View.read (w.siteAt before) path).1 = .ok view)
    (stay : before.FilesStay now) : (view.reload (w.siteAt now)).1 ≠ .error (.fault why) := by
  intro failed
  obtain ⟨text, texts⟩ := exists_opensWith_of_read faithful built
  obtain ⟨place, content, stamp, root, straight, file⟩ := file_of_source faithful built (View.root_mem_sources built)
  obtain ⟨content', stamp', straight', -, read⟩ := stay.read founded straight file
  obtain ⟨stream, given⟩ := (opened_iff_read faithful texts).2 ⟨content', read⟩
  have opened : (w.siteAt now).openDocument view.root = .ok (view.root, stream) := by
    rw [root]
    exact Site.openDocument_ok_iff.2 ⟨canonical_of_straight straight', given⟩
  cases opened.symm.trans (View.openDocument_of_fault (faithful.faultless now) failed)

/-! ## The actions of a round -/

/-- The actions of a round, in their order; `rearm` comes where a document cannot be read. -/
inductive Action
  | poll
  | reload
  | list
  | arm
  | rearm
deriving DecidableEq, Repr

/-- The loop between two actions. -/
structure Loop where
  world : World
  state : State
  monitor : Monitor
  /-- The action that comes next. -/
  next : Action
  /-- The tree from which the view was read. -/
  read : Tree
  /-- The tree in which the times of the watched files were taken down. -/
  armed : Tree
  /-- The trees since the loop began, the last one first. -/
  trees : List Tree
  /-- The edits after the view was read and before the times were taken down, the last one first. -/
  late : List Edit

namespace Loop

/-- The beginning, after a pass that read its view from a tree. -/
def begin (w : World) (s : State) (view : View) (read : Tree) : Loop where
  world := { (w.arm view.sources).2.tell [.waiting] with batches := [] }
  state := s
  monitor := (w.arm view.sources).1
  next := .poll
  read := read
  armed := w.tree
  trees := [w.tree]
  late := []

/-- Look whether a watched file has changed, and sleep if none has. -/
def poll (l : Loop) : Loop :=
  match l.monitor.changed? l.world.tree with
  | none => { l with world := l.world.slept 1 }
  | some file => { l with world := l.world.tell [.changed file], next := .reload }

/-- Build the view anew. -/
def reload (l : Loop) (view : View) : Except Halt Loop :=
  let (outcome, events) := view.reload l.world.site
  let world := l.world.tell (messagesOf events)
  match outcome with
  | .error (.fault why) => .ok { l with world := world.complain (.unreadable why), next := .rearm }
  | .error why => .error (.aborted why)
  | .ok fresh =>
    .ok { l with world, state := { l.state with view := some fresh }, next := .list, read := world.tree, late := [] }

/-- Write the listing. -/
def list (l : Loop) : Except Halt Loop :=
  match writeListing l.world l.state with
  | (.error why, _) => .error why
  | (.ok state, world) => .ok { l with world, state, next := .arm, trees := world.tree :: l.trees }

/-- Watch files as they are now. -/
def arm (l : Loop) (paths : List Path) : Loop :=
  { l with
    world := (l.world.arm paths).2, monitor := (l.world.arm paths).1, next := .poll, armed := l.world.tree }

/-- The next action. -/
def act (l : Loop) : Except Halt Loop :=
  match l.next, l.state.view with
  | .poll, _ => .ok l.poll
  | .reload, some view => l.reload view
  | .list, _ => l.list
  | .arm, some view => .ok (l.arm view.sources)
  | .rearm, _ => .ok (l.arm l.monitor.paths)
  | _, none => .error (.missingView .sources)

/-- Some more actions. -/
def acts : Nat → Loop → Except Halt Loop
  | 0, l => .ok l
  | n + 1, l =>
    match l.act with
    | .error why => .error why
    | .ok l => l.acts n

/-- The files were edited. -/
def edited (l : Loop) (e : Edit) (tree : Tree) : Loop :=
  { l with
    world := { l.world with tree }
    trees := tree :: l.trees
    late := if l.next = .list ∨ l.next = .arm then e :: l.late else l.late }

/-- What comes of a session from `w₀` and `s₀`, once it watches, if others make only such edits as they may, between
any two actions. -/
inductive Arises (may : Loop → Edit → Prop) (w₀ : World) (s₀ : State) : Loop → Prop
  | begin {w : World} {s : State} {view : View} :
    pipeline onePass w₀ s₀ = (.ok s, w) → s.view = some view →
    Arises may w₀ s₀ (begin w s view (checkInput w₀ s₀).2.tree)
  | act {l l' : Loop} : Arises may w₀ s₀ l → l.act = .ok l' → Arises may w₀ s₀ l'
  | edit {l : Loop} {e : Edit} {tree : Tree} :
    Arises may w₀ s₀ l → may l e → e.apply l.world.tree = (.ok (), tree) → Arises may w₀ s₀ (l.edited e tree)

/-- An edit writes a file, and the time that it sets was not seen before at the file to which it gives it. -/
def Rewrites (l : Loop) (e : Edit) : Prop :=
  ∃ path content time, e = .write path content time ∧
    ∀ place node, (e.apply l.world.tree).2.status path = .ok (place, node) →
      ∀ before ∈ l.trees, before.stamp? (Path.ofPlace place) ≠ some (.set time)

/-- An edit writes a file that is watched and there. -/
def OfWatched (l : Loop) (e : Edit) : Prop :=
  ∃ path content time old, e = .write path content time ∧ path ∈ l.monitor.paths ∧ l.world.tree.read path = .ok old

variable {l l' : Loop} {may : Loop → Edit → Prop} {w w₀ : World} {s s₀ : State} {m : Monitor} {view fresh : View}
  {tree : Tree} {e : Edit} {file : Path} {why : Halt}

/-! ## Without edits in between -/

theorem acts_succ (done : l.act = .ok l') (n : Nat) : l.acts (n + 1) = l'.acts n := by
  rw [acts, done]

theorem acts_add {n : Nat} (done : l.acts n = .ok l') (k : Nat) : l.acts (n + k) = l'.acts k := by
  induction n generalizing l with
  | zero =>
    cases done
    rw [Nat.zero_add]
  | succ n ih =>
    rw [acts] at done
    rw [Nat.succ_add, acts]
    cases first : l.act with
    | error why => rw [first] at done; cases done
    | ok mid => rw [first] at done; exact ih done

theorem act_of_poll (polls : l.next = .poll) : l.act = .ok l.poll := by
  rw [act, polls]

theorem poll_of_unchanged (unchanged : l.monitor.changed? l.world.tree = none) :
    l.poll = { l with world := l.world.slept 1 } := by
  rw [poll, unchanged]

theorem poll_of_changed (changed : l.monitor.changed? l.world.tree = some file) :
    l.poll = { l with world := l.world.tell [.changed file], next := .reload } := by
  rw [poll, changed]

theorem act_of_reload (reloads : l.next = .reload) (shown : l.state.view = some view) : l.act = l.reload view := by
  rw [act, reloads, shown]

theorem act_of_list (lists : l.next = .list) : l.act = l.list := by
  rw [act, lists]

theorem act_of_arm (arms : l.next = .arm) (shown : l.state.view = some view) : l.act = .ok (l.arm view.sources) := by
  rw [act, arms, shown]

theorem act_of_rearm (rearms : l.next = .rearm) : l.act = .ok (l.arm l.monitor.paths) := by
  rw [act, rearms]

theorem acts_of_rebuild (reloads : l.next = .reload) (shown : l.state.view = some view)
    (rebuilt : rebuild l.world l.state view l.monitor = (.ok (s, m), w)) :
    ∃ n l', l.acts n = .ok l' ∧ l'.next = .poll ∧ l'.world = w ∧ l'.state = s ∧ l'.monitor = m ∧
      m.changed? w.tree = none := by
  have first := act_of_reload reloads shown
  unfold reload at first
  unfold rebuild at rebuilt
  generalize view.reload l.world.site = result at first rebuilt
  obtain ⟨outcome, events⟩ := result
  cases outcome with
  | error why =>
    cases why with
    | fault why =>
      cases rebuilt
      exact ⟨2, _, (acts_succ first 1).trans (acts_succ (act_of_rearm rfl) 0), rfl, rfl, rfl, rfl,
        Monitor.changed?_arm _ _⟩
    | _ => cases rebuilt
  | ok fresh =>
    dsimp only at first rebuilt
    split at rebuilt
    · cases rebuilt
    · rename_i listed made
      cases rebuilt
      obtain ⟨_, ⟨⟩, rfl, -, -⟩ := writeListing_ok made
      have second := act_of_list (l := { l with
        world := l.world.tell (messagesOf events), state := { l.state with view := some fresh }, next := .list,
        read := (l.world.tell (messagesOf events)).tree, late := [] }) rfl
      rw [list, made] at second
      exact ⟨3, _, (acts_succ first 2).trans ((acts_succ second 1).trans (acts_succ (act_of_arm rfl rfl) 0)),
        rfl, rfl, rfl, rfl, Monitor.changed?_arm _ _⟩

/-- The actions of a round, with no edit in between, are a look. -/
theorem acts_of_lookAndSleep (polls : l.next = .poll) (shown : l.state.view = some view)
    (looked : lookAndSleep l.world l.state l.monitor = (.ok (s, m), w)) :
    ∃ n l', l.acts n = .ok l' ∧ l'.next = .poll ∧ l'.world = w ∧ l'.state = s ∧ l'.monitor = m := by
  have first := act_of_poll polls
  cases changed : l.monitor.changed? l.world.tree with
  | none =>
    rw [lookAndSleep_of_unchanged changed] at looked
    cases looked
    rw [poll_of_unchanged changed] at first
    exact ⟨1, _, acts_succ first 0, polls, rfl, rfl, rfl⟩
  | some file =>
    rw [poll_of_changed changed] at first
    have again : lookAgain l.world l.state l.monitor =
        rebuild (l.world.tell [.changed file]) l.state view l.monitor := by
      rw [lookAgain, changed, shown]
    unfold lookAndSleep at looked
    rw [again] at looked
    split at looked
    · cases looked
    · rename_i next mid rebuilt
      cases looked
      obtain ⟨n, l', done, polls', rfl, rfl, rfl, unchanged⟩ :=
        acts_of_rebuild (l := { l with world := l.world.tell [.changed file], next := .reload }) rfl shown rebuilt
      have last := act_of_poll polls'
      rw [poll_of_unchanged unchanged] at last
      exact ⟨n + 1 + 1, _, (acts_succ first (n + 1)).trans ((acts_add done 1).trans (acts_succ last 0)),
        polls', rfl, rfl, rfl⟩

/-! ## What is kept -/

/-- The sources of the view are watched, with the times that they had in the tree `l.armed`. -/
structure Armed (l : Loop) (view : View) : Prop where
  founded : l.armed.Founded
  stays : l.read.FilesStay l.armed
  known : l.armed ∈ l.trees
  paths : l.monitor.paths = view.sources
  watched : ∀ file ∈ view.sources, (file, l.armed.stamp? file) ∈ l.monitor.stamps
  times : TimesTell l.armed l.world.tree
  /-- Without edits in between, this is the tree in which the listing of the view was written. -/
  onTime : l.late = [] → l.read.write l.state.listing view.written = .ok l.armed

/-- What holds before the action that comes next. -/
def Due (l : Loop) (view : View) : Prop :=
  match l.next with
  | .poll => l.Armed view
  | .reload => l.Armed view
  | .list => l.late = [] → l.world.tree = l.read
  | .arm => l.late = [] → l.read.write l.state.listing view.written = .ok l.world.tree
  | .rearm => False

/-- What holds between any two actions: the view was read from the tree `l.read`, and all files have stayed since. -/
structure Kept (l : Loop) (view : View) : Prop where
  shown : l.state.view = some view
  faithful : l.world.Faithful
  built : (View.read (l.world.siteAt l.read) view.root).1 = .ok view
  founded : l.world.tree.Founded
  foundedRead : l.read.Founded
  stays : l.read.FilesStay l.world.tree
  here : l.world.tree ∈ l.trees
  due : l.Due view

theorem kept_begin {w₀ : FaithfulWorld} (passed : pipeline onePass w₀.toWorld s₀ = (.ok s, w))
    (shown : s.view = some view) : Kept (begin w s view (checkInput w₀.toWorld s₀).2.tree) view := by
  obtain ⟨-, built, listed⟩ := passed_of_shown passed shown
  obtain ⟨awake, -⟩ := passed_of_onePass passed
  have foundedRead : (checkInput w₀.toWorld s₀).2.tree.Founded := keeps_checkInput kept_founded w₀.founded s₀
  have founded : w.tree.Founded := foundedRead.write listed
  have stays := filesStay_write foundedRead listed
  have here : w.tree ∈ [w.tree] := List.mem_singleton.2 rfl
  exact
    { shown
      faithful := (w₀.faithful.of_keeps awake.toKeeps).of_keeps {}
      built := View.read_root built
      founded
      foundedRead
      stays
      here
      due :=
        { founded
          stays
          known := here
          paths := Monitor.paths_arm w.tree (View.nodup_sources built)
          watched := fun _ mem => Monitor.mem_arm mem
          times := fun _ _ _ file _ => file
          onTime := fun _ => listed } }

theorem Kept.armed (kept : l.Kept view) (polls : l.next = .poll) : l.Armed view := by
  have due := kept.due
  rwa [Due, polls] at due

theorem Kept.poll (kept : l.Kept view) (polls : l.next = .poll) : l.poll.Kept view := by
  have armed := kept.armed polls
  cases changed : l.monitor.changed? l.world.tree with
  | none =>
    rw [poll_of_unchanged changed]
    refine { kept with faithful := kept.faithful.of_keeps {}, built := ?_, due := ?_ }
    · rw [kept.faithful.siteAt_eq {}]
      exact kept.built
    · rw [Due, polls]
      exact { armed with }
  | some file =>
    rw [poll_of_changed changed]
    exact { kept with faithful := kept.faithful.of_keeps {}, due := { armed with } }

theorem Kept.reload (kept : l.Kept view) (read : l.reload view = .ok l') : ∃ fresh, l'.Kept fresh := by
  have noFault : ∀ why, (view.reload l.world.site).1 ≠ .error (.fault why) :=
    fun _ => View.reload_of_filesStay kept.faithful kept.founded kept.built kept.stays
  unfold Loop.reload at read
  cases result : view.reload l.world.site with
  | mk outcome events =>
    rw [result] at read noFault
    cases outcome with
    | error why =>
      cases why with
      | fault why => exact absurd rfl (noFault why)
      | _ => cases read
    | ok fresh =>
      cases read
      have built : (View.read l.world.site view.root).1 = .ok fresh := by
        rw [show View.read l.world.site view.root = _ from result]
      exact ⟨fresh, rfl, kept.faithful.of_keeps {}, View.read_root built, kept.founded, kept.founded, .refl _, kept.here,
        fun _ => rfl⟩

theorem Kept.list (kept : l.Kept view) (lists : l.next = .list) (done : l.list = .ok l') : l'.Kept view := by
  have onTime : l.late = [] → l.world.tree = l.read := by
    have due := kept.due
    rwa [Due, lists] at due
  unfold Loop.list at done
  cases made : writeListing l.world l.state with
  | mk outcome w =>
    rw [made] at done
    cases outcome with
    | error why => cases done
    | ok s =>
      cases done
      obtain ⟨view', shown, rfl, written, awake⟩ := writeListing_ok made
      cases kept.shown.symm.trans shown
      refine ⟨kept.shown, kept.faithful.of_keeps awake.toKeeps, ?_, kept.founded.write written, kept.foundedRead,
        kept.stays.trans (filesStay_write kept.founded written), List.mem_cons_self, fun none => ?_⟩
      · rw [awake.siteAt]
        exact kept.built
      · rw [← onTime none]
        exact written

theorem Kept.arm (kept : l.Kept view) (arms : l.next = .arm) : (l.arm view.sources).Kept view := by
  have onTime : l.late = [] → l.read.write l.state.listing view.written = .ok l.world.tree := by
    have due := kept.due
    rwa [Due, arms] at due
  exact
    { kept with
      faithful := kept.faithful.of_keeps {}
      due :=
        { founded := kept.founded
          stays := kept.stays
          known := kept.here
          paths := Monitor.paths_arm _ (View.nodup_sources kept.built)
          watched := fun _ mem => Monitor.mem_arm mem
          times := fun _ _ _ file _ => file
          onTime } }

/-- An action keeps it. -/
theorem Kept.act (kept : l.Kept view) (done : l.act = .ok l') : ∃ view', l'.Kept view' := by
  cases next : l.next with
  | poll =>
    rw [act_of_poll next] at done
    cases done
    exact ⟨view, kept.poll next⟩
  | reload =>
    rw [act_of_reload next kept.shown] at done
    exact kept.reload done
  | list =>
    rw [act_of_list next] at done
    exact ⟨view, kept.list next done⟩
  | arm =>
    rw [act_of_arm next kept.shown] at done
    cases done
    exact ⟨view, kept.arm next⟩
  | rearm =>
    have due := kept.due
    rw [Due, next] at due
    exact due.elim

theorem Armed.edit (armed : l.Armed view) (founded : l.world.tree.Founded) (rewrites : l.Rewrites e)
    (made : e.apply l.world.tree = (.ok (), tree)) (onTime : (l.edited e tree).late = [] → l.late = []) :
    (l.edited e tree).Armed view := by
  obtain ⟨path, content, time, rfl, new⟩ := rewrites
  rw [made] at new
  refine { armed with
    known := List.mem_cons_of_mem _ armed.known
    times := fun place content stamp file seen => ?_
    onTime := fun none => armed.onTime (onTime none) }
  rcases Edit.file_of_apply founded made file with old | ⟨path, time, node, ⟨⟩, rfl, found⟩
  · exact armed.times place content stamp old seen
  · exact absurd seen (new place node found l.armed armed.known)

/-- An edit keeps it. -/
theorem Kept.edit (kept : l.Kept view) (rewrites : l.Rewrites e) (made : e.apply l.world.tree = (.ok (), tree)) :
    (l.edited e tree).Kept view := by
  have founded := kept.founded.edit made
  have stays : l.world.tree.FilesStay tree := by
    obtain ⟨path, content, time, rfl, -⟩ := rewrites
    exact Edit.filesStay_write kept.founded made
  refine ⟨kept.shown, kept.faithful.of_keeps {}, kept.built, founded, kept.foundedRead, kept.stays.trans stays,
    List.mem_cons_self, ?_⟩
  have due := kept.due
  have late : (l.edited e tree).late = if l.next = .list ∨ l.next = .arm then e :: l.late else l.late := rfl
  have same : (l.edited e tree).next = l.next := rfl
  rw [Due, same]
  rw [Due] at due
  cases next : l.next <;> rw [next] at due late
  case poll => exact due.edit kept.founded rewrites made (by rw [late]; exact id)
  case reload => exact due.edit kept.founded rewrites made (by rw [late]; exact id)
  -- An edit between the two is late, whatever it does.
  case list => exact fun none => absurd (late.symm.trans none) (by simp)
  case arm => exact fun none => absurd (late.symm.trans none) (by simp)
  case rearm => exact due

theorem exists_kept {w₀ : FaithfulWorld} (arises : l.Arises Rewrites w₀.toWorld s₀) : ∃ view, l.Kept view := by
  induction arises with
  | begin passed shown => exact ⟨_, kept_begin passed shown⟩
  | act _ done ih =>
    obtain ⟨view, kept⟩ := ih
    exact kept.act done
  | edit _ rewrites made ih =>
    obtain ⟨view, kept⟩ := ih
    exact ⟨view, kept.edit rewrites made⟩

/-! ## What is shown while no change is seen -/

/-- The view was built from what the watched files hold now. -/
structure Current (l : Loop) (view : View) : Prop where
  built : (View.read (l.world.siteAt l.read) view.root).1 = .ok view
  same : ∀ file ∈ l.monitor.paths, l.world.tree.read file = l.read.read file

/-- As long as no change is seen, a source holds what it held when its time was taken down. -/
theorem Kept.read_armed (kept : l.Kept view) (armed : l.Armed view)
    (unchanged : l.monitor.changed? l.world.tree = none) (source : file ∈ view.sources) :
    l.world.tree.read file = l.armed.read file := by
  obtain ⟨place, content, stamp, rfl, straight, there⟩ := file_of_source kept.faithful kept.built source
  obtain ⟨now, stampNow, straightNow, fileNow, readNow⟩ := kept.stays.read kept.founded straight there
  obtain ⟨before, stampBefore, -, fileBefore, readBefore⟩ := armed.stays.read armed.founded straight there
  have seen : l.world.tree.stamp? (Path.ofPlace place) = some stampNow := by
    rw [stamp?, status_of_straight straightNow fileNow]
  have same := Monitor.stamp_of_unchanged unchanged (armed.watched _ source)
  have old := armed.times place now stampNow fileNow (same.symm.trans seen)
  cases old.symm.trans fileBefore
  rw [readNow, readBefore]

/-- Without edits in between, a source held then what had been read of it, unless the listing is written over it. -/
theorem Kept.armed_read (kept : l.Kept view) (armed : l.Armed view) (none : l.late = [])
    (apart : ∀ found, l.read.lookUp .create l.state.listing = .ok found → Path.ofPlace found.place ∉ view.sources)
    (source : file ∈ view.sources) : l.armed.read file = l.read.read file := by
  obtain ⟨place, content, stamp, rfl, straight, there⟩ := file_of_source kept.faithful kept.built source
  obtain ⟨found, looked, -, -, -, same⟩ := written kept.foundedRead (armed.onTime none)
  have elsewhere : place ≠ found.place := fun e => apart found looked (e ▸ source)
  have kept := (same.file_iff elsewhere).2 there
  rw [armed.founded.read armed.stays.surrogates straight kept, read_of_straight straight there]

/-- **Nothing is lost but what is written late.**  Others may write files between any two actions of the loop, with
times that were not seen there before.  As long as no change is seen, the view is that of the watched files exactly if
each of them held, when its time was taken down, what had been read of it; and so it is if no edit came between the two
and the listing is no source of its own document. -/
theorem current_iff (w₀ : FaithfulWorld) (arises : l.Arises Rewrites w₀.toWorld s₀) (polls : l.next = .poll)
    (unchanged : l.monitor.changed? l.world.tree = none) :
    ∃ view, l.state.view = some view ∧ l.monitor.paths = view.sources ∧
      (l.Current view ↔ ∀ file ∈ l.monitor.paths, l.armed.read file = l.read.read file) ∧
      (l.late = [] →
        (∀ found, l.read.lookUp .create l.state.listing = .ok found → Path.ofPlace found.place ∉ l.monitor.paths) →
        l.Current view) := by
  obtain ⟨view, kept⟩ := exists_kept arises
  have armed := kept.armed polls
  have now : ∀ file ∈ view.sources, l.world.tree.read file = l.armed.read file :=
    fun _ source => kept.read_armed armed unchanged source
  refine ⟨view, kept.shown, armed.paths, ?_, ?_⟩
  · rw [armed.paths]
    constructor
    · intro current file source
      rw [← now file source]
      exact current.same file (armed.paths ▸ source)
    · intro same
      refine ⟨kept.built, fun file mem => ?_⟩
      rw [armed.paths] at mem
      rw [now file mem]
      exact same file mem
  · intro none apart
    refine ⟨kept.built, fun file mem => ?_⟩
    rw [armed.paths] at mem apart
    rw [now file mem]
    exact kept.armed_read armed none apart mem

end Loop

/-! ## A document that is written twice -/

/-- The tree after the document was written again, and its time was set. -/
def Tree.rewritten (t : Tree) (text : String) (time : Int) : Tree :=
  (t.count.put ["menu"] (.file (inAscii text) t.count.now)).put ["menu"] (.file (inAscii text) (.set time))

/-- Someone writes the document. -/
def Edit.rewriting (text : String) (time : Int) : Edit :=
  .write ⟨.root, ["menu"]⟩ (inAscii text) time

/-- A tree with a text as the document, in which the listing was written. -/
structure Tree.Holds (t : Tree) (text : String) (stamp : Stamp) : Prop where
  founded : t.Founded
  surrogates : t.surrogate? = Tree.listed.surrogate?
  menu : t.node? ["menu"] = some (.file (inAscii text) stamp)
  listing : ∃ content stamp, t.node? ["lines.txt"] = some (.file content stamp)

/-- What a document of one line shows. -/
def View.single (text : String) : View where
  root := ⟨.root, ["menu"]⟩
  title := "/menu"
  entries := [⟨text, ⟨.root, ["menu"]⟩, 1, .normal, {}⟩]
  sources := [⟨.root, ["menu"]⟩]

section Rewritten

variable {t : Tree} {text : String} {stamp : Stamp}

theorem holds_listed : Tree.listed.Holds "#-import a" (.set 0) :=
  ⟨founded_listed, rfl, rfl, _, _, node?_create_self _ _ _⟩

theorem Tree.Holds.straight (holds : t.Holds text stamp) : t.Straight ["menu"] :=
  holds.founded.straight holds.surrogates straight_menu holds.menu (by simp)

theorem Tree.Holds.read (holds : t.Holds text stamp) : t.read ⟨.root, ["menu"]⟩ = .ok (inAscii text) :=
  read_of_straight holds.straight holds.menu

theorem Tree.Holds.stamped (holds : t.Holds text stamp) : t.stamp? ⟨.root, ["menu"]⟩ = some stamp := by
  rw [stamp?, ← Path.ofPlace, status_of_straight holds.straight holds.menu]

theorem Tree.Holds.straight_listing (holds : t.Holds text stamp) : t.Straight ["lines.txt"] := by
  obtain ⟨content, stamp, there⟩ := holds.listing
  exact Straight.root.append proper_listing.named
    (entry_of_node holds.founded.root (proper_listing.of_surrogates holds.surrogates) there) (by simp)

theorem Tree.Holds.apply (holds : t.Holds text stamp) (text' : String) (time : Int) (settable : isTime time = true) :
    (Edit.rewriting text' time).apply t = (.ok (), t.rewritten text' time) :=
  Edit.write_of_file holds.founded (show t.Straight ([] ++ ["menu"]) from holds.straight) holds.menu rfl
    (proper_menu.of_surrogates holds.surrogates).clean _ settable

theorem Tree.Holds.rewritten (holds : t.Holds text stamp) (text' : String) (time : Int)
    (settable : isTime time = true) : (t.rewritten text' time).Holds text' (.set time) := by
  obtain ⟨content, stamp, there⟩ := holds.listing
  refine ⟨holds.founded.edit (holds.apply text' time settable), holds.surrogates, node?_put_self _ _ _, content, stamp,
    ?_⟩
  rw [Tree.rewritten, node?_put_of_ne (by decide), node?_put_of_ne (by decide)]
  exact there

/-- A build of it. -/
theorem Tree.Holds.reads (holds : t.Holds "x" stamp) :
    (View.read (World.importing.siteAt t) ⟨.root, ["menu"]⟩).1 = .ok (.single "x") := by
  have entry := entry_of_node holds.founded.root (proper_menu.of_surrogates holds.surrogates) holds.menu
  have opened : (World.importing.siteAt t).openFile ⟨.root, ["menu"]⟩ = .ok (.ofLines ["x"]) := by
    refine (World.opened_importing (by decide) entry).trans ?_
    rfl
  have document : (World.importing.siteAt t).openDocument ⟨.root, ["menu"]⟩ =
      .ok (⟨.root, ["menu"]⟩, .ofLines ["x"]) :=
    Site.openDocument_ok_iff.2 ⟨canonical_of_straight holds.straight, opened⟩
  have markers : (World.importing.siteAt t).markers = {} := rfl
  have first : (Build.start ⟨.root, ["menu"]⟩ (.ofLines ["x"])).step (World.importing.siteAt t) = _ :=
    Build.step_of_react (c := ⟨⟨.root, ["menu"]⟩, 0, true, { stream := .ofLines ["x"] }, 0, 0, [], {}⟩)
      (show _ = Except.ok (1, Directive.text "x") by rw [markers]; rfl) rfl
  have whole : Build.Leads (World.importing.siteAt t) _ _ ⟨[], _⟩ := .step trivial first (.single trivial rfl)
  rw [View.read_of_leads document whole rfl]
  rfl

end Rewritten

namespace Loop

variable {l : Loop}

theorem Arises.mono {may may' : Loop → Edit → Prop} {w₀ : World} {s₀ : State} (weaker : ∀ l e, may l e → may' l e)
    (arises : l.Arises may w₀ s₀) : l.Arises may' w₀ s₀ := by
  induction arises with
  | begin passed shown => exact .begin passed shown
  | act _ done ih => exact ih.act done
  | edit _ allowed made ih => exact ih.edit (weaker _ _ allowed) made

/-- The document is watched as it was when the listing was written. -/
structure Begun (l : Loop) : Prop where
  next : l.next = .poll
  shown : l.state.view = some .lacking
  listing : l.state.listing = ⟨.root, ["lines.txt"]⟩
  keeps : World.importing.Keeps l.world
  tree : l.world.tree = .listed
  trees : l.trees = [.listed]
  monitor : l.monitor = .arm .listed [⟨.root, ["menu"]⟩]

/-- The document was read again, after it was written for the first time. -/
structure Reread (l : Loop) : Prop where
  next : l.next = .list
  shown : l.state.view = some (.single "x")
  listing : l.state.listing = ⟨.root, ["lines.txt"]⟩
  keeps : World.importing.Keeps l.world
  tree : l.world.tree = Tree.listed.rewritten "x" 2
  read : l.read = Tree.listed.rewritten "x" 2
  late : l.late = []
  trees : l.trees = [Tree.listed.rewritten "x" 2, .listed]
  paths : l.monitor.paths = [⟨.root, ["menu"]⟩]

/-- The document, which is watched, is written with a new time. -/
theorem rewrites_of_holds {text : String} {stamp : Stamp} (holds : l.world.tree.Holds text stamp)
    (watched : ⟨.root, ["menu"]⟩ ∈ l.monitor.paths) (text' : String) (time : Int) (settable : isTime time = true)
    (new : ∀ before ∈ l.trees, before.stamp? ⟨.root, ["menu"]⟩ ≠ some (.set time)) :
    l.Rewrites (.rewriting text' time) ∧ l.OfWatched (.rewriting text' time) := by
  refine ⟨⟨_, _, _, rfl, fun place node found => ?_⟩, _, _, _, _, rfl, watched, holds.read⟩
  rw [holds.apply text' time settable] at found
  have there := holds.rewritten text' time settable
  cases found.symm.trans (status_of_straight there.straight there.menu)
  exact new

theorem act_of_changed {file : Path} (polls : l.next = .poll) (changed : l.monitor.changed? l.world.tree = some file) :
    l.act = .ok { l with world := l.world.tell [.changed file], next := .reload } := by
  rw [act_of_poll polls, poll_of_changed changed]

/-- Once a change is seen, the document is read again. -/
theorem Arises.exists_reload {may : Loop → Edit → Prop} {w₀ : World} {s₀ : State} {view fresh : View}
    (arises : l.Arises may w₀ s₀) (polls : l.next = .poll) (shown : l.state.view = some view)
    (changed : l.monitor.changed? l.world.tree ≠ none) (built : (view.reload l.world.site).1 = .ok fresh) :
    ∃ l' : Loop, l'.Arises may w₀ s₀ ∧ l'.next = .list ∧ l'.state = { l.state with view := some fresh } ∧
      l.world.Keeps l'.world ∧ l'.world.tree = l.world.tree ∧ l'.monitor = l.monitor ∧ l'.read = l.world.tree ∧
      l'.trees = l.trees ∧ l'.late = [] := by
  obtain ⟨file, changed⟩ := Option.ne_none_iff_exists'.1 changed
  have polled := arises.act (act_of_changed polls changed)
  obtain ⟨l₁, done, state, keeps, tree, site, monitor, next, trees⟩ : ∃ l₁ : Loop, l₁.Arises may w₀ s₀ ∧
      l₁.state = l.state ∧ l.world.Keeps l₁.world ∧ l₁.world.tree = l.world.tree ∧ l₁.world.site = l.world.site ∧
      l₁.monitor = l.monitor ∧ l₁.next = .reload ∧ l₁.trees = l.trees :=
    ⟨_, polled, rfl, {}, rfl, rfl, rfl, rfl, rfl⟩
  have read := act_of_reload next (state ▸ shown)
  unfold reload at read
  rw [site] at read
  generalize view.reload l.world.site = result at built read
  obtain ⟨outcome, events⟩ := result
  cases built
  exact ⟨_, done.act read, rfl, by rw [state], keeps.trans {}, tree, monitor, tree, trees, rfl⟩

/-- Then the listing is written, and the sources are watched. -/
theorem Arises.exists_arm {may : Loop → Edit → Prop} {w₀ : World} {s₀ : State} {view : View} {tree : Tree}
    (arises : l.Arises may w₀ s₀) (lists : l.next = .list) (shown : l.state.view = some view)
    (writes : l.world.WritesAll)
    (written : l.world.tree.write l.state.listing view.written = .ok tree) :
    ∃ l' : Loop, l'.Arises may w₀ s₀ ∧ l'.next = .poll ∧ l'.state = { l.state with rendered := view.listing true } ∧
      l'.world.tree = tree ∧ l'.monitor = .arm tree view.sources ∧ l'.read = l.read ∧ l'.late = l.late := by
  obtain ⟨w, listed, rfl, -⟩ := writeListing_of_write shown writes written
  have done := act_of_list lists
  rw [list, listed] at done
  have armed := (arises.act done).act (act_of_arm rfl shown)
  exact ⟨_, armed, rfl, rfl, rfl, rfl, rfl, rfl⟩

theorem changed_of_rewritten :
    (Monitor.arm .listed [⟨.root, ["menu"]⟩]).changed? (Tree.listed.rewritten "x" 2) ≠ none := by
  intro unchanged
  have same := Monitor.stamp_of_unchanged unchanged (Monitor.mem_arm (List.mem_singleton.2 rfl))
  rw [holds_listed.stamped, (holds_listed.rewritten "x" 2 rfl).stamped] at same
  cases same

theorem exists_begun (may : Loop → Edit → Prop) : ∃ l : Loop, l.Arises may .importing .importing ∧ l.Begun := by
  obtain ⟨w, s, imported⟩ := World.exists_imported
  obtain ⟨passed, shown, document, listing, tree, awake, read⟩ := imported
  refine ⟨_, .begin passed shown, rfl, shown, listing, awake.toKeeps.trans {}, tree, ?_, ?_⟩
  · rw [← tree]
    rfl
  · rw [← tree]
    rfl

/-- The listing is written over the old one, and the document is watched. -/
theorem Arises.exists_arm_of_holds {may : Loop → Edit → Prop} {text : String} {stamp : Stamp}
    (arises : l.Arises may .importing .importing) (lists : l.next = .list)
    (shown : l.state.view = some (.single "x")) (listing : l.state.listing = ⟨.root, ["lines.txt"]⟩)
    (keeps : World.importing.Keeps l.world) (holds : l.world.tree.Holds text stamp) :
    ∃ l' : Loop, l'.Arises may .importing .importing ∧ l'.next = .poll ∧
      l'.monitor.changed? l'.world.tree = none ∧ l'.monitor.paths = [⟨.root, ["menu"]⟩] ∧
      l'.state.view = some (.single "x") ∧ l'.state.listing = ⟨.root, ["lines.txt"]⟩ ∧ l'.read = l.read ∧
      l'.late = l.late ∧ l'.world.tree.read ⟨.root, ["menu"]⟩ = .ok (inAscii text) := by
  obtain ⟨content, old, there⟩ := holds.listing
  have written := Tree.write_of_file holds.straight_listing there
    (proper_listing.of_surrogates holds.surrogates).clean (View.single "x").written
  rw [Path.ofPlace, ← listing] at written
  have writes : l.world.WritesAll :=
    ⟨fun _ => congrFun keeps.unprintable _, fun _ => congrFun holds.surrogates _⟩
  obtain ⟨l', armed, next, state, tree, monitor, read, late⟩ := arises.exists_arm lists shown writes written
  have file : l'.world.tree.node? ["menu"] = some (.file (inAscii text) stamp) := by
    rw [tree, node?_put_of_ne (by decide)]
    exact holds.menu
  have founded : l'.world.tree.Founded := tree ▸ holds.founded.write written
  have surrogates : l'.world.tree.surrogate? = l.world.tree.surrogate? := tree ▸ surrogate?_of_write written
  refine ⟨l', armed, next, ?_, ?_, by rw [state]; exact shown, by rw [state]; exact listing, read, late,
    founded.read surrogates holds.straight file⟩
  · rw [monitor, tree]
    exact Monitor.changed?_arm _ _
  · rw [monitor]
    rfl

/-- Someone writes the document while the loop waits, and it is read again. -/
theorem exists_reread :
    ∃ l : Loop, l.Arises (fun l e => l.Rewrites e ∧ l.OfWatched e) .importing .importing ∧ l.Reread := by
  obtain ⟨l, arises, begun⟩ := exists_begun fun l e => l.Rewrites e ∧ l.OfWatched e
  have holds : l.world.tree.Holds "#-import a" (.set 0) := begun.tree ▸ holds_listed
  have allowed := rewrites_of_holds holds (by rw [begun.monitor]; decide) "x" 2 rfl (by
    rw [begun.trees, List.forall_mem_singleton, holds_listed.stamped]
    decide)
  have edited := arises.edit allowed (holds.apply "x" 2 rfl)
  rw [begun.tree] at edited
  have built : (View.lacking.reload (World.importing.siteAt (Tree.listed.rewritten "x" 2))).1 = .ok (.single "x") := by
    rw [View.reload, View.lacking]
    exact (holds_listed.rewritten "x" 2 rfl).reads
  rw [← World.faithful_importing.siteAt_eq begun.keeps] at built
  obtain ⟨l', reloaded, next, state, keeps, tree, monitor, read, trees, late⟩ :=
    edited.exists_reload begun.next begun.shown (begun.monitor ▸ changed_of_rewritten) built
  refine ⟨l', reloaded, next, by rw [state], by rw [state]; exact begun.listing,
    (begun.keeps.trans {}).trans keeps, tree, read, late, ?_, ?_⟩
  · exact trees.trans (congrArg (List.cons _) begun.trees)
  · rw [monitor, show (l.edited _ _).monitor = l.monitor from rfl, begun.monitor]
    rfl

/-- Without another edit, the view is that of the document. -/
theorem current_of_early :
    ∃ l : Loop, World.importing.tree.Founded ∧ l.Arises Rewrites .importing .importing ∧ l.next = .poll ∧
      l.monitor.changed? l.world.tree = none ∧ l.state.view = some (.single "x") ∧ l.late = [] ∧
      l.Current (.single "x") := by
  obtain ⟨l, arises, reread⟩ := exists_reread
  have holds := holds_listed.rewritten "x" 2 rfl
  obtain ⟨l', arises, polls, unchanged, paths, shown, listing, read, late, -⟩ :=
    (arises.mono fun _ _ allowed => allowed.1).exists_arm_of_holds reread.next reread.shown reread.listing
      reread.keeps (reread.tree ▸ holds)
  obtain ⟨view, shown', -, -, current⟩ := current_iff .importing arises polls unchanged
  cases shown.symm.trans shown'
  refine ⟨l', founded_holding _, arises, polls, unchanged, shown, late.trans reread.late,
    current (late.trans reread.late) fun found looked => ?_⟩
  rw [read, reread.read, listing, ← Path.ofPlace, lookUp_of_straight .create holds.straight_listing] at looked
  cases looked
  rw [paths]
  decide

/-- The document is written after it was read, and before the time is taken down that it has then. -/
theorem stale_of_late :
    ∃ l : Loop, World.importing.tree.Founded ∧
      l.Arises (fun l e => l.Rewrites e ∧ l.OfWatched e) .importing .importing ∧ l.next = .poll ∧
      l.monitor.changed? l.world.tree = none ∧ l.state.view = some (.single "x") ∧
      l.world.tree.read ⟨.root, ["menu"]⟩ = .ok (inAscii "y") ∧ ¬ l.Current (.single "x") := by
  obtain ⟨l, arises, reread⟩ := exists_reread
  have first := holds_listed.rewritten "x" 2 rfl
  have holds : l.world.tree.Holds "x" (.set 2) := reread.tree ▸ first
  have allowed := rewrites_of_holds holds (by rw [reread.paths]; decide) "y" 3 rfl (by
    rw [reread.trees, List.forall_mem_cons, List.forall_mem_singleton, first.stamped, holds_listed.stamped]
    decide)
  have edited := arises.edit allowed (holds.apply "y" 3 rfl)
  obtain ⟨l', arises, polls, unchanged, paths, shown, -, read, -, now⟩ :=
    edited.exists_arm_of_holds reread.next reread.shown reread.listing (reread.keeps.trans {})
      (holds.rewritten "y" 3 rfl)
  refine ⟨l', founded_holding _, arises, polls, unchanged, shown, now, fun current => ?_⟩
  have same := current.same ⟨.root, ["menu"]⟩ (by rw [paths]; decide)
  have was : l'.read.read ⟨.root, ["menu"]⟩ = .ok (inAscii "x") := by
    rw [read, show (l.edited _ _).read = l.read from rfl, reread.read]
    exact first.read
  rw [now, was] at same
  exact absurd same (by decide)

end Loop

end Menu
