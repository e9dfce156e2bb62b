import Menu.Proofs.Session.Unmoved

/-!
# What is shown while no watched file changes

The loop builds anew when a watched file has another time, and the watched files are those that the last build opened.
So its listing is that of a fresh build as long as no change is seen, if all that the last build looked up comes out as
it did then, if each write gives its file a new time, and if the listing itself is not read by the document.  Nothing
less will do: what a build looked for and did not find is not watched, nor are the links on the way.

* `Vigil.Upkeep`: what holds between two looks, kept by a look (`Upkeep.look`) and by an edit (`Upkeep.edit`).
* `Vigil.output_of_unchanged`: the output file is the listing of a fresh build.
* `Vigil.stale_of_missing`: it is not, once a file comes that the document looked for.
-/

namespace Menu

open Build Menu.Tree

/-! ## Monitors -/

namespace Monitor

variable {m : Monitor} {t : Tree} {file : Path} {stamp : Option Stamp} {paths : List Path}

theorem mem_arm (mem : file ∈ paths) : (file, t.stamp? file) ∈ (arm t paths).stamps :=
  List.mem_map_of_mem (List.mem_eraseDups.2 mem)

theorem stamp_of_unchanged (h : m.changed? t = none) (mem : (file, stamp) ∈ m.stamps) : t.stamp? file = stamp := by
  have same := List.find?_eq_none.1 (Option.map_eq_none_iff.1 h) _ mem
  simpa using same

theorem unchanged_of_same {before : Tree} (same : ∀ file ∈ paths, t.stamp? file = before.stamp? file) :
    (arm before paths).changed? t = none := by
  rw [changed?, Option.map_eq_none_iff, List.find?_eq_none]
  rintro ⟨file, stamp⟩ mem
  obtain ⟨file', mem', ⟨⟩⟩ := List.mem_map.1 mem
  simpa using same _ (List.mem_eraseDups.1 mem')

end Monitor

/-! ## What the loop keeps up -/

/-- A file with the time that its path showed in an earlier tree is the file that was there. -/
def Tree.TimesTell (before now : Tree) : Prop :=
  ∀ place content stamp, now.node? place = some (.file content stamp) →
    before.stamp? (Path.ofPlace place) = some stamp → before.node? place = some (.file content stamp)

namespace Vigil

/-- An edit after which the output file can be read as before it. -/
def SparesOutput (v : Vigil) (e : Edit) : Prop :=
  (e.apply v.world.tree).2.read v.state.listing = v.world.tree.read v.state.listing

/-- The time that an edit sets was not seen before at the file to which it gives it. -/
def SetsNewTime (v : Vigil) (e : Edit) : Prop :=
  ∀ path time place node, e.sets? = some (path, time) → (e.apply v.world.tree).2.status path = .ok (place, node) →
    ∀ before ∈ v.trees, before.stamp? (Path.ofPlace place) ≠ some (.set time)

/-- What holds between any two looks: the output file has the listing of the view, which was read on the site
`v.built`, and its sources are watched since the tree `armed`. -/
structure Upkeep (v : Vigil) (view : View) (armed : Tree) : Prop where
  shown : v.state.view = some view
  read : (View.read v.built view.root).1 = .ok view
  output : v.world.tree.read v.state.listing = .ok view.written
  faithful : v.world.Faithful
  site : v.built = v.world.siteAt v.built.tree
  founded : v.world.tree.Founded
  foundedBuilt : v.built.tree.Founded
  foundedArmed : armed.Founded
  /-- All these trees take the same names. -/
  surrogates : v.built.tree.surrogate? = v.world.tree.surrogate? ∧ armed.surrogate? = v.world.tree.surrogate?
  known : armed ∈ v.trees
  watched : ∀ file ∈ view.sources, (file, armed.stamp? file) ∈ v.monitor.stamps
  times : TimesTell armed v.world.tree
  /-- They are watched since the listing was written, or since a build failed. -/
  since : v.built.tree.write v.state.listing view.written = .ok armed ∨
    ∃ why, (View.read (v.world.siteAt armed) view.root).1 = .error (.fault why)

variable {v : Vigil} {w : World} {s s₀ : State} {m : Monitor} {view : View} {armed tree : Tree} {e : Edit}

theorem upkeep_begin {w₀ : FaithfulWorld} (passed : pipeline onePass w₀.toWorld s₀ = (.ok s, w))
    (shown : s.view = some view) : Upkeep (begin w s view (checkInput w₀.toWorld s₀).2.tree) view w.tree := by
  obtain ⟨-, built, listed⟩ := passed_of_shown passed shown
  obtain ⟨awake, -⟩ := passed_of_onePass passed
  have faithful : w.Faithful := w₀.faithful.of_keeps awake.toKeeps
  have foundedBuilt : (checkInput w₀.toWorld s₀).2.tree.Founded := keeps_checkInput kept_founded w₀.founded s₀
  have founded : w.tree.Founded := foundedBuilt.write listed
  exact
    { shown
      read := View.read_root built
      output := read_of_write foundedBuilt listed
      faithful := faithful.of_keeps {}
      site := (congrFun (faithful.siteAt_eq {}) _).symm
      founded
      foundedBuilt
      foundedArmed := founded
      surrogates := ⟨(surrogate?_of_write listed).symm, rfl⟩
      known := List.mem_singleton.2 rfl
      watched := fun _ mem => Monitor.mem_arm mem
      times := fun _ _ _ file _ => file
      since := .inl listed }

theorem Upkeep.edit (upkeep : Upkeep v view armed) (spares : v.SparesOutput e) (new : v.SetsNewTime e)
    (made : e.apply v.world.tree = (.ok (), tree)) : Upkeep (v.edited tree) view armed := by
  unfold SparesOutput at spares
  unfold SetsNewTime at new
  rw [made] at spares new
  refine { upkeep with
    output := spares.trans upkeep.output
    faithful := upkeep.faithful.of_keeps {}
    site := upkeep.site.trans (congrFun (upkeep.faithful.siteAt_eq {}) _).symm
    founded := upkeep.founded.edit made
    surrogates := by
      have same := surrogate?_of_edit made
      exact ⟨upkeep.surrogates.1.trans same.symm, upkeep.surrogates.2.trans same.symm⟩
    known := List.mem_cons_of_mem _ upkeep.known
    times := fun place content stamp file seen => ?_ }
  rcases Edit.file_of_apply upkeep.founded made file with old | ⟨path, time, node, sets, rfl, found⟩
  · exact upkeep.times place content stamp old seen
  · exact absurd seen (new path time place node sets found armed upkeep.known)

theorem Upkeep.look (upkeep : Upkeep v view armed) (looked : lookAndSleep v.world v.state v.monitor = (.ok (s, m), w)) :
    ∃ view' armed', Upkeep (v.looked w s m) view' armed' := by
  obtain ⟨keeps, look⟩ := look_of_lookAndSleep upkeep.shown looked
  have faithful : w.Faithful := upkeep.faithful.of_keeps keeps
  have sites : w.siteAt = v.world.siteAt := upkeep.faithful.siteAt_eq keeps
  generalize sameTree : w.tree = tree at look
  generalize sameBuilt : v.builtNext = built at look
  cases look with
  | unchanged =>
    refine ⟨view, armed, upkeep.shown, ?read, ?output, faithful, ?site, ?founded, ?foundedBuilt, upkeep.foundedArmed,
      ?surrogates, ?known, upkeep.watched, ?times, ?since⟩
    all_goals simp only [Vigil.looked, sites, sameTree, sameBuilt]
    case read => exact upkeep.read
    case site => exact upkeep.site
    case output => exact upkeep.output
    case founded => exact upkeep.founded
    case foundedBuilt => exact upkeep.foundedBuilt
    case surrogates => exact upkeep.surrogates
    case known => exact List.mem_cons_of_mem _ upkeep.known
    case times => exact upkeep.times
    case since => exact upkeep.since
  | failed why changed reloaded =>
    refine ⟨view, v.world.tree, upkeep.shown, ?read, ?output, faithful, ?site, ?founded, ?foundedBuilt,
      upkeep.founded, ?surrogates, ?known,
      fun file mem => Monitor.mem_arm (List.mem_map_of_mem (upkeep.watched file mem)), ?times, ?since⟩
    all_goals simp only [Vigil.looked, sites, sameTree, sameBuilt]
    case read => exact upkeep.read
    case site => exact upkeep.site
    case output => exact upkeep.output
    case founded => exact upkeep.founded
    case foundedBuilt => exact upkeep.foundedBuilt
    case surrogates => exact ⟨upkeep.surrogates.1, trivial⟩
    case known => exact List.mem_cons_self
    case times => exact fun _ _ _ file _ => file
    case since => exact .inr ⟨why, reloaded⟩
  | rebuilt fresh tree changed reloaded listed =>
    have founded : tree.Founded := upkeep.founded.write listed
    refine ⟨fresh, tree, rfl, ?read, ?output, faithful, ?site, ?founded, ?foundedBuilt, founded, ?surrogates,
      ?known, fun file mem => Monitor.mem_arm mem, ?times, ?since⟩
    all_goals simp only [Vigil.looked, sites, sameTree, sameBuilt]
    case read => exact View.read_root reloaded
    case site => rfl
    case output => exact read_of_write upkeep.founded listed
    case founded => exact founded
    case foundedBuilt => exact upkeep.founded
    case surrogates => exact ⟨(surrogate?_of_write listed).symm, trivial⟩
    case known => exact List.mem_cons_self
    case times => exact fun _ _ _ file _ => file
    case since => exact .inl listed

/-- Others may make edits that spare the output file and set new times. -/
theorem exists_upkeep (w₀ : FaithfulWorld)
    (arises : v.Arises (fun v e => v.SparesOutput e ∧ v.SetsNewTime e) w₀.toWorld s₀) :
    ∃ view armed, Upkeep v view armed := by
  induction arises with
  | begin passed shown => exact ⟨_, _, upkeep_begin passed shown⟩
  | look _ looked ih =>
    obtain ⟨view, armed, upkeep⟩ := ih
    exact upkeep.look looked
  | edit _ allowed made ih =>
    obtain ⟨view, armed, upkeep⟩ := ih
    exact ⟨view, armed, upkeep.edit allowed.1 allowed.2 made⟩

section Unchanged

variable {content : List UInt8} {file : Path} {fresh : View}

/-- As long as no change is seen, a source that can be read is the file that has been watched. -/
theorem Upkeep.armed_file (upkeep : Upkeep v view armed) (unchanged : v.monitor.changed? v.world.tree = none)
    (source : file ∈ view.sources) (canonical : v.world.tree.canonical file = .ok file)
    (read : v.world.tree.read file = .ok content) :
    ∃ place stamp, file = Path.ofPlace place ∧ v.world.tree.Straight place ∧
      armed.node? place = some (.file content stamp) := by
  obtain ⟨place, rfl, straight⟩ := straight_of_canonical canonical
  rcases read_of_straight_cases straight with ⟨content', stamp, here, read'⟩ | refused
  · cases read.symm.trans read'
    have seen : v.world.tree.stamp? (Path.ofPlace place) = some stamp := by
      rw [stamp?, status_of_straight straight here]
    have same := Monitor.stamp_of_unchanged unchanged (upkeep.watched _ source)
    exact ⟨place, stamp, rfl, straight, upkeep.times place content stamp here (same.symm.trans seen)⟩
  · rw [read] at refused
    cases refused

/-- It is watched since the listing was written: a build that failed would not have failed. -/
theorem Upkeep.listed (upkeep : Upkeep v view armed) (unchanged : v.monitor.changed? v.world.tree = none)
    (canonical : v.world.tree.canonical v.state.document = .ok view.root)
    (again : (View.read v.world.site v.state.document).1 = .ok fresh) :
    v.built.tree.write v.state.listing view.written = .ok armed := by
  have faithful := upkeep.faithful
  rcases upkeep.since with listed | ⟨why, failed⟩
  · exact listed
  · have read := upkeep.read
    rw [upkeep.site] at read
    obtain ⟨text, texts⟩ := exists_opensWith_of_read faithful read
    obtain ⟨stream, leadsThere, opened⟩ := View.opened_of_read again
    rw [Except.ok.inj (leadsThere.symm.trans canonical)] at opened
    obtain ⟨content, read⟩ := (opened_iff_read faithful texts).1 ⟨stream, opened⟩
    obtain ⟨place, stamp, e, straight, here⟩ := upkeep.armed_file unchanged
      (View.root_mem_sources upkeep.read) (canonical_of_canonical canonical) read
    rw [e] at failed
    have found := upkeep.foundedArmed.straight upkeep.surrogates.2 straight here (by simp)
    have readable := upkeep.foundedArmed.read upkeep.surrogates.2 straight here
    obtain ⟨stream', opened'⟩ := (opened_iff_read faithful texts).2 ⟨content, readable⟩
    have failed' := View.openDocument_of_fault (faithful.faultless armed) failed
    rw [Site.openDocument_ok_iff.2 ⟨canonical_of_straight found, opened'⟩] at failed'
    cases failed'

/-- Since then, the sources hold what they held, the output file apart. -/
theorem Upkeep.same_sources (upkeep : Upkeep v view armed) (unchanged : v.monitor.changed? v.world.tree = none)
    (listed : v.built.tree.write v.state.listing view.written = .ok armed)
    (apart : ∀ found, v.built.tree.lookUp .create v.state.listing = .ok found →
      Path.ofPlace found.place ∉ view.sources)
    (source : file ∈ view.sources) (canonical : v.world.tree.canonical file = .ok file)
    (read : v.world.tree.read file = .ok content) : v.built.tree.read file = .ok content := by
  obtain ⟨place, stamp, rfl, straight, here⟩ := upkeep.armed_file unchanged source canonical read
  obtain ⟨found, looked, -, -, -, same⟩ := written upkeep.foundedBuilt listed
  have elsewhere : place ≠ found.place := fun e => apart found looked (e ▸ source)
  exact upkeep.foundedBuilt.read upkeep.surrogates.1 straight ((same.file_iff elsewhere).1 here)

/-- **A watched document is shown as it is.**  Whenever no change is seen and the document can be read, the output file
is the listing of a fresh build, however the files were edited before and whichever builds failed: provided that no
write gives a file a time that was seen there before, that the lookups of the last build still come out as they did in
it, and that the listing is no source of its own document. -/
theorem output_of_unchanged (w₀ : FaithfulWorld)
    (arises : v.Arises (fun v e => v.SparesOutput e ∧ v.SetsNewTime e) w₀.toWorld s₀) (shown : v.state.view = some view)
    (apart : ∀ found, v.built.tree.lookUp .create v.state.listing = .ok found →
      Path.ofPlace found.place ∉ view.sources)
    (unmoved : Unmoved v.built v.world.site v.state.document view)
    (unchanged : v.monitor.changed? v.world.tree = none)
    (again : (View.read v.world.site v.state.document).1 = .ok fresh) :
    v.world.tree.read v.state.listing = .ok fresh.written := by
  obtain ⟨view', armed, upkeep⟩ := exists_upkeep w₀ arises
  cases shown.symm.trans upkeep.shown
  have listed := upkeep.listed unchanged unmoved.document again
  have site : v.world.siteAt v.built.tree = v.built := upkeep.site.symm
  have same : fresh = view := View.read_of_unmoved upkeep.faithful (by rw [site]; exact upkeep.read)
    (by rw [site]; exact unmoved)
    (fun file mem content canonical read => upkeep.same_sources unchanged listed apart mem canonical read) again
  rw [same]
  exact upkeep.output

end Unchanged

end Vigil

/-! ## A document that imports what is missing -/

/-- A document with an import, in the root directory. -/
def World.importing : World where
  tree := .holding [("menu", "#-import a")]
  home? := none
  settings := { encoding := "ascii" }
  start _ := .ok 1

/-- A session on it. -/
def State.importing : State where
  inputDirectory := .ofPlace []
  outputDirectory := .ofPlace []
  inputFile := "menu"

/-- What the document shows while there is nothing to import. -/
def View.lacking : View where
  root := ⟨.root, ["menu"]⟩
  title := "/menu"
  entries := [⟨"could not import a: could not find a", ⟨.root, ["menu"]⟩, 1, .warning, {}⟩]
  sources := [⟨.root, ["menu"]⟩]

/-- What it shows once there is. -/
def View.found : View where
  root := ⟨.root, ["menu"]⟩
  title := "/menu"
  entries := [⟨"x", ⟨.root, ["a"]⟩, 1, .normal, {}⟩]
  sources := [⟨.root, ["menu"]⟩, ⟨.root, ["a"]⟩]

/-- The bytes of a text in ASCII. -/
def inAscii (text : String) : List UInt8 :=
  text.toList.map fun c => UInt8.ofNat c.toNat

theorem World.faithful_importing : importing.Faithful := rfl

theorem World.opened_importing {t : Tree} {name text : String} {stamp : Stamp}
    (named : name ≠ "" ∧ name ≠ "." ∧ name ≠ "..")
    (there : t.entry [] name = .ok (.file (inAscii text) stamp)) :
    (importing.siteAt t).openFile ⟨.root, [name]⟩ =
      .ok (.ofText (Text.unifyBreaks (Text.Encoding.ascii.decode (inAscii text)))) := by
  have straight : t.Straight [name] := Straight.root.append named there (by simp)
  have content := read_of_straight straight (entry_eq_ok there)
  have encoding : importing.settings.encoding = "ascii" := rfl
  have known : Text.Encoding.ofName? "ascii" = some .ascii := by decide +kernel
  have clean : '\x00' ∉ "ascii".toList := by decide +kernel
  rw [faithful_importing.openFile, encoding, openIn, if_neg clean, ← Path.ofPlace, content, known]

theorem World.expand_a (t : Tree) : (importing.siteAt t).expand? "a" = some ⟨.here, ["a"]⟩ := by
  have plain : afterTilde? "a".toList = none := by decide +kernel
  have path : Path.ofText "a" = ⟨.here, ["a"]⟩ := by decide +kernel
  simp only [Site.expand?, plain, path]

theorem World.resolve_missing {t : Tree} (missing : t.entry [] "a" = .error (.refused .notFound ⟨.root, ["a"]⟩)) :
    (importing.siteAt t).resolve "a" ⟨.root, []⟩ = .error (.bad (.notFound ⟨.here, ["a"]⟩)) := by
  have lost : (importing.siteAt t).tree.canonical ⟨.root, ["a"]⟩ = .error (.refused .notFound ⟨.root, ["a"]⟩) := by
    change t.canonical _ = _
    rw [canonical, walk_of_error (by decide) (by decide) missing]
    rfl
  rw [Site.resolve, expand_a]
  simp only [Path.join_here, List.nil_append, lost]

theorem World.opened_menu {t : Tree} {stamp : Stamp}
    (menu : t.entry [] "menu" = .ok (.file (inAscii "#-import a") stamp)) :
    (importing.siteAt t).openFile ⟨.root, ["menu"]⟩ = .ok (.ofLines ["#-import a"]) := by
  rw [opened_importing (by decide) menu]
  rfl

section Lacking

variable {t t' : Tree}

/-- The document is there, and what it imports is not. -/
structure Tree.Lacks (t : Tree) : Prop where
  menu : ∃ stamp, t.entry [] "menu" = .ok (.file (inAscii "#-import a") stamp)
  missing : t.entry [] "a" = .error (.refused .notFound ⟨.root, ["a"]⟩)

theorem Tree.Lacks.straight (lacks : t.Lacks) : t.Straight ["menu"] := by
  obtain ⟨stamp, menu⟩ := lacks.menu
  exact Straight.root.append (by decide) menu (by simp)

theorem Tree.Lacks.document (lacks : t.Lacks) :
    (World.importing.siteAt t).openDocument ⟨.root, ["menu"]⟩ =
      .ok (⟨.root, ["menu"]⟩, .ofLines ["#-import a"]) := by
  obtain ⟨stamp, menu⟩ := lacks.menu
  exact Site.openDocument_ok_iff.2 ⟨canonical_of_straight lacks.straight, World.opened_menu menu⟩

/-- A build of the document warns, and looks up nothing else. -/
theorem read_lacking (lacks : t.Lacks) :
    (View.read (World.importing.siteAt t) ⟨.root, ["menu"]⟩).1 = .ok .lacking ∧
      ∀ b, Reached (World.importing.siteAt t) ⟨.root, ["menu"]⟩ b → ∀ c below how target, b.stack = c :: below →
        b.dispatched? {} = some (.inclusion how target) → target = "a" ∧ c.directory = ⟨.root, []⟩ := by
  have markers : (World.importing.siteAt t).markers = {} := rfl
  have first : (start ⟨.root, ["menu"]⟩ (.ofLines ["#-import a"])).step (World.importing.siteAt t) = _ :=
    step_of_react (c := ⟨⟨.root, ["menu"]⟩, 0, true, { stream := .ofLines ["#-import a"] }, 0, 0, [], {}⟩)
      (show _ = Except.ok (1, Directive.inclusion .importing "a") by rw [markers]; rfl)
      (Context.includeFile_of_unresolved (World.resolve_missing lacks.missing))
  constructor
  · have whole : Leads (World.importing.siteAt t) _ _ ⟨[], _⟩ :=
      .step trivial first (.step trivial rfl (.single trivial rfl))
    rw [View.read_of_leads lacks.document whole rfl]
    rfl
  · rintro b ⟨root, stream, seen, opens, leads⟩
    cases lacks.document.symm.trans opens
    revert seen b
    rw [forall_comm]
    refine forall_leads (p := fun b => ∀ c below how target, b.stack = c :: below →
        b.dispatched? {} = some (.inclusion how target) → target = "a" ∧ c.directory = ⟨.root, []⟩)
      ?_ first (forall_leads ?_ rfl (forall_leads ?_ rfl ?_))
    · rintro c below how target ⟨⟩ ⟨⟩
      exact ⟨rfl, rfl⟩
    · rintro c below how target ⟨⟩ ⟨⟩
    · rintro c below how target ⟨⟩ ⟨⟩
    · intro seen mid leads
      cases leads
      rintro c below how target ⟨⟩

theorem unmoved_lacking (lacks : t.Lacks) (lacks' : t'.Lacks) :
    Unmoved (World.importing.siteAt t) (World.importing.siteAt t') ⟨.root, ["menu"]⟩ .lacking := by
  refine ⟨canonical_of_straight lacks'.straight, fun b reached c below how target stack dispatched => ?_⟩
  obtain ⟨rfl, e⟩ := (read_lacking lacks).2 b reached c below how target stack dispatched
  rw [e, World.resolve_missing lacks.missing, World.resolve_missing lacks'.missing]
  exact ⟨rfl, nofun⟩

end Lacking

/-- The tree after the listing was written. -/
def Tree.listed : Tree :=
  World.importing.tree.count.create ["lines.txt"] (.file View.lacking.written World.importing.tree.count.now)

/-- The tree after a file was written beside the document, and its time was set to 2. -/
def Tree.besides (name : String) : Tree :=
  (Tree.listed.count.create [name] (.file (inAscii "x") Tree.listed.count.now)).put [name]
    (.file (inAscii "x") (.set 2))

theorem Tree.founded_holding (files : List (String × String)) : (Tree.holding files).Founded := by
  have single : ∀ place node, (Tree.holding files).entries.lookup place = some node → ∃ name, place = [name] := by
    intro place node there
    obtain ⟨before, after, e, -⟩ := List.lookup_eq_some_iff.1 there
    have mem : (place, node) ∈ (Tree.holding files).entries := by rw [e]; simp
    obtain ⟨file, -, same⟩ := List.mem_map.1 mem
    exact ⟨file.1, (congrArg Prod.fst same).symm⟩
  have root : (Tree.holding files).isDirectoryAt [] = true := by
    have none : (Tree.holding files).entries.lookup [] = none := by
      rw [Option.eq_none_iff_forall_ne_some]
      intro node there
      obtain ⟨name, e⟩ := single [] node there
      cases e
    rw [isDirectoryAt, node?, none]
    rfl
  refine ⟨root, fun place node there => ?_⟩
  by_cases top : place = []
  · rw [top]
    exact lies_root
  · rw [node?, if_neg top] at there
    obtain ⟨name, rfl⟩ := single place node there
    exact lies_append.2 root

theorem Tree.founded_listed : Tree.listed.Founded :=
  have lies : World.importing.tree.count.Lies ([] ++ ["lines.txt"]) := lies_append.2 rfl
  (founded_holding _).count.create lies rfl

/-- The session's world. -/
def FaithfulWorld.importing : FaithfulWorld :=
  ⟨⟨.importing, founded_holding _⟩, World.faithful_importing⟩

theorem lacks_importing : World.importing.tree.Lacks :=
  ⟨⟨_, rfl⟩, rfl⟩

theorem proper_listing : Tree.listed.Proper [] "lines.txt" := by
  constructor <;> decide +kernel

theorem proper_menu : Tree.listed.Proper [] "menu" := by
  constructor <;> decide +kernel

theorem straight_menu : Tree.listed.Straight ["menu"] := by
  have menu : Tree.listed.entry [] "menu" = .ok (.file (inAscii "#-import a") (.set 0)) := rfl
  exact Straight.root.append proper_menu.named menu (by simp)

theorem apply_listed {name : String} (proper : Tree.listed.Proper [] name) (missing : Tree.listed.node? [name] = none) :
    (Edit.write ⟨.root, [name]⟩ (inAscii "x") 2).apply .listed = (.ok (), .besides name) :=
  Edit.write_of_missing founded_listed Straight.root rfl rfl proper missing _ rfl

theorem Tree.founded_besides {name : String} (proper : Tree.listed.Proper [] name)
    (missing : Tree.listed.node? [name] = none) : (Tree.besides name).Founded :=
  founded_listed.edit (apply_listed proper missing)

/-- What a pass over the document leaves. -/
structure World.Imported (w : World) (s : State) : Prop where
  passed : pipeline onePass .importing .importing = (.ok s, w)
  shown : s.view = some .lacking
  document : s.document = ⟨.root, ["menu"]⟩
  listing : s.listing = ⟨.root, ["lines.txt"]⟩
  tree : w.tree = .listed
  awake : World.importing.StaysAwake w
  read : (checkInput .importing .importing).2.tree = World.importing.tree

theorem World.exists_imported : ∃ w s, Imported w s := by
  have document : (State.importing.located World.importing.settings).document = ⟨.root, ["menu"]⟩ := by
    decide +kernel
  have listing : (State.importing.located World.importing.settings).listing = ⟨.root, ["lines.txt"]⟩ := by
    decide +kernel
  have file : World.importing.tree.isFile ⟨.root, ["menu"]⟩ = .ok true := by
    obtain ⟨stamp, menu⟩ := lacks_importing.menu
    exact isFile_of_straight lacks_importing.straight (entry_eq_ok menu)
  have made : World.importing.tree.makeDirectories State.importing.outputDirectory = (.ok (), World.importing.tree) :=
    makeDirectories_of_straight Straight.root rfl rfl
  have proper : World.importing.tree.Proper [] "lines.txt" := proper_listing.of_surrogates rfl
  have written : World.importing.tree.write ⟨.root, ["lines.txt"]⟩ View.lacking.written = .ok .listed :=
    write_of_missing Straight.root rfl proper rfl _
  obtain ⟨w, passed, tree, awake, read⟩ := exists_onePass (by rw [document]; exact file) made
    (by rw [document]; exact (read_lacking lacks_importing).1) ⟨fun _ => rfl, fun _ => rfl⟩
    (by rw [listing]; exact written) rfl
  exact ⟨w, _, passed, rfl, document, listing, tree, awake, read⟩

namespace Vigil

/-- A session on the document that shows what is lacking, and watches nothing but the document. -/
structure OnImporting (v : Vigil) (now : Tree) : Prop where
  shown : v.state.view = some .lacking
  document : v.state.document = ⟨.root, ["menu"]⟩
  listing : v.state.listing = ⟨.root, ["lines.txt"]⟩
  built : v.built = World.importing.siteAt World.importing.tree
  keeps : World.importing.Keeps v.world
  tree : v.world.tree = now
  monitor : v.monitor = .arm .listed [⟨.root, ["menu"]⟩]

theorem exists_begin_importing (may : Vigil → Edit → Prop) :
    ∃ v : Vigil, v.Arises may .importing .importing ∧ v.OnImporting .listed ∧ v.trees = [.listed] := by
  obtain ⟨w, s, imported⟩ := World.exists_imported
  obtain ⟨passed, shown, document, listing, tree, awake, read⟩ := imported
  refine ⟨_, .begin passed shown, ⟨shown, document, listing, ?_, awake.toKeeps.trans {}, tree, ?_⟩, ?_⟩
  · rw [begin, awake.siteAt, read]
  · rw [← tree]
    rfl
  · rw [← tree]
    rfl

variable {v : Vigil} {name : String}

theorem apply_besides (on : v.OnImporting .listed) (proper : Tree.listed.Proper [] name)
    (missing : Tree.listed.node? [name] = none) :
    (Edit.write ⟨.root, [name]⟩ (inAscii "x") 2).apply v.world.tree = (.ok (), .besides name) := by
  rw [on.tree]
  exact apply_listed proper missing

/-- An edit after which the listing is where it was. -/
theorem sparesOutput_of_listing {e : Edit} {after : Tree} (on : v.OnImporting .listed)
    (made : e.apply .listed = (.ok (), after))
    (apart : after.node? ["lines.txt"] = Tree.listed.node? ["lines.txt"]) : v.SparesOutput e := by
  have here : Tree.listed.node? ["lines.txt"] = some (.file View.lacking.written _) := node?_create_self _ _ _
  have straight : Tree.listed.Straight ["lines.txt"] :=
    Straight.root.append proper_listing.named (entry_of_node rfl proper_listing here) (by simp)
  rw [SparesOutput, on.tree, made, on.listing, ← Path.ofPlace, read_of_straight straight here]
  exact (founded_listed.edit made).read (surrogate?_of_edit made) straight (apart.trans here)

theorem sparesOutput_besides (on : v.OnImporting .listed) (proper : Tree.listed.Proper [] name)
    (missing : Tree.listed.node? [name] = none)
    (apart : (Tree.besides name).node? ["lines.txt"] = Tree.listed.node? ["lines.txt"]) :
    v.SparesOutput (.write ⟨.root, [name]⟩ (inAscii "x") 2) := by
  exact sparesOutput_of_listing on (apply_listed proper missing) apart

theorem setsNewTime_besides (on : v.OnImporting .listed) (trees : v.trees = [.listed])
    (proper : Tree.listed.Proper [] name) (missing : Tree.listed.node? [name] = none) :
    v.SetsNewTime (.write ⟨.root, [name]⟩ (inAscii "x") 2) := by
  rintro path time place node ⟨⟩ found before mem
  have there : (Tree.besides name).node? [name] = some (.file _ _) := node?_put_self _ _ _
  have straight : (Tree.besides name).Straight [name] :=
    Straight.root.append proper.named
      (entry_of_node (founded_besides proper missing).root (proper.of_surrogates rfl) there) (by simp)
  rw [apply_besides on proper missing, ← Path.ofPlace, status_of_straight straight there] at found
  cases found
  have unseen := stamp_of_missing (Straight.root (t := Tree.listed)) founded_listed.root proper missing
  rw [List.nil_append] at unseen
  rw [trees] at mem
  rw [List.mem_singleton.1 mem, unseen]
  simp

/-- A file is written beside the document. -/
theorem arises_besides (proper : Tree.listed.Proper [] name) (missing : Tree.listed.node? [name] = none)
    (apart : (Tree.besides name).node? ["lines.txt"] = Tree.listed.node? ["lines.txt"]) :
    ∃ v : Vigil, v.Arises (fun v e => v.SparesOutput e ∧ v.SetsNewTime e) .importing .importing ∧
      v.OnImporting (.besides name) := by
  obtain ⟨v, begin, on, trees⟩ := exists_begin_importing fun v e => v.SparesOutput e ∧ v.SetsNewTime e
  exact ⟨_, begin.edit ⟨sparesOutput_besides on proper missing apart, setsNewTime_besides on trees proper missing⟩
    (apply_besides on proper missing), { on with keeps := on.keeps.trans {}, tree := rfl }⟩

/-- No change is seen as long as the document is the same. -/
theorem OnImporting.unchanged (on : v.OnImporting (.besides name))
    (same : (Tree.besides name).entry [] "menu" = Tree.listed.entry [] "menu") :
    v.monitor.changed? v.world.tree = none := by
  have there : Tree.listed.entry [] "menu" = .ok (.file _ _) := rfl
  have after : (Tree.besides name).Straight ["menu"] :=
    Straight.root.append proper_menu.named (same.trans there) (by simp)
  have kept : (Tree.besides name).stamp? (Path.ofPlace ["menu"]) = Tree.listed.stamp? (Path.ofPlace ["menu"]) := by
    rw [stamp?, stamp?, status_of_straight straight_menu (entry_eq_ok there),
      status_of_straight after (entry_eq_ok (same.trans there))]
  rw [on.monitor, on.tree]
  exact Monitor.unchanged_of_same (List.forall_mem_singleton.2 kept)

theorem OnImporting.site {now : Tree} (on : v.OnImporting now) : v.world.site = World.importing.siteAt now := by
  rw [← World.faithful_importing.siteAt_eq on.keeps, ← on.tree]
  rfl

end Vigil

theorem lacks_besides : (Tree.besides "b").Lacks :=
  ⟨⟨_, rfl⟩, rfl⟩

/-- Once it is there, a build of the document finds what it imports. -/
theorem read_found : (View.read (World.importing.siteAt (.besides "a")) ⟨.root, ["menu"]⟩).1 = .ok .found := by
  have menu : (Tree.besides "a").entry [] "menu" = .ok (.file (inAscii "#-import a") _) := rfl
  have there : (Tree.besides "a").entry [] "a" = .ok (.file (inAscii "x") _) := rfl
  have straight : (Tree.besides "a").Straight ["menu"] := Straight.root.append (by decide) menu (by simp)
  have straight' : (Tree.besides "a").Straight ["a"] := Straight.root.append (by decide) there (by simp)
  have document : (World.importing.siteAt (.besides "a")).openDocument ⟨.root, ["menu"]⟩ =
      .ok (⟨.root, ["menu"]⟩, .ofLines ["#-import a"]) :=
    Site.openDocument_ok_iff.2 ⟨canonical_of_straight straight, World.opened_menu menu⟩
  have resolved : (World.importing.siteAt (.besides "a")).resolve "a" ⟨.root, []⟩ = .ok ⟨.root, ["a"]⟩ := by
    have found : (World.importing.siteAt (.besides "a")).tree.canonical ⟨.root, ["a"]⟩ = .ok ⟨.root, ["a"]⟩ :=
      canonical_of_straight straight'
    rw [Site.resolve, World.expand_a]
    simp only [Path.join_here, List.nil_append, found]
  have opened : (World.importing.siteAt (.besides "a")).openTarget ⟨.root, ["a"]⟩ = .ok (.ofLines ["x"]) := by
    rw [Site.openTarget, World.opened_importing (by decide) there]
    rfl
  have markers : (World.importing.siteAt (.besides "a")).markers = {} := rfl
  have first : (start ⟨.root, ["menu"]⟩ (.ofLines ["#-import a"])).step (World.importing.siteAt (.besides "a")) = _ :=
    step_of_opened (c := ⟨⟨.root, ["menu"]⟩, 0, true, { stream := .ofLines ["#-import a"] }, 0, 0, [], {}⟩)
      (show _ = Except.ok (1, Directive.inclusion .importing "a") by rw [markers]; rfl) rfl resolved
      (by decide +kernel) opened
  have whole : Leads (World.importing.siteAt (.besides "a")) _ _ ⟨[], _⟩ :=
    .step trivial first (.step trivial rfl (.step trivial rfl (.single trivial rfl)))
  rw [View.read_of_leads document whole rfl]
  rfl

namespace Vigil

/-- A file is written that the document does not look up. -/
theorem output_of_unchanged_beside :
    ∃ (v : Vigil) (view fresh : View),
      World.importing.tree.Founded ∧
      v.Arises (fun v e => v.SparesOutput e ∧ v.SetsNewTime e) .importing .importing ∧ v.state.view = some view ∧
      v.world.tree = .besides "b" ∧
      (∀ found, v.built.tree.lookUp .create v.state.listing = .ok found →
        Path.ofPlace found.place ∉ view.sources) ∧
      Unmoved v.built v.world.site v.state.document view ∧
      v.monitor.changed? v.world.tree = none ∧ (View.read v.world.site v.state.document).1 = .ok fresh ∧
      v.world.tree.read v.state.listing = .ok fresh.written := by
  have proper : Tree.listed.Proper [] "b" := by constructor <;> decide +kernel
  obtain ⟨v, arises, on⟩ := arises_besides proper rfl rfl
  have apart : ∀ found, v.built.tree.lookUp .create v.state.listing = .ok found →
      Path.ofPlace found.place ∉ View.lacking.sources := by
    intro found looked
    have missing := lookUp_of_missing .create (Straight.root (t := World.importing.tree)) (founded_holding _).root
      (proper_listing.of_surrogates rfl) rfl
    rw [on.built, on.listing, ← Path.ofPlace] at looked
    cases looked.symm.trans missing
    decide
  have unmoved : Unmoved v.built v.world.site v.state.document .lacking := by
    rw [on.built, on.site, on.document]
    exact unmoved_lacking lacks_importing lacks_besides
  have again : (View.read v.world.site v.state.document).1 = .ok .lacking := by
    rw [on.site, on.document]
    exact (read_lacking lacks_besides).1
  exact ⟨v, .lacking, .lacking, founded_holding _, arises, on.shown, on.tree, apart, unmoved, on.unchanged rfl, again,
    output_of_unchanged .importing arises on.shown apart unmoved (on.unchanged rfl) again⟩

/-- What is missing is not watched: when it comes, the listing stays, and a fresh one would be another. -/
theorem stale_of_missing :
    ∃ (v : Vigil) (fresh : View),
      World.importing.tree.Founded ∧
      v.Arises (fun v e => v.SparesOutput e ∧ v.SetsNewTime e) .importing .importing ∧
      v.world.tree = .besides "a" ∧ v.monitor.changed? v.world.tree = none ∧
      (View.read v.world.site v.state.document).1 = .ok fresh ∧
      v.world.tree.read v.state.listing ≠ .ok fresh.written := by
  have proper : Tree.listed.Proper [] "a" := by constructor <;> decide +kernel
  obtain ⟨v, arises, on⟩ := arises_besides proper rfl rfl
  have again : (View.read v.world.site v.state.document).1 = .ok .found := by
    rw [on.site, on.document]
    exact read_found
  obtain ⟨view, armed, upkeep⟩ := exists_upkeep .importing arises
  cases on.shown.symm.trans upkeep.shown
  refine ⟨v, .found, founded_holding _, arises, on.tree, on.unchanged rfl, again, ?_⟩
  rw [upkeep.output]
  intro same
  have differ : View.lacking.written ≠ View.found.written := by decide +kernel
  exact differ (Except.ok.inj same)

end Vigil

end Menu
