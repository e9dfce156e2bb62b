import Menu.Proofs.Build.Whole
import Menu.Proofs.Context.Behind
import Menu.Proofs.Includes.Once
import Menu.Proofs.Tree.Straight

/-!
# An imported file is a document of its own

What an imported file shows is what it would show as a document, with all that it includes, unless it imports a file
that was imported before.  The files that wait below it do not matter.

* `step_behind`, `leads_behind`: a build does the same steps while other files wait (`Build.behind`).
* `Build.Imports`: the files that a document imports when it is built by itself.
* `import_compositional`: what is shown from the step that puts an imported file on top until it is left.
-/

namespace Menu

/-- The target of an inclusion is its own canonical form. -/
theorem Site.canonical_of_resolve {s : Site} {target : String} {directory file : Path}
    (h : s.resolve target directory = .ok file) : s.tree.canonical file = .ok file := by
  obtain ⟨_, -, canonical⟩ := resolve_ok_iff.1 h
  exact Tree.canonical_of_canonical canonical

/-- A file that is opened for an inclusion is opened in the same way as a document. -/
theorem Site.openDocument_of_target {s : Site} {file : Path} {stream : Stream}
    (canonical : s.tree.canonical file = .ok file) (opened : s.openTarget file = .ok stream) :
    s.openDocument file = .ok (file, stream) := by
  unfold openTarget at opened
  split at opened <;> cases opened
  rename_i given
  rw [openDocument, canonical]
  simp only [given]

namespace Build

variable {site : Site} {m : Markers} {path file : Path} {stream : Stream} {origins : List Origin}
  {b next last : Build} {c child : Context} {below files : List Context} {shared later base : Shared}
  {r : Reaction} {events seen : List Event}

/-! ## Builds while other files wait -/

/-- A build whose files are on top of others, which wait with what `base` holds. -/
def behind (b : Build) (base : Shared) (files : List Context) : Build :=
  ⟨b.stack.map (·.behind base) ++ files, b.shared.behind base⟩

/-- The file that the next step imports, unless it was imported before. -/
def imports? (site : Site) (b : Build) : Option Path :=
  match b.stack.head?, b.dispatched? site.markers with
  | some c, some (.inclusion .importing target) => (site.resolve target c.directory).toOption
  | _, _ => none

/-- The files that a document imports when it is built by itself, or would import if they were not imported
before. -/
def Imports (site : Site) (document file : Path) : Prop :=
  ∃ root stream events b, site.openDocument document = .ok (root, stream) ∧
    Leads site (start root stream) events b ∧ b.imports? site = some file

theorem settle_behind {r' : Reaction} (same : r.Behind base r') :
    settle (below.map (·.behind base) ++ files) r' = (settle below r).behind base files := by
  rw [settle, settle, same.move, same.context, same.shared]
  cases r.move <;> rfl

theorem abandon_behind (c : Context) (shared base : Shared) (depth depth' : Nat) (why : Fault) :
    (c.abandon shared depth why).Behind base ((c.behind base).abandon (shared.behind base) depth' why) := by
  refine ⟨rfl, rfl, rfl, ?_⟩
  simp only [Context.abandon, entriesOf_append, Context.entriesOf_leaving_behind c base depth depth']
  rfl

theorem imports?_of_read {position : Int} {d : Directive} {target : String}
    (read : (c.reader.read site.markers).1 = .ok (position, d))
    (applied : c.scopes.apply d = .inclusion .importing target)
    (resolved : site.resolve target c.directory = .ok file) :
    imports? site ⟨c :: below, shared⟩ = some file := by
  simp only [imports?, List.head?_cons, dispatched?_of_read read, applied, resolved]
  rfl

theorem reaction_behind (files : List Context)
    (h : reactionTo site shared (c.readOn site.markers) below (c.reader.read site.markers).1 = .ok r)
    (apart : ∀ file, imports? site ⟨c :: below, shared⟩ = some file → file ∉ base.imported) :
    ∃ r', reactionTo site (shared.behind base) ((c.behind base).readOn site.markers)
        (below.map (·.behind base) ++ files) (c.reader.read site.markers).1 = .ok r' ∧ r.Behind base r' := by
  cases read : (c.reader.read site.markers).1 with
  | ok item =>
    obtain ⟨position, d⟩ := item
    rw [read] at h
    exact Context.react_behind (c := c.readOn site.markers) h fun target file applied resolved =>
      apart file (imports?_of_read read applied resolved)
  | error why =>
    rw [read] at h
    cases why with
    | closed => cases h
    | fault why =>
      -- the only open file would be the document, whose fault ends the build
      cases below with
      | nil => cases h
      | cons d below =>
        cases h
        exact ⟨_, rfl, abandon_behind (c.readOn site.markers) shared base _ _ why⟩

/-- Each step that is taken without the others is taken while they wait, if it imports no file that only they
imported. -/
theorem step_behind (files : List Context) (taken : step site ⟨c :: below, shared⟩ = (.ok next, seen))
    (apart : ∀ file, imports? site ⟨c :: below, shared⟩ = some file → file ∉ base.imported) :
    ∃ seen', (behind ⟨c :: below, shared⟩ base files).step site = (.ok (next.behind base files), seen') ∧
      entriesOf seen' = entriesOf seen := by
  obtain ⟨r, h, rfl, rfl⟩ := exists_reaction taken
  obtain ⟨r', h', same⟩ := reaction_behind files h apart
  have there : (behind ⟨c :: below, shared⟩ base files).step site =
      (.ok (settle (below.map (·.behind base) ++ files) r'), reading (c.behind base) ++ r'.events) :=
    step_of_reaction (c := c.behind base) h'
  rw [settle_behind same] at there
  refine ⟨_, there, ?_⟩
  rw [entriesOf_append, entriesOf_append, entriesOf_reading, entriesOf_reading, same.entries]

/-- So are any number of steps. -/
theorem leads_behind (files : List Context) (leads : Leads site b events last)
    (apart : ∀ seen mid file, Leads site b seen mid → mid.imports? site = some file → file ∉ base.imported) :
    ∃ events', LeadsWhile site (base.opened ≤ ·.stream) (b.behind base files) events' (last.behind base files) ∧
      entriesOf events' = entriesOf events := by
  induction leads with
  | refl => exact ⟨[], .refl _, rfl⟩
  | @step c below shared next last seen events _ taken _ ih =>
    obtain ⟨seen', there, same⟩ := step_behind files taken fun file => apart [] _ file (.refl _)
    obtain ⟨events', leads, rest⟩ := ih fun seen mid file leads => apart _ mid file (.step trivial taken leads)
    refine ⟨seen' ++ events', .step (Nat.le_add_right _ _) there leads, ?_⟩
    rw [entriesOf_append, entriesOf_append, same, rest]

/-- An imported file is put on top as a document that begins. -/
theorem child_eq_start (c : Context) (shared : Shared) (below : List Context) (file : Path) (stream : Stream) :
    (⟨(c.child shared .importing file stream).1 :: below, (c.child shared .importing file stream).2⟩ : Build) =
      (start file stream).behind shared below := by
  have nothing : ({} : Shared).behind shared = shared := by simp [Shared.behind, Pool.behind]
  have opened := c.child_behind {} shared .importing file stream
  rw [nothing] at opened
  have same : c.child shared .importing file stream = _ := opened
  rw [same]
  rfl

variable (site) in
/-- **An imported file is a document of its own.**  If the file that an import puts on top has a view of its own, and
that document imports no file which was imported before, what is shown until the file is left is the view.  So it is
whatever the files below are, and whatever they share. -/
theorem import_compositional {target : String} {view : View}
    (reached : Underway site.markers path stream origins ⟨c :: below, shared⟩)
    (dispatched : dispatched? site.markers ⟨c :: below, shared⟩ = some (.inclusion .importing target))
    (taken : step site ⟨c :: below, shared⟩ = (.ok ⟨child :: c.readOn site.markers :: below, later⟩, seen))
    (alone : (View.read site child.path).1 = .ok view)
    (apart : ∀ file, Imports site child.path file → file ≠ child.path → file ∉ shared.imported) :
    ∃ events last,
      LeadsWhile site (child.stream ≤ ·.stream) ⟨child :: c.readOn site.markers :: below, later⟩ events
        ⟨c.readOn site.markers :: below, last⟩ ∧
      entriesOf events = view.entries ∧
      ∀ file ∈ c.readOn site.markers :: below, file.stream < child.stream := by
  obtain ⟨how, _, file, stream, carriedOut, resolved, fresh, opened, pushed⟩ :=
    opened_of_pushed taken (Nat.lt_succ_self _)
  rw [dispatched] at carriedOut
  cases carriedOut
  cases pushed
  have new : file ∉ shared.imported := by simpa [Shared.alreadyTaken] using fresh
  have document : site.openDocument file = .ok (file, stream) :=
    Site.openDocument_of_target (Site.canonical_of_resolve resolved) opened
  obtain ⟨root, content, events, last, given, leads, ended, rfl⟩ := View.read_ok_iff.1 alone
  have given : site.openDocument file = .ok (root, content) := given
  rw [document] at given
  cases given
  have apart : ∀ seen mid other, Leads site (start file stream) seen mid → mid.imports? site = some other →
      other ∉ shared.imported := fun seen mid other leads imports => by
    by_cases itself : other = file
    · exact itself ▸ new
    · exact apart other ⟨_, _, _, _, document, leads, imports⟩ itself
  obtain ⟨shown, within, same⟩ := leads_behind (c.readOn site.markers :: below) leads apart
  have left : last.behind shared (c.readOn site.markers :: below) =
      ⟨c.readOn site.markers :: below, last.shared.behind shared⟩ := by
    rw [behind, ended]
    rfl
  rw [left, ← child_eq_start (c.readOn site.markers)] at within
  obtain ⟨newest, above, -⟩ := numbered_iff.1 reached.numbered
  rw [Context.stream_of_child]
  exact ⟨shown, _, within, same,
    List.forall_mem_cons.2 ⟨newest, fun other mem => Nat.lt_trans (above other mem) newest⟩⟩

/-- A document with a command imports a file with one text, which carries no command there, as in its own view. -/
theorem import_compositional_of_text :
    ∃ b child rest shared last seen events,
      Underway {} ⟨.root, ["menu"]⟩ (.ofLines ["#-pre x", "#-import a"]) [.document] b ∧
      b.shared.cells.values = [⟨["x"], []⟩] ∧
      b.step (.holding [("a", ["b"])]) = (.ok ⟨child :: rest, shared⟩, seen) ∧
      Leads (.holding [("a", ["b"])]) ⟨child :: rest, shared⟩ events ⟨rest, last⟩ ∧
      entriesOf events = [⟨"b", ⟨.root, ["a"]⟩, 1, .normal, {}⟩] := by
  have resolved : (Site.holding [("a", ["b"])]).resolve "a" ⟨.root, []⟩ = .ok ⟨.root, ["a"]⟩ :=
    Site.resolve_holding (by decide) (by decide +kernel) rfl rfl
  have opened : (Site.holding [("a", ["b"])]).openTarget ⟨.root, ["a"]⟩ = .ok (.ofLines ["b"]) := rfl
  have document : (Site.holding [("a", ["b"])]).openDocument ⟨.root, ["a"]⟩ = .ok (⟨.root, ["a"]⟩, .ofLines ["b"]) :=
    Site.openDocument_of_target (Site.canonical_of_resolve resolved) opened
  have begun : Underway {} ⟨.root, ["menu"]⟩ (.ofLines ["#-pre x", "#-import a"]) [.document] _ := .start
  have given : Underway {} ⟨.root, ["menu"]⟩ (.ofLines ["#-pre x", "#-import a"]) [.document]
      ⟨[⟨⟨.root, ["menu"]⟩, 0, true, { stream := .ofLines ["#-import a"], position := 1 }, 0, 0, [], {}⟩],
        ⟨⟨[⟨["x"], []⟩]⟩, ⟨[[⟨.root, ["menu"]⟩]]⟩, [⟨.root, ["menu"]⟩], [⟨.root, ["menu"]⟩], none, 1⟩⟩ :=
    begun.step .bare rfl nofun rfl
  have text : step (.holding [("a", ["b"])]) (start ⟨.root, ["a"]⟩ (.ofLines ["b"])) = (.ok ⟨_ :: _, _⟩, _) := rfl
  have leads : Leads (.holding [("a", ["b"])]) (start ⟨.root, ["a"]⟩ (.ofLines ["b"])) _ ⟨[], _⟩ :=
    .step trivial text (.single trivial rfl)
  have alone := View.read_ok_iff.2 ⟨_, _, _, _, document, leads, rfl, rfl⟩
  have importsNothing : ∀ file, ¬ Imports (.holding [("a", ["b"])]) ⟨.root, ["a"]⟩ file := by
    rintro file ⟨_, _, _, b, there, leads, imports⟩
    rw [document] at there
    cases there
    cases leads with
    | refl => cases imports
    | step _ taken rest =>
      cases taken
      cases rest with
      | refl => cases imports
      | step _ taken rest =>
        cases taken
        cases rest
        cases imports
  obtain ⟨events, last, within, shown, -⟩ :=
    import_compositional (.holding [("a", ["b"])]) given rfl
      (step_of_opened rfl rfl resolved (by decide +kernel) opened) alone
      fun file imports => absurd imports (importsNothing file)
  exact ⟨_, _, _, _, last, _, events, given, rfl, step_of_opened rfl rfl resolved (by decide +kernel) opened,
    within.leads, shown⟩

end Build

end Menu
