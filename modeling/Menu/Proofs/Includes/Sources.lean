import Menu.Proofs.Build.Answers
import Menu.Proofs.Build.CutOff
import Menu.Proofs.Context.Shown
import Menu.Proofs.Includes.Import
import Menu.Proofs.Includes.Once
import Menu.Proofs.Tree.Straight

/-!
# The sources of a view

A view says which files were opened for it.  These are all the files that a build knows of: it takes in no other, and
shows entries from no other (`Covered`, step by step).  Two sites on which the same paths have a canonical form, and
on which the sources of a view hold the same, are therefore one site to its build, as long as every inclusion finds
a file and opens it (`Finds`).  An inclusion that fails leaves nothing behind among the sources, although the view
shows it.

* `sources_of_leads`: the sources are the files opened on the way, each where it was opened first.
* `covered_of_leads`: no other file is known to a build on its way.
* `mem_sources_of_found`: the file that an inclusion finds is a source, also when it is not opened again.
* `sources_determine`: all of this about the view of a document, and what it comes to on another site.
-/

namespace Menu

/-- The files that events show to be opened. -/
def openedPaths (events : List Event) : List Path :=
  events.filterMap fun e => e.opened?.map Prod.snd

theorem openedPaths_append (xs ys : List Event) : openedPaths (xs ++ ys) = openedPaths xs ++ openedPaths ys :=
  List.filterMap_append

theorem openedPaths_of_nothing {events : List Event} (nothing : ∀ e ∈ events, e.opened? = none) :
    openedPaths events = [] :=
  List.filterMap_eq_nil_iff.2 fun e mem => by rw [nothing e mem]; rfl

theorem Pool.mem_values_modify {α : Type} {p : Pool α} {h : Handle} {f : α → α} {a : α}
    (mem : a ∈ (p.modify h f).values) : a ∈ p.values ∨ ∃ old ∈ p.values, a = f old := by
  obtain ⟨n, at_⟩ := List.mem_iff_getElem?.1 mem
  rw [modify, List.getElem?_modify] at at_
  obtain ⟨old, here, rfl⟩ := Option.map_eq_some_iff.1 at_
  have known := List.mem_iff_getElem?.2 ⟨n, here⟩
  split
  · exact .inr ⟨old, known, rfl⟩
  · exact .inl known

/-! ## What opening a file adds -/

namespace Shared

theorem sources_visit (s : Shared) (file : Path) {files : List Path} (known : s.sources = files.eraseDups) :
    (s.visit file).sources = (files ++ [file]).eraseDups := by
  rw [visit, List.eraseDups_append, known]
  simp only [List.mem_eraseDups]
  split
  · rename_i old
    simp [List.removeAll, old]
  · rename_i fresh
    simp [List.removeAll, fresh, List.eraseDups_cons]

theorem nodup_visit {s : Shared} (once : s.sources.Nodup) (file : Path) : (s.visit file).sources.Nodup := by
  unfold visit
  dsimp only
  split
  · exact once
  · rename_i fresh
    exact List.nodup_append.2 ⟨once, List.nodup_singleton file, by
      rintro a mem b (hb : b ∈ [file]) rfl
      exact fresh (List.mem_singleton.1 hb ▸ mem)⟩

theorem mem_visit (s : Shared) (file : Path) : file ∈ (s.visit file).sources := by
  unfold visit
  dsimp only
  split
  · assumption
  · simp

theorem subset_visit (s : Shared) (file : Path) : s.sources ⊆ (s.visit file).sources := by
  unfold visit
  dsimp only
  split
  · exact List.Subset.refl _
  · exact List.subset_append_left _ _

end Shared

namespace Context

theorem sources_of_child (c : Context) (shared : Shared) (how : Inclusion) (file : Path) (stream : Stream) :
    (c.child shared how file stream).2.sources = (shared.visit file).sources := by
  cases how <;> rfl

theorem path_of_child (c : Context) (shared : Shared) (how : Inclusion) (file : Path) (stream : Stream) :
    (c.child shared how file stream).1.path = file := by
  cases how <;> rfl

end Context

namespace Build

variable {site : Site} {b mid next last : Build} {c : Context} {below : List Context} {shared : Shared}
  {r : Reaction} {events : List Event} {files : List Path}

/-- What a reaction does to the sources: nothing, or it adds the file that it puts on top. -/
theorem sources_of_reaction {item : Except ReadFailure (Int × Directive)}
    (h : reactionTo site shared c below item = .ok r) :
    (r.shared.sources = shared.sources ∧ shared.SameFiles r.shared ∧ openedPaths r.events = [] ∧
        ∀ child, r.move ≠ .enter child) ∨
      ∃ how file stream, r = c.enter shared (below.length + 1) how file stream := by
  cases moves : r.move with
  | enter child =>
    obtain ⟨_, _, how, _, file, stream, _, _, _, _, _, entered, _⟩ := reaction_enter h moves
    exact .inr ⟨how, file, stream, entered⟩
  | _ =>
    have stays : ∀ child, r.move ≠ .enter child := by simp [moves]
    obtain ⟨same, nothing⟩ := opens_nothing h stays
    exact .inl ⟨(visits_nothing h stays).1, same, openedPaths_of_nothing nothing, by simp⟩

theorem openedPaths_reading (c : Context) : openedPaths (reading c) = [] := by
  unfold reading
  split <;> rfl

/-! ## The sources of a run -/

theorem sources_of_step (known : b.shared.sources = files.eraseDups) (taken : b.step site = (.ok next, events)) :
    next.shared.sources = (files ++ openedPaths events).eraseDups := by
  obtain ⟨stack, shared⟩ := b
  cases stack with
  | nil =>
    cases taken
    rw [openedPaths, List.filterMap_nil, List.append_nil]
    exact known
  | cons c below =>
    obtain ⟨r, h, rfl, rfl⟩ := exists_reaction taken
    rw [shared_settle, openedPaths_append, openedPaths_reading, List.nil_append]
    rcases sources_of_reaction h with ⟨same, -, nothing, -⟩ | ⟨how, file, stream, rfl⟩
    · rw [same, nothing, List.append_nil]
      exact known
    · exact (Context.sources_of_child _ shared how file stream).trans (shared.sources_visit file known)

/-- The sources are the files that were opened, each where it was opened first. -/
theorem sources_of_leads (leads : Leads site b events last) (known : b.shared.sources = files.eraseDups) :
    last.shared.sources = (files ++ openedPaths events).eraseDups := by
  induction leads generalizing files with
  | refl => rw [openedPaths, List.filterMap_nil, List.append_nil]; exact known
  | step _ taken _ ih =>
    rw [openedPaths_append, ← List.append_assoc]
    exact ih (sources_of_step known taken)

theorem sources_subset_of_step (taken : b.step site = (.ok next, events)) :
    b.shared.sources ⊆ next.shared.sources := by
  obtain ⟨stack, shared⟩ := b
  cases stack with
  | nil => cases taken; exact List.Subset.refl _
  | cons c below =>
    obtain ⟨r, h, rfl, -⟩ := exists_reaction taken
    rw [shared_settle]
    rcases sources_of_reaction h with ⟨same, -⟩ | ⟨how, file, stream, rfl⟩
    · rw [same]
      exact List.Subset.refl _
    · rw [Context.enter, Context.sources_of_child]
      exact shared.subset_visit file

theorem sources_subset_of_leads (leads : Leads site b events last) : b.shared.sources ⊆ last.shared.sources := by
  induction leads with
  | refl => exact List.Subset.refl _
  | step _ taken _ ih => exact List.Subset.trans (sources_subset_of_step taken) ih

/-! ## The files that a build knows of -/

/-- All files that a build knows of are among its sources. -/
structure Covered (b : Build) : Prop where
  once : b.shared.sources.Nodup
  imported : b.shared.imported ⊆ b.shared.sources
  lineages : ∀ files ∈ b.shared.lineages.values, files ⊆ b.shared.sources
  stack : ∀ c ∈ b.stack, c.path ∈ b.shared.sources

theorem covered_start (path : Path) (stream : Stream) : (start path stream).Covered where
  once := List.nodup_singleton path
  imported := List.Subset.refl [path]
  lineages := List.forall_mem_singleton.2 (List.Subset.refl [path])
  stack := List.forall_mem_singleton.2 (List.mem_singleton.2 rfl)

/-- A file that is opened is a source from then on, and is taken in as one. -/
theorem Covered.child (covered : Covered ⟨c :: below, shared⟩) (how : Inclusion) (file : Path) (stream : Stream) :
    Covered ⟨(c.child shared how file stream).1 :: c :: below, (c.child shared how file stream).2⟩ := by
  have here := shared.mem_visit file
  have grows := shared.subset_visit file
  have before : ∀ files ∈ shared.lineages.values, files ⊆ (shared.visit file).sources :=
    fun files mem => List.Subset.trans (covered.lineages files mem) grows
  refine ⟨?once, ?imported, ?lineages, List.forall_mem_cons.2 ⟨?own, fun c' mem => ?stack⟩⟩
  all_goals simp only [Context.sources_of_child, Context.path_of_child]
  case once => exact Shared.nodup_visit covered.once file
  case imported =>
    cases how with
    | importing => exact List.cons_subset.2 ⟨here, List.Subset.trans covered.imported grows⟩
    | sourcing => exact List.Subset.trans covered.imported grows
    | lines => exact List.Subset.trans covered.imported grows
  case lineages =>
    cases how with
    | importing => exact List.forall_mem_append.2 ⟨before, List.forall_mem_singleton.2 (by simpa using here)⟩
    | sourcing =>
      intro files mem
      rcases Pool.mem_values_modify mem with old | ⟨files, old, rfl⟩
      · exact before files old
      · exact List.cons_subset.2 ⟨here, before files old⟩
    | lines => exact List.forall_mem_append.2 ⟨before, List.forall_mem_singleton.2 (List.nil_subset _)⟩
  case own => exact here
  case stack => exact grows (covered.stack c' mem)

theorem covered_of_step (covered : b.Covered) (taken : b.step site = (.ok next, events)) : next.Covered := by
  obtain ⟨stack, shared⟩ := b
  cases stack with
  | nil => cases taken; exact covered
  | cons c below =>
    obtain ⟨r, h, rfl, -⟩ := exists_reaction taken
    rcases sources_of_reaction h with ⟨sources, same, -, moves⟩ | ⟨how, file, stream, rfl⟩
    · refine ⟨?_, ?_, ?_, fun c' mem => ?_⟩
      all_goals rw [shared_settle, sources]
      · exact covered.once
      · rw [same.imported]
        exact covered.imported
      · rw [same.lineages]
        exact covered.lineages
      · rcases mem_settle mem with mem | ⟨rfl, -⟩ | entered
        · exact covered.stack c' (List.mem_cons_of_mem _ mem)
        · rw [(same_of_reaction h).1.path]
          exact covered.stack c List.mem_cons_self
        · exact absurd entered (moves _)
    · have onTop : Covered ⟨c.readOn site.markers :: below, shared⟩ :=
        ⟨covered.once, covered.imported, covered.lineages,
          List.forall_mem_cons.2 ⟨covered.stack c List.mem_cons_self, fun c' mem =>
            covered.stack c' (List.mem_cons_of_mem _ mem)⟩⟩
      exact onTop.child how file stream

theorem covered_of_leads (leads : Leads site b events last) (covered : b.Covered) : last.Covered := by
  induction leads with
  | refl => exact covered
  | step _ taken _ ih => exact ih (covered_of_step covered taken)

/-! ## What is shown -/

/-- What a step shows comes from the file on top. -/
theorem source_of_step (taken : step site ⟨c :: below, shared⟩ = (.ok next, events)) :
    ∀ e ∈ entriesOf events, e.source = c.path := by
  obtain ⟨r, h, -, rfl⟩ := exists_reaction taken
  rw [entriesOf_append, entriesOf_reading, List.nil_append]
  rcases reaction_reads h with ⟨_, _, -, h⟩ | ⟨why, -, rfl⟩
  · exact fun e mem => ((Context.shows_of_react h).from_file e mem).1
  · intro e mem
    rw [Context.abandon, entriesOf_append, Context.entriesOf_warn] at mem
    rcases List.mem_append.1 mem with mem | mem
    · cases List.mem_singleton.1 mem
      rfl
    · exact ((Context.shows_of_leaving _ shared 0 _).from_file e mem).1

theorem source_of_leads (leads : Leads site b events last) (covered : b.Covered) :
    ∀ e ∈ entriesOf events, e.source ∈ last.shared.sources := by
  induction leads with
  | refl => exact List.forall_mem_nil _
  | step _ taken onward ih =>
    rw [entriesOf_append]
    refine List.forall_mem_append.2 ⟨fun e mem => ?_, ih (covered_of_step covered taken)⟩
    rw [source_of_step taken e mem]
    exact sources_subset_of_leads onward (sources_subset_of_step taken (covered.stack _ List.mem_cons_self))

/-! ## What inclusions find -/

theorem Covered.lineage_subset (covered : b.Covered) (lineage : Handle) :
    b.shared.lineages.get lineage ⊆ b.shared.sources := by
  unfold Pool.get
  cases found : b.shared.lineages.values[lineage]? with
  | none => exact List.nil_subset _
  | some files => exact covered.lineages files (List.mem_iff_getElem?.2 ⟨lineage, found⟩)

theorem Covered.mem_of_taken {lineage : Handle} {how : Inclusion} {file : Path} (covered : b.Covered)
    (taken : b.shared.alreadyTaken lineage how file = true) : file ∈ b.shared.sources := by
  cases how with
  | importing => exact covered.imported (of_decide_eq_true taken)
  | sourcing => exact covered.lineage_subset lineage (of_decide_eq_true taken)
  | lines => cases taken

/-- The inclusion that is carried out next finds a file, and opens it if it was not taken in before. -/
def Finds (site : Site) (b : Build) : Prop :=
  ∀ c below how target, b.stack = c :: below → b.dispatched? site.markers = some (.inclusion how target) →
    ∃ file, site.resolve target c.directory = .ok file ∧
      (b.shared.alreadyTaken c.lineage how file = false → ∃ stream, site.openTarget file = .ok stream)

/-- The file that an inclusion finds is a source, whether it was taken in before or is opened now. -/
theorem mem_sources_of_found {how : Inclusion} {target : String} {file : Path}
    (covered : Covered ⟨c :: below, shared⟩) (finds : Finds site ⟨c :: below, shared⟩)
    (leads : Leads site ⟨c :: below, shared⟩ events last) (ended : last.stack = [])
    (dispatched : dispatched? site.markers ⟨c :: below, shared⟩ = some (.inclusion how target))
    (resolved : site.resolve target c.directory = .ok file) : file ∈ last.shared.sources := by
  cases old : shared.alreadyTaken c.lineage how file with
  | true => exact sources_subset_of_leads leads (covered.mem_of_taken old)
  | false =>
    obtain ⟨file', resolved', opens⟩ := finds c below how target rfl dispatched
    cases resolved.symm.trans resolved'
    obtain ⟨stream, opened⟩ := opens old
    obtain ⟨position, d, read, applied⟩ := exists_read_of_dispatched dispatched
    have pushed : step site ⟨c :: below, shared⟩ = _ := step_of_opened read applied resolved old opened
    cases leads with
    | refl => cases ended
    | step _ taken onward =>
      rw [pushed] at taken
      cases taken
      refine sources_subset_of_leads onward ?_
      rw [Context.sources_of_child]
      exact shared.mem_visit file

end Build

/-! ## Other sites -/

namespace Site

variable {site site' : Site} {target : String} {directory file path root : Path} {stream : Stream}

theorem resolve_of_found (home : site'.home? = site.home?)
    (ways : ∀ p file, site.tree.canonical p = .ok file → site'.tree.canonical p = .ok file)
    (found : site.resolve target directory = .ok file) : site'.resolve target directory = .ok file := by
  have expanded : site'.expand? target = site.expand? target := by rw [expand?, expand?, home]
  unfold resolve at found ⊢
  rw [expanded]
  cases stands : site.expand? target with
  | none => rw [stands] at found; cases found
  | some path =>
    rw [stands] at found
    dsimp only at found ⊢
    split at found <;> cases found
    simp only [ways _ _ ‹_›]

theorem openDocument_of_found
    (ways : ∀ p file, site.tree.canonical p = .ok file → site'.tree.canonical p = .ok file)
    (found : site.openDocument path = .ok (root, stream)) (same : site'.openFile root = site.openFile root) :
    site'.openDocument path = .ok (root, stream) := by
  obtain ⟨canonical, opened⟩ := openDocument_ok_iff.1 found
  exact openDocument_ok_iff.2 ⟨ways _ _ canonical, same.trans opened⟩

theorem openTarget_of_same (same : site'.openFile file = site.openFile file) :
    site'.openTarget file = site.openTarget file := by
  rw [openTarget, openTarget, same]

end Site

/-! ## Sources can be opened -/

namespace Build

variable {site : Site} {path : Path} {b next last : Build} {events : List Event}

/-- All sources so far can be opened as documents. -/
def Opens (site : Site) (b : Build) : Prop :=
  ∀ file ∈ b.shared.sources, ∃ stream, site.openDocument file = .ok (file, stream)

theorem opens_of_step (opens : b.Opens site) (taken : b.step site = (.ok next, events)) : next.Opens site := by
  obtain ⟨stack, shared⟩ := b
  cases stack with
  | nil => cases taken; exact opens
  | cons c below =>
    obtain ⟨r, h, rfl, -⟩ := exists_reaction taken
    rw [Opens, shared_settle]
    cases moves : r.move with
    | enter child =>
      obtain ⟨_, _, how, _, file, stream, -, -, resolved, -, opened, rfl, -⟩ := reaction_enter h moves
      have found := Site.openDocument_of_target (Site.canonical_of_resolve resolved) opened
      intro other mem
      rw [Context.enter, Context.sources_of_child, Shared.visit] at mem
      dsimp only at mem
      split at mem
      · exact opens other mem
      · rcases List.mem_append.1 mem with old | new
        · exact opens other old
        · rw [List.mem_singleton.1 new]
          exact ⟨stream, found⟩
    | _ =>
      rw [(visits_nothing h (by simp [moves])).1]
      exact opens

theorem opens_of_leads (opens : b.Opens site) (leads : Leads site b events last) : last.Opens site := by
  induction leads with
  | refl => exact opens
  | step _ taken _ ih => exact ih (opens_of_step opens taken)

theorem Reached.opens (reached : Reached site path b) : b.Opens site := by
  obtain ⟨root, stream, _, opened, leads⟩ := reached
  obtain ⟨canonical, given⟩ := Site.openDocument_ok_iff.1 opened
  have again := Site.openDocument_ok_iff.2 ⟨Tree.canonical_of_canonical canonical, given⟩
  have begun : (start root stream).Opens site := fun file mem => ⟨stream, List.mem_singleton.1 mem ▸ again⟩
  exact opens_of_leads begun leads

end Build

open Build

theorem View.opens_sources {site : Site} {path file : Path} {view : View} (built : (read site path).1 = .ok view)
    (source : file ∈ view.sources) : ∃ stream, site.openDocument file = .ok (file, stream) := by
  obtain ⟨root, stream, events, last, opened, leads, -, rfl⟩ := read_ok_iff.1 built
  have reached : Reached site path last := ⟨root, stream, events, opened, leads⟩
  exact reached.opens file source

namespace View

variable {site site' : Site} {path : Path} {view : View}

/-- The builds that the build of a document leads to go on to its view. -/
theorem exists_leads_of_reached (built : (read site path).1 = .ok view) {mid : Build}
    (reached : Reached site path mid) :
    mid.Covered ∧ ∃ events last, Leads site mid events last ∧ last.stack = [] ∧ last.shared.sources = view.sources := by
  obtain ⟨root, stream, seen, opened, first⟩ := reached
  obtain ⟨root', stream', events, last, opened', whole, ended, rfl⟩ := read_ok_iff.1 built
  cases opened.symm.trans opened'
  obtain ⟨later, -, onward⟩ := first.split whole (by rw [ended]; simp)
  exact ⟨covered_of_leads first (covered_start root stream), later, last, onward, ended, rfl⟩

theorem mem_sources_of_reached (built : (read site path).1 = .ok view) {mid : Build} (reached : Reached site path mid)
    (finds : mid.Finds site) {c : Context} {below : List Context} {how : Inclusion} {target : String} {file : Path}
    (stack : mid.stack = c :: below) (dispatched : mid.dispatched? site.markers = some (.inclusion how target))
    (resolved : site.resolve target c.directory = .ok file) : file ∈ view.sources := by
  obtain ⟨covered, events, last, leads, ended, same⟩ := exists_leads_of_reached built reached
  obtain ⟨stack', shared⟩ := mid
  subst stack
  rw [← same]
  exact mem_sources_of_found covered finds leads ended dispatched resolved

/-- A view is the same on another site that gives its sources alike. -/
theorem read_of_same_sources (built : (read site path).1 = .ok view)
    (finds : ∀ mid, Reached site path mid → mid.Finds site) (home : site'.home? = site.home?)
    (markers : site'.markers = site.markers)
    (ways : ∀ p file, site.tree.canonical p = .ok file → site'.tree.canonical p = .ok file)
    (same : ∀ file ∈ view.sources, site'.openFile file = site.openFile file) : read site' path = read site path := by
  obtain ⟨root, stream, events, last, opened, whole, ended, shown⟩ := read_ok_iff.1 built
  have first : root ∈ view.sources := by
    rw [shown]
    exact sources_subset_of_leads whole (List.mem_singleton.2 rfl)
  refine read_of_answered markers ?_ fun mid reached c below how target stack dispatched => ?_
  · rw [opened]
    exact Site.openDocument_of_found ways opened (same root first)
  · obtain ⟨file, resolved, -⟩ := finds mid reached c below how target stack dispatched
    refine ⟨by rw [resolved]; exact Site.resolve_of_found home ways resolved, fun file' resolved' _ => ?_⟩
    exact Site.openTarget_of_same
      (same file' (mem_sources_of_reached built reached (finds mid reached) stack dispatched resolved'))

/-- **The sources of a view determine it.**  They are the files that were opened, each once, where it was opened
first, and the document is the first of them.  The entries come from nowhere else, and the sets of files taken in
hold nothing else.  If every inclusion on the way finds a file and opens it, then the files that inclusions lead to
are all among the sources, also those that are skipped; and a site with the same home directory and markers, on which
each path that has a canonical form has the same one, and on which the sources are opened alike, gives the same view
and shows the same on the way.  So does a tree in which the sources hold the same bytes. -/
theorem sources_determine (built : (read site path).1 = .ok view) :
    view.sources = (openedPaths (read site path).2).eraseDups ∧ view.sources.Nodup ∧
    view.sources.head? = some view.root ∧ (∀ e ∈ view.entries, e.source ∈ view.sources) ∧
    (∀ mid, Reached site path mid →
      mid.shared.imported ⊆ view.sources ∧ ∀ lineage, mid.shared.lineages.get lineage ⊆ view.sources) ∧
    ((∀ mid, Reached site path mid → mid.Finds site) →
      (∀ mid c below how target file, Reached site path mid → mid.stack = c :: below →
        mid.dispatched? site.markers = some (.inclusion how target) →
        site.resolve target c.directory = .ok file → file ∈ view.sources) ∧
      (∀ site' : Site, site'.home? = site.home? → site'.markers = site.markers →
        (∀ p file, site.tree.canonical p = .ok file → site'.tree.canonical p = .ok file) →
        (∀ file ∈ view.sources, site'.openFile file = site.openFile file) → read site' path = read site path) ∧
      ∀ (tree : Tree) (encoding : String), site.openFile = openIn site.tree encoding →
        (∀ p file, site.tree.canonical p = .ok file → tree.canonical p = .ok file) →
        (∀ file ∈ view.sources, tree.read file = site.tree.read file) →
        read ⟨tree, site.home?, site.markers, openIn tree encoding⟩ path = read site path) := by
  obtain ⟨root, stream, events, last, opened, whole, ended, rfl⟩ := read_ok_iff.1 built
  have covered : (start root stream).Covered := covered_start root stream
  have listed : last.shared.sources = ([root] ++ openedPaths events).eraseDups := sources_of_leads whole rfl
  refine ⟨?listed, (covered_of_leads whole covered).once, ?first, source_of_leads whole covered, fun mid reached => ?_,
    fun finds => ⟨fun mid c below how target file reached stack dispatched resolved => ?_,
      fun site' home markers ways same => read_of_same_sources built finds home markers ways same,
      fun tree encoding openFile ways same => ?_⟩⟩
  case listed =>
    rw [read_of_leads opened whole ended]
    refine listed.trans (congrArg List.eraseDups ?_)
    rw [openedPaths_append]
    exact (List.append_nil _).symm
  case first =>
    show last.shared.sources.head? = some root
    rw [listed, List.singleton_append, List.eraseDups_cons]
    rfl
  · obtain ⟨known, _, _, onward, -, same⟩ := exists_leads_of_reached built reached
    rw [← same]
    have grows := sources_subset_of_leads onward
    exact ⟨List.Subset.trans known.imported grows,
      fun lineage => List.Subset.trans (known.lineage_subset lineage) grows⟩
  · exact mem_sources_of_reached built reached (finds mid reached) stack dispatched resolved
  · refine read_of_same_sources built finds rfl rfl ways fun file mem => ?_
    rw [openFile]
    simp only [openIn, same file mem]

end View

/-- A tree with a document, a file that it imports, and one that it does not, with a text. -/
def Tree.withOther (text : String) : Tree :=
  .holding [("menu", "#-import a"), ("a", "x"), ("b", text)]

/-- Its files as texts in ASCII. -/
def Site.withOther (text : String) : Site :=
  ⟨.withOther text, none, {}, openIn (.withOther text) "ascii"⟩

namespace View

/-- A tree with a file that is not included, whose contents differ. -/
theorem sources_determine_beside :
    ∃ view, (read (.withOther "y") ⟨.root, ["menu"]⟩).1 = .ok view ∧
      view.sources = [⟨.root, ["menu"]⟩, ⟨.root, ["a"]⟩] ∧ view.entries.map Entry.text = ["x"] ∧
      (read (.withOther "z") ⟨.root, ["menu"]⟩).1 = .ok view := by
  have menu : ∀ text, (Tree.withOther text).read ⟨.root, ["menu"]⟩ =
      .ok ("#-import a".toList.map fun c => UInt8.ofNat c.toNat) :=
    fun text => Tree.read_of_straight (Tree.Straight.root.append (by decide) rfl (by simp)) rfl
  have file : ∀ text, (Tree.withOther text).read ⟨.root, ["a"]⟩ = .ok ("x".toList.map fun c => UInt8.ofNat c.toNat) :=
    fun text => Tree.read_of_straight (Tree.Straight.root.append (by decide) rfl (by simp)) rfl
  have named : Text.Encoding.ofName? "ascii" = some .ascii := by decide +kernel
  have opened : (Site.withOther "y").openFile ⟨.root, ["menu"]⟩ = .ok (.ofLines ["#-import a"]) := by
    change openIn (.withOther "y") "ascii" _ = _
    rw [openIn, if_neg (by decide +kernel), menu, named]
    rfl
  have opened' : (Site.withOther "y").openFile ⟨.root, ["a"]⟩ = .ok (.ofLines ["x"]) := by
    change openIn (.withOther "y") "ascii" _ = _
    rw [openIn, if_neg (by decide +kernel), file, named]
    rfl
  have document : (Site.withOther "y").openDocument ⟨.root, ["menu"]⟩ =
      .ok (⟨.root, ["menu"]⟩, .ofLines ["#-import a"]) := by
    have found : (Site.withOther "y").tree.canonical ⟨.root, ["menu"]⟩ = .ok ⟨.root, ["menu"]⟩ :=
      Tree.canonical_of_straight (Tree.Straight.root.append (by decide) rfl (by simp))
    rw [Site.openDocument, found]
    simp only [opened]
  have resolved : (Site.withOther "y").resolve "a" ⟨.root, []⟩ = .ok ⟨.root, ["a"]⟩ := by
    have spelled : (Site.withOther "y").expand? "a" = some ⟨.here, ["a"]⟩ := by decide +kernel
    have found : (Site.withOther "y").tree.canonical ⟨.root, ["a"]⟩ = .ok ⟨.root, ["a"]⟩ :=
      Tree.canonical_of_straight (Tree.Straight.root.append (by decide) rfl (by simp))
    rw [Site.resolve, spelled]
    simp only [Path.join_here, List.nil_append, found]
  have target : (Site.withOther "y").openTarget ⟨.root, ["a"]⟩ = .ok (.ofLines ["x"]) := by
    rw [Site.openTarget, opened']
  have first : (start ⟨.root, ["menu"]⟩ (.ofLines ["#-import a"])).step (.withOther "y") = _ :=
    step_of_opened (c := ⟨⟨.root, ["menu"]⟩, 0, true, { stream := .ofLines ["#-import a"] }, 0, 0, [], {}⟩)
      rfl rfl resolved (by decide +kernel) target
  have whole : Leads (.withOther "y") _ _ ⟨[], _⟩ :=
    .step trivial first (.step trivial rfl (.step trivial rfl (.single trivial rfl)))
  have built := View.read_ok_iff.2 ⟨_, _, _, _, document, whole, rfl, rfl⟩
  have finds : ∀ mid, Reached (.withOther "y") ⟨.root, ["menu"]⟩ mid → mid.Finds (.withOther "y") := by
    rintro mid ⟨root, stream, seen, opens, leads⟩
    cases document.symm.trans opens
    revert seen mid
    rw [forall_comm]
    refine forall_leads (p := Finds (.withOther "y")) ?_ first
      (forall_leads ?_ rfl (forall_leads ?_ rfl (forall_leads ?_ rfl ?_)))
    · rintro c below how target' ⟨⟩ ⟨⟩
      exact ⟨_, resolved, fun _ => ⟨_, target⟩⟩
    · rintro c below how target' ⟨⟩ ⟨⟩
    · rintro c below how target' ⟨⟩ ⟨⟩
    · rintro c below how target' ⟨⟩ ⟨⟩
    · intro seen mid leads
      cases leads
      rintro c below how target' ⟨⟩
  obtain ⟨-, -, -, -, -, rest⟩ := sources_determine built
  obtain ⟨-, -, trees⟩ := rest finds
  have alike : Tree.Alike (fun _ _ => True) (.withOther "y") (.withOther "z") :=
    ⟨.cons ⟨rfl, .file _ _ trivial⟩ (.cons ⟨rfl, .file _ _ trivial⟩ (.cons ⟨rfl, .file _ _ trivial⟩ .nil)), rfl⟩
  refine ⟨_, built, rfl, rfl, (congrArg Prod.fst (trees (.withOther "z") "ascii" rfl ?ways ?same)).trans built⟩
  case ways => exact fun p file found => (Tree.canonical_alike alike p).trans found
  case same =>
    refine List.forall_mem_cons.2 ⟨(menu "z").trans (menu "y").symm, List.forall_mem_singleton.2 ?_⟩
    exact (file "z").trans (file "y").symm

end View

end Menu
