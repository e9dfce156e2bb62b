import Menu.Proofs.Build.Faultless
import Menu.Proofs.Includes.Keys
import Menu.Proofs.Session.Looks

/-!
# Lookups that come out as before

A view depends on what its build looked up, and on what the files hold that it opened.  If all lookups come out in
another tree as they did, and the files hold the same there, the document has the same view.

* `Unmoved`: the document and the targets of its inclusions lead where they led, to files that are opened or not.
* `View.read_of_unmoved`: then a view that is read anew is the old one, as far as its sources are.
-/

namespace Menu

open Build Menu.Tree

/-! ## What is opened -/

/-- A view goes by the canonical path of its document, which was opened. -/
theorem View.opened_of_read {site : Site} {path : Path} {view : View} (built : (read site path).1 = .ok view) :
    ∃ stream, site.tree.canonical path = .ok view.root ∧ site.openFile view.root = .ok stream := by
  obtain ⟨root, stream, events, last, opened, leads, ended, rfl⟩ := read_ok_iff.1 built
  exact ⟨stream, Site.openDocument_ok_iff.1 opened⟩

theorem View.root_mem_sources {site : Site} {path : Path} {view : View} (built : (read site path).1 = .ok view) :
    view.root ∈ view.sources := by
  obtain ⟨root, stream, events, last, opened, leads, ended, rfl⟩ := read_ok_iff.1 built
  exact sources_subset_of_leads leads (List.mem_singleton.2 rfl)

/-- A view is also that of its canonical path. -/
theorem View.read_root {site : Site} {path : Path} {view : View} (built : (read site path).1 = .ok view) :
    (read site view.root).1 = .ok view := by
  have anew : read site view.root = read site path := reload_eq_read built
  rw [anew, built]

/-- Files of any tree are opened in an encoding with what they hold, as far as they can be read. -/
def OpensWith (encoding : String) (text : List UInt8 → Stream) : Prop :=
  ∀ tree path, openIn tree encoding path = ((tree.read path).map text).mapError .fault

/-- If one file is opened in an encoding, all others are that can be read. -/
theorem exists_opensWith {encoding : String} {tree : Tree} {path : Path} {stream : Stream}
    (works : openIn tree encoding path = .ok stream) : ∃ text, OpensWith encoding text := by
  unfold openIn at works
  split at works
  · cases works
  · rename_i clean
    split at works
    · cases works
    · split at works
      · cases works
      · rename_i e named
        refine ⟨fun content => .ofText (Text.unifyBreaks (e.decode content)), fun t p => ?_⟩
        rw [openIn, if_neg clean, named]
        cases t.read p <;> rfl

theorem exists_opensWith_of_read {w : World} {tree : Tree} {path : Path} {view : View} (faithful : w.Faithful)
    (built : (View.read (w.siteAt tree) path).1 = .ok view) : ∃ text, OpensWith w.settings.encoding text := by
  obtain ⟨stream, -, opened⟩ := View.opened_of_read built
  rw [faithful.openFile] at opened
  exact exists_opensWith opened

theorem World.Faithful.faultless {w : World} (faithful : w.Faithful) (tree : Tree) : (w.siteAt tree).Faultless :=
  fun _ _ opened => faultless_openIn ((faithful.openFile tree _).symm.trans opened)

/-! ## Lookups that come out as before -/

/-- On the second site, what the build of a view looks up comes out as it did on the first: the document has the same
canonical path, and each inclusion leads to the same file, or fails in the same way, and a file is opened or not. -/
structure Unmoved (site site' : Site) (document : Path) (view : View) : Prop where
  document : site'.tree.canonical document = .ok view.root
  targets : ∀ b, Reached site view.root b → ∀ c below how target, b.stack = c :: below →
    b.dispatched? site.markers = some (.inclusion how target) →
      site'.resolve target c.directory = site.resolve target c.directory ∧
        ∀ file, site.resolve target c.directory = .ok file →
          ((∃ stream, site'.openFile file = .ok stream) ↔ ∃ stream, site.openFile file = .ok stream)

theorem Site.straight_of_resolve {site : Site} {target : String} {directory file : Path}
    (h : site.resolve target directory = .ok file) :
    ∃ place, file = Path.ofPlace place ∧ site.tree.Straight place := by
  obtain ⟨_, -, canonical⟩ := resolve_ok_iff.1 h
  exact straight_of_canonical canonical

variable {w : World} {before now : Tree} {document : Path} {view fresh : View}

section Compared

variable {text : List UInt8 → Stream}

theorem opened_iff_read (faithful : w.Faithful) (texts : OpensWith w.settings.encoding text) {file : Path} :
    (∃ stream, (w.siteAt now).openFile file = .ok stream) ↔ ∃ content, now.read file = .ok content := by
  rw [faithful.openFile, texts now file]
  cases now.read file with
  | error why => simp [Except.map, Except.mapError]
  | ok content => simp [Except.map, Except.mapError]

theorem openFile_of_read (faithful : w.Faithful) (texts : OpensWith w.settings.encoding text) {file : Path}
    (same : now.read file = before.read file) : (w.siteAt now).openFile file = (w.siteAt before).openFile file := by
  rw [faithful.openFile, faithful.openFile, texts now file, texts before file, same]

/-- A file with a canonical path that cannot be read is a directory. -/
theorem read_of_not_opened (faithful : w.Faithful) (texts : OpensWith w.settings.encoding text)
    {place : Place} (straight : now.Straight place)
    (closed : ¬ ∃ stream, (w.siteAt now).openFile (Path.ofPlace place) = .ok stream) :
    now.read (Path.ofPlace place) = .error (.refused .isDirectory (Path.ofPlace place)) := by
  rcases read_of_straight_cases straight with ⟨content, stamp, -, read⟩ | refused
  · exact absurd ((opened_iff_read faithful texts).2 ⟨content, read⟩) closed
  · exact refused

end Compared

/-- If the lookups come out as before, and the sources of a view hold the same as far as they can be read, the view is
still the one of its document. -/
theorem View.read_of_unmoved (faithful : w.Faithful)
    (built : (read (w.siteAt before) view.root).1 = .ok view)
    (unmoved : Unmoved (w.siteAt before) (w.siteAt now) document view)
    (same : ∀ file ∈ view.sources, ∀ content, now.canonical file = .ok file → now.read file = .ok content →
      before.read file = .ok content)
    (again : (read (w.siteAt now) document).1 = .ok fresh) : fresh = view := by
  obtain ⟨text, texts⟩ := exists_opensWith_of_read faithful built
  have alike : ∀ file ∈ view.sources, now.canonical file = .ok file →
      (∃ stream, (w.siteAt now).openFile file = .ok stream) →
      (w.siteAt now).openFile file = (w.siteAt before).openFile file := by
    intro file mem canonical given
    obtain ⟨content, read⟩ := (opened_iff_read faithful texts).1 given
    exact openFile_of_read faithful texts (read.trans (same file mem content canonical read).symm)
  have sameDocument : (w.siteAt now).openDocument document = (w.siteAt before).openDocument view.root := by
    obtain ⟨stream, canonical, opened⟩ := opened_of_read built
    obtain ⟨stream', canonical', opened'⟩ := opened_of_read again
    rw [Except.ok.inj (canonical'.symm.trans unmoved.document)] at opened'
    have sameFile := alike _ (root_mem_sources built) (canonical_of_canonical unmoved.document) ⟨stream', opened'⟩
    rw [Site.openDocument_ok_iff.2 ⟨canonical, opened⟩]
    exact Site.openDocument_ok_iff.2 ⟨unmoved.document, sameFile.trans opened⟩
  have markers : (w.siteAt now).markers = (w.siteAt before).markers := rfl
  have whole := read_of_answered markers sameDocument fun b reached c below how target stack dispatched => ?answered
  · rw [whole, built] at again
    exact (Except.ok.inj again).symm
  case answered =>
    obtain ⟨resolved, opens⟩ := unmoved.targets b reached c below how target stack dispatched
    refine ⟨resolved, fun file found _ => Site.openTarget_of_same ?_⟩
    obtain ⟨place, rfl, straight⟩ := Site.straight_of_resolve found
    obtain ⟨place', e, straight'⟩ := Site.straight_of_resolve (resolved.trans found)
    cases e
    by_cases given : ∃ stream, (w.siteAt before).openFile (Path.ofPlace place) = .ok stream
    · have finds : b.Finds (w.siteAt before) := by
        intro c' below' how' target' stack' dispatched'
        cases stack.symm.trans stack'
        cases dispatched.symm.trans dispatched'
        obtain ⟨stream, given⟩ := given
        exact ⟨_, found, fun _ => ⟨stream, by rw [Site.openTarget, given]⟩⟩
      have source := mem_sources_of_reached built reached finds stack dispatched found
      exact alike _ source (canonical_of_straight straight') ((opens _ found).2 given)
    · have closed := mt (opens _ found).1 given
      exact openFile_of_read faithful texts
        ((read_of_not_opened faithful texts straight' closed).trans
          (read_of_not_opened faithful texts straight given).symm)

end Menu
