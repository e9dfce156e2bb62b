import Menu.Proofs.Tree.Changes
import Menu.Session

/-!
# Looks at the watched files

What one pass over a document leaves, and what comes of each look at the watched files after it.

* `Passed`: the view was read from the document and its listing was written.
* `Look`: nothing has changed, or a build failed, or there is a new view with its listing.
* `Vigil` and `Vigil.Arises`: a program that looks again and again, while others edit the files.
* `Vigil.arises_of_turn`: a turn of `watchFor` is such a look, and edits after it.
-/

namespace Menu

/-- The bytes of the numbered listing of a view. -/
def View.written (v : View) : List UInt8 :=
  (v.listing true).toUTF8.data.toList

/-- The site of a world in which the tree is another one. -/
def World.siteAt (w : World) (tree : Tree) : Site :=
  { w with tree }.site

variable {w w' : World} {s s' : State} {view : View} {m m' : Monitor}

/-! ## One pass -/

/-- What neither a stage nor a look changes. -/
structure World.Keeps (w w' : World) : Prop where
  home : w'.home? = w.home? := by rfl
  settings : w'.settings = w.settings := by rfl
  opening : w'.opening = w.opening := by rfl
  environment : w'.environment = w.environment := by rfl
  unprintable : w'.unprintable? = w.unprintable? := by rfl

theorem World.Keeps.trans {between : World} (first : w.Keeps between) (second : between.Keeps w') : w.Keeps w' :=
  ⟨second.home.trans first.home, second.settings.trans first.settings, second.opening.trans first.opening,
    second.environment.trans first.environment, second.unprintable.trans first.unprintable⟩

/-- What a stage of a pass does not change: it does not sleep, either. -/
structure World.StaysAwake (w w' : World) : Prop extends w.Keeps w' where
  sleeps : w'.sleeps = w.sleeps := by rfl

namespace World.StaysAwake

theorem trans {between : World} (first : w.StaysAwake between) (second : between.StaysAwake w') : w.StaysAwake w' :=
  ⟨first.toKeeps.trans second.toKeeps, second.sleeps.trans first.sleeps⟩

/-- The same tree is the same site. -/
theorem siteAt (awake : w.StaysAwake w') : w'.siteAt = w.siteAt := by
  funext tree
  simp only [World.siteAt, World.site, awake.home, awake.settings, awake.opening, awake.sleeps]

end World.StaysAwake

/-- A world whose files are opened with what they hold, whenever that is. -/
def World.Faithful (w : World) : Prop :=
  w.opening = fun _ tree => openIn tree w.settings.encoding

namespace World.Faithful

theorem openFile (faithful : w.Faithful) (tree : Tree) (path : Path) :
    (w.siteAt tree).openFile path = openIn tree w.settings.encoding path := by
  change w.opening w.sleeps.length tree path = _
  rw [faithful]

theorem of_keeps (faithful : w.Faithful) (keeps : w.Keeps w') : w'.Faithful := by
  rw [Faithful, keeps.opening, keeps.settings]
  exact faithful

/-- In such a world, sleeping makes no difference. -/
theorem siteAt_eq (faithful : w.Faithful) (keeps : w.Keeps w') : w'.siteAt = w.siteAt := by
  funext tree
  have opens : w'.opening w'.sleeps.length tree = w.opening w.sleeps.length tree := by
    funext path
    calc
      (w'.siteAt tree).openFile path = openIn tree w'.settings.encoding path :=
        (faithful.of_keeps keeps).openFile tree path
      _ = openIn tree w.settings.encoding path := by rw [keeps.settings]
      _ = (w.siteAt tree).openFile path := (faithful.openFile tree path).symm
  simp only [World.siteAt, World.site, keeps.home, keeps.settings, opens]

end World.Faithful

/-- A world with a tree that a system can have. -/
structure FoundedWorld extends World where
  founded : tree.Founded

/-- Such a world, whose files are opened with what they hold. -/
structure FaithfulWorld extends FoundedWorld where
  faithful : toWorld.Faithful

/-- What a pass leaves: the view of the document in the tree from which it was read, and its listing. -/
structure Passed (read : Tree) (s : State) (w : World) (view : View) : Prop where
  shown : s.view = some view
  built : (View.read (w.siteAt read) s.document).1 = .ok view
  listed : read.write s.listing view.written = .ok w.tree

theorem writeListing_ok (h : writeListing w s = (.ok s', w')) :
    ∃ view, s.view = some view ∧ s' = { s with rendered := view.listing true } ∧
      w.tree.write s.listing view.written = .ok w'.tree ∧ w.StaysAwake w' := by
  unfold writeListing at h
  cases shown : s.view with
  | none => rw [shown] at h; cases h
  | some view =>
    rw [shown] at h
    dsimp only at h
    split at h
    · cases h
    · split at h
      · cases h
      · rename_i tree made
        cases h
        exact ⟨view, rfl, rfl, (Tree.writeText_ok_iff.1 made).2, {}⟩

theorem readDocument_ok (h : readDocument w s = (.ok s', w')) :
    ∃ view, (View.read w.site s.document).1 = .ok view ∧ s' = { s with view := some view } ∧ w'.tree = w.tree ∧
      w.StaysAwake w' := by
  unfold readDocument at h
  generalize View.read w.site s.document = result at h
  obtain ⟨outcome, events⟩ := result
  cases outcome with
  | error why => cases why <;> cases h
  | ok view => cases h; exact ⟨view, rfl, rfl, rfl, {}⟩

theorem runCommand_ok (h : runCommand w s = (.ok s', w')) :
    s'.view = s.view ∧ s'.document = s.document ∧ s'.listing = s.listing ∧ w'.tree = w.tree ∧
      w.StaysAwake w' := by
  unfold runCommand runEntry at h
  dsimp only at h
  repeat' split at h
  all_goals cases h
  all_goals exact ⟨rfl, rfl, rfl, rfl, {}⟩

theorem report_ok (h : report w s = (.ok s', w')) : s' = s ∧ w'.tree = w.tree ∧ w.StaysAwake w' := by
  unfold report at h
  split at h
  · cases h
  · cases h
    exact ⟨rfl, rfl, {}⟩

theorem checkInput_ok (h : checkInput w s = (.ok s', w')) : w.StaysAwake w' := by
  unfold checkInput at h
  dsimp only at h
  repeat' split at h
  all_goals cases h
  exact {}

/-- A chain of stages, taken apart at the first of them. -/
theorem exists_of_pipeline {stage : Stage} {rest : List Stage} (h : pipeline (stage :: rest) w s = (.ok s', w')) :
    ∃ mid between, stage w s = (.ok mid, between) ∧ pipeline rest between mid = (.ok s', w') := by
  rw [pipeline] at h
  generalize stage w s = result at h
  obtain ⟨outcome, between⟩ := result
  cases outcome with
  | error why => cases h
  | ok mid => exact ⟨mid, between, rfl, h⟩

theorem passed_of_onePass (h : pipeline onePass w s = (.ok s', w')) :
    w.StaysAwake w' ∧ ∃ view, Passed (checkInput w s).2.tree s' w' view := by
  obtain ⟨s₁, w₁, checked, h⟩ := exists_of_pipeline h
  obtain ⟨s₂, w₂, read, h⟩ := exists_of_pipeline h
  obtain ⟨s₃, w₃, listed, h⟩ := exists_of_pipeline h
  obtain ⟨s₄, w₄, ran, h⟩ := exists_of_pipeline h
  obtain ⟨s₅, w₅, told, h⟩ := exists_of_pipeline h
  cases h
  obtain ⟨view, built, rfl, tree₂, awake₂⟩ := readDocument_ok read
  obtain ⟨_, ⟨⟩, rfl, made, awake₃⟩ := writeListing_ok listed
  obtain ⟨shown, document, listing, tree₄, awake₄⟩ := runCommand_ok ran
  obtain ⟨rfl, tree₅, awake₅⟩ := report_ok told
  have awake : w₁.StaysAwake w' := awake₂.trans (awake₃.trans (awake₄.trans awake₅))
  refine ⟨(checkInput_ok checked).trans awake, view, shown, ?_, ?_⟩
  · rw [checked, awake.siteAt, document]
    exact built
  · rw [checked, listing, tree₅, tree₄, ← tree₂]
    exact made

theorem passed_of_shown (h : pipeline onePass w s = (.ok s', w')) (shown : s'.view = some view) :
    Passed (checkInput w s).2.tree s' w' view := by
  obtain ⟨-, _, passed⟩ := passed_of_onePass h
  cases shown.symm.trans passed.shown
  exact passed

/-- A state in which the document and the place of its listing are known. -/
def State.located (s : State) (settings : Settings) : State where
  __ := s
  document := s.inputDirectory.join (Path.ofText s.inputFile)
  listing := s.outputDirectory.join (Path.ofText settings.outputFile)
  checked := true

theorem checkInput_of_found {read : Tree} (file : w.tree.isFile (s.located w.settings).document = .ok true)
    (made : w.tree.makeDirectories s.outputDirectory = (.ok (), read)) :
    ∃ w', checkInput w s = (.ok (s.located w.settings), w') ∧ w'.tree = read ∧ w.StaysAwake w' := by
  have told : (announceCheck w s).tree = w.tree := rfl
  unfold State.located at file
  unfold checkInput
  simp only [told, file, World.tell, made]
  exact ⟨_, rfl, rfl, {}⟩

theorem readDocument_of_read (built : (View.read w.site s.document).1 = .ok view) :
    ∃ w', readDocument w s = (.ok { s with view := some view }, w') ∧ w'.tree = w.tree ∧ w.StaysAwake w' := by
  unfold readDocument
  rw [show View.read w.site s.document = (.ok view, (View.read w.site s.document).2) from Prod.ext built rfl]
  exact ⟨_, rfl, rfl, {}⟩

/-- In such a world every text is printed, and has bytes to be written. -/
structure World.WritesAll (w : World) : Prop where
  prints : ∀ text, w.unprintable? text = none
  encodes : ∀ c, w.tree.surrogate? c = none

theorem World.WritesAll.of_keeps {tree : Tree} (writes : World.WritesAll { w with tree }) (keeps : w.Keeps w')
    (same : w'.tree = tree) : w'.WritesAll := by
  refine ⟨fun text => ?_, fun c => ?_⟩
  · rw [keeps.unprintable]
    exact writes.prints text
  · rw [same]
    exact writes.encodes c

theorem writeListing_of_write {tree : Tree} (shown : s.view = some view) (writes : w.WritesAll)
    (listed : w.tree.write s.listing view.written = .ok tree) :
    ∃ w', writeListing w s = (.ok { s with rendered := view.listing true }, w') ∧ w'.tree = tree ∧
      w.StaysAwake w' := by
  have encoded : (view.listing true).toList.any (Text.lacks w.tree.surrogate? fun _ => false) = false :=
    List.any_eq_false.2 fun c _ => by simp [Text.lacks, writes.encodes]
  have made : w.tree.writeText s.listing (view.listing true) = (.ok (), tree) :=
    Tree.writeText_ok_iff.2 ⟨encoded, listed⟩
  unfold writeListing
  simp only [shown, writes.prints, made]
  exact ⟨_, rfl, rfl, {}⟩

theorem runCommand_of_idle (idle : s.execute = none) : runCommand w s = (.ok s, w) := by
  rw [runCommand, idle]

theorem report_of_shown (shown : s.view = some view) :
    ∃ w', report w s = (.ok s, w') ∧ w'.tree = w.tree ∧ w.StaysAwake w' := by
  unfold report
  simp only [shown]
  exact ⟨_, rfl, rfl, {}⟩

theorem pipeline_of_ok {stage : Stage} {rest : List Stage} (h : stage w s = (.ok s', w')) :
    pipeline (stage :: rest) w s = pipeline rest w' s' := by
  rw [pipeline, h]

/-- A document that is found and read comes to be listed. -/
theorem exists_readDocument {read : Tree} (file : w.tree.isFile (s.located w.settings).document = .ok true)
    (made : w.tree.makeDirectories s.outputDirectory = (.ok (), read))
    (built : (View.read (w.siteAt read) (s.located w.settings).document).1 = .ok view) :
    ∃ w₁ w₂, checkInput w s = (.ok (s.located w.settings), w₁) ∧ w₁.tree = read ∧
      readDocument w₁ (s.located w.settings) = (.ok { s.located w.settings with view := some view }, w₂) ∧
      w₂.tree = read ∧ w.StaysAwake w₂ := by
  obtain ⟨w₁, checked, tree₁, awake₁⟩ := checkInput_of_found file made
  rw [← awake₁.siteAt, ← tree₁] at built
  obtain ⟨w₂, got, tree₂, awake₂⟩ := readDocument_of_read (w := w₁) built
  exact ⟨w₁, w₂, checked, tree₁, got, tree₂.trans tree₁, awake₁.trans awake₂⟩

/-- A pass over a document that is found and read, and whose listing is written, comes to its end. -/
theorem exists_onePass {read tree : Tree} (file : w.tree.isFile (s.located w.settings).document = .ok true)
    (made : w.tree.makeDirectories s.outputDirectory = (.ok (), read))
    (built : (View.read (w.siteAt read) (s.located w.settings).document).1 = .ok view)
    (writes : World.WritesAll { w with tree := read })
    (listed : read.write (s.located w.settings).listing view.written = .ok tree) (idle : s.execute = none) :
    ∃ w', pipeline onePass w s =
        (.ok { s.located w.settings with view := some view, rendered := view.listing true }, w') ∧
      w'.tree = tree ∧ w.StaysAwake w' ∧ (checkInput w s).2.tree = read := by
  obtain ⟨w₁, w₂, checked, tree₁, got, tree₂, awake₂⟩ := exists_readDocument file made built
  have still : (s.located w.settings).execute = none := idle
  generalize s.located w.settings = s₁ at *
  rw [← tree₂] at listed
  obtain ⟨w₃, listed₃, tree₃, awake₃⟩ := writeListing_of_write (w := w₂) (s := { s₁ with view := some view }) rfl
    (writes.of_keeps awake₂.toKeeps tree₂) listed
  obtain ⟨w₄, told, tree₄, awake₄⟩ := report_of_shown (w := w₃)
    (s := { s₁ with view := some view, rendered := view.listing true }) rfl
  refine ⟨w₄, ?_, tree₄.trans tree₃, awake₂.trans (awake₃.trans awake₄), ?_⟩
  · exact (pipeline_of_ok checked).trans ((pipeline_of_ok got).trans ((pipeline_of_ok listed₃).trans
      ((pipeline_of_ok (runCommand_of_idle (by exact still))).trans (pipeline_of_ok told))))
  · rw [checked]
    exact tree₁

theorem keeps_checkInput {p : Tree → Prop} (kept : Tree.Kept p) (here : p w.tree) (s : State) :
    p (checkInput w s).2.tree := by
  have made : p (w.tree.makeDirectories s.outputDirectory).2 :=
    Tree.keeps_makeDirectories kept.makeDirectory here s.outputDirectory
  unfold checkInput
  dsimp only
  split
  · exact here
  · exact here
  · split <;> rename_i same
    all_goals
      rw [show w.tree.makeDirectories s.outputDirectory = _ from same] at made
      exact made

/-! ## Looking again and again -/

/-- A program between two looks at the files that it watches. -/
structure Vigil where
  world : World
  state : State
  monitor : Monitor
  /-- The trees since it began to watch, the last one first. -/
  trees : List Tree
  /-- Where the last build that did not fail found its documents. -/
  built : Site

namespace Vigil

/-- The beginning, after a pass that read its view from a tree. -/
def begin (w : World) (s : State) (view : View) (read : Tree) : Vigil where
  world := { (w.arm view.sources).2.tell [.waiting] with batches := [] }
  state := s
  monitor := (w.arm view.sources).1
  trees := [w.tree]
  built := w.siteAt read

/-- Where the last build that did not fail found its documents, after the next look. -/
def builtNext (v : Vigil) : Site :=
  match v.monitor.changed? v.world.tree, v.state.view with
  | some _, some view =>
    match (view.reload v.world.site).1 with
    | .ok _ => v.world.site
    | .error _ => v.built
  | _, _ => v.built

/-- What is left of a look. -/
def looked (v : Vigil) (w : World) (s : State) (m : Monitor) : Vigil :=
  ⟨w, s, m, w.tree :: v.trees, v.builtNext⟩

/-- The tree was edited. -/
def edited (v : Vigil) (tree : Tree) : Vigil :=
  { v with world := { v.world with tree }, trees := tree :: v.trees }

/-- What comes of a session from `w₀` and `s₀`, once it watches, if others make only such edits as they may. -/
inductive Arises (may : Vigil → Edit → Prop) (w₀ : World) (s₀ : State) : Vigil → Prop
  | begin {w : World} {s : State} {view : View} :
    pipeline onePass w₀ s₀ = (.ok s, w) → s.view = some view →
    Arises may w₀ s₀ (begin w s view (checkInput w₀ s₀).2.tree)
  | look {v : Vigil} {w : World} {s : State} {m : Monitor} :
    Arises may w₀ s₀ v → lookAndSleep v.world v.state v.monitor = (.ok (s, m), w) →
    Arises may w₀ s₀ (v.looked w s m)
  | edit {v : Vigil} {e : Edit} {tree : Tree} :
    Arises may w₀ s₀ v → may v e → e.apply v.world.tree = (.ok (), tree) → Arises may w₀ s₀ (v.edited tree)

variable {v : Vigil} {may : Vigil → Edit → Prop} {w₀ : World} {s₀ : State}

/-- What a look comes to: the state, the monitor, the tree and the site of the last build that did not fail. -/
inductive Look (v : Vigil) (view : View) : State → Monitor → Tree → Site → Prop
  | unchanged : v.monitor.changed? v.world.tree = none → Look v view v.state v.monitor v.world.tree v.built
  /-- The document cannot be read, and the same files are watched from now on. -/
  | failed (why : Fault) :
    v.monitor.changed? v.world.tree ≠ none → (view.reload v.world.site).1 = .error (.fault why) →
    Look v view v.state (v.monitor.rearm v.world.tree) v.world.tree v.built
  | rebuilt (fresh : View) (tree : Tree) :
    v.monitor.changed? v.world.tree ≠ none → (view.reload v.world.site).1 = .ok fresh →
    v.world.tree.write v.state.listing fresh.written = .ok tree →
    Look v view { v.state with view := some fresh, rendered := fresh.listing true } (Monitor.arm tree fresh.sources)
      tree v.world.site

theorem exists_of_lookAndSleep (h : lookAndSleep w s m = (.ok (s', m'), w')) :
    ∃ mid, lookAgain w s m = (.ok (s', m'), mid) ∧ w'.tree = mid.tree ∧ mid.Keeps w' := by
  unfold lookAndSleep at h
  split at h
  · cases h
  · rename_i next mid looked
    cases h
    exact ⟨mid, looked, rfl, {}⟩

/-- Everything that a look can come to. -/
theorem look_of_lookAndSleep (shown : v.state.view = some view)
    (h : lookAndSleep v.world v.state v.monitor = (.ok (s, m), w)) :
    v.world.Keeps w ∧ v.Look view s m w.tree v.builtNext := by
  obtain ⟨mid, h, tree, slept⟩ := exists_of_lookAndSleep h
  suffices v.world.Keeps mid ∧ v.Look view s m mid.tree v.builtNext from tree ▸ ⟨this.1.trans slept, this.2⟩
  unfold lookAgain at h
  unfold builtNext
  rw [shown] at h ⊢
  cases changed : v.monitor.changed? v.world.tree with
  | none =>
    rw [changed] at h
    cases h
    exact ⟨{}, .unchanged changed⟩
  | some file =>
    rw [changed] at h
    have same : (v.world.tell [.changed file]).site = v.world.site := rfl
    simp only [rebuild, same] at h
    dsimp only
    cases reloaded : (view.reload v.world.site).1 with
    | error why =>
      rw [show view.reload v.world.site = (.error why, (view.reload v.world.site).2) from Prod.ext reloaded rfl] at h
      cases why with
      | fault why =>
        cases h
        exact ⟨{}, .failed why (by simp [changed]) reloaded⟩
      | _ => cases h
    | ok fresh =>
      rw [show view.reload v.world.site = (.ok fresh, (view.reload v.world.site).2) from Prod.ext reloaded rfl] at h
      dsimp only at h
      split at h
      · cases h
      · rename_i listed made
        cases h
        obtain ⟨_, ⟨⟩, rfl, written, awake⟩ := writeListing_ok made
        exact ⟨.trans {} (awake.toKeeps.trans {}), .rebuilt fresh _ (by simp [changed]) reloaded written⟩

/-! ## The loop -/

/-- Edits that may be made one after the other. -/
def MayAll (may : Vigil → Edit → Prop) : Vigil → List Edit → Prop
  | _, [] => True
  | v, e :: rest => may v e ∧ MayAll may (v.edited (e.apply v.world.tree).2) rest

theorem arises_of_applyAll {edits : List Edit} {tree : Tree} (arises : Arises may w₀ s₀ v)
    (allowed : MayAll may v edits) (h : Edit.applyAll v.world.tree edits = (.ok (), tree)) :
    ∃ trees, Arises may w₀ s₀ { v with world := { v.world with tree }, trees } := by
  induction edits generalizing v with
  | nil => cases h; exact ⟨v.trees, arises⟩
  | cons e rest ih =>
    obtain ⟨first, others⟩ := allowed
    rw [Edit.applyAll] at h
    generalize made : e.apply v.world.tree = attempt at h others
    obtain ⟨outcome, after⟩ := attempt
    cases outcome with
    | error why => cases h
    | ok _ =>
      have onward := ih (arises.edit first made) others h
      exact onward

/-- The loop begins where the watch does. -/
theorem watchFiles_eq (shown : s.view = some view) (read : Tree) :
    watchFiles w s = watchFor w.batches (begin w s view read).world s (begin w s view read).monitor := by
  unfold watchFiles
  rw [shown]
  rfl

/-- A turn of the loop is a look, and edits after it. -/
theorem arises_of_turn {edits : List Edit} (arises : Arises may w₀ s₀ v)
    (looked : lookAndSleep v.world v.state v.monitor = (.ok (s, m), w)) (allowed : MayAll may (v.looked w s m) edits)
    (h : applyEdits w edits = (.ok (), w')) :
    ∃ trees, Arises may w₀ s₀ ⟨w', s, m, trees, v.builtNext⟩ := by
  unfold applyEdits at h
  generalize made : Edit.applyAll w.tree edits = attempt at h
  obtain ⟨outcome, tree⟩ := attempt
  cases outcome with
  | error why => cases h
  | ok _ =>
    cases h
    exact arises_of_applyAll (arises.look looked) allowed made

end Vigil

end Menu
