import Menu.Proofs.Session.Fresh
import Menu.Proofs.Tree.Rewrites

/-!
# What stands while the loop waits

Whenever the loop waits, the view, what was printed last, the output file and the watched files all belong to the last
build that did not fail, whatever others did to the files meanwhile, the output file apart.  A build that fails leaves
all of them as they are, and the loop then sleeps until someone changes a file again.

* `Vigil.Consistent`: what belongs together, kept by a look (`Vigil.Standing.look`) and by an edit.
* `lookAndSleep_of_failed` and `watchFor_of_unchanged`: what a failed build does, and what comes after it.
* `Vigil.consistent_of_arises`: both about every run.
-/

namespace Menu

open Menu.Tree

/-! ## The watched files -/

theorem eraseDups_of_nodup {α : Type} [BEq α] [LawfulBEq α] {as : List α} (once : as.Nodup) : as.eraseDups = as := by
  induction as with
  | nil => rfl
  | cons a as ih =>
    obtain ⟨fresh, once⟩ := List.nodup_cons.1 once
    have kept : as.filter (fun b => !b == a) = as :=
      List.filter_eq_self.2 fun b mem => by simpa using fun same : b = a => fresh (same ▸ mem)
    rw [List.eraseDups_cons, kept, ih once]

theorem View.nodup_sources {site : Site} {path : Path} {view : View} (built : (read site path).1 = .ok view) :
    view.sources.Nodup := by
  obtain ⟨root, stream, events, last, opened, leads, ended, rfl⟩ := read_ok_iff.1 built
  exact (Build.covered_of_leads leads (Build.covered_start root stream)).once

theorem Monitor.paths_arm (tree : Tree) {paths : List Path} (once : paths.Nodup) : (arm tree paths).paths = paths := by
  rw [arm, Monitor.paths, List.map_map, eraseDups_of_nodup once]
  exact List.map_id' paths

/-! ## Looks that find nothing, and builds that fail -/

variable {w : World} {s s₀ : State} {m : Monitor} {view : View}

/-- The world after some more sleeps. -/
def World.slept (w : World) (n : Nat) : World :=
  { w with sleeps := w.sleeps ++ List.replicate n w.settings.watchInterval }

theorem World.slept_slept (w : World) (n k : Nat) : (w.slept n).slept k = w.slept (n + k) := by
  simp only [World.slept, List.append_assoc, List.replicate_append_replicate]

theorem lookAndSleep_of_unchanged (unchanged : m.changed? w.tree = none) :
    lookAndSleep w s m = (.ok (s, m), w.slept 1) := by
  rw [lookAndSleep, lookAgain, unchanged]
  rfl

/-- As long as no one edits a file, the loop sleeps. -/
theorem watchFor_of_unchanged (unchanged : m.changed? w.tree = none) (n : Nat) :
    watchFor (List.replicate n []) w s m = (.ok s, (w.slept (n + 1)).tell [.stopped]) := by
  induction n generalizing w with
  | zero =>
    rw [List.replicate_zero, watchFor, lookAndSleep_of_unchanged unchanged]
  | succ n ih =>
    have still : applyEdits (w.slept 1) [] = (.ok (), w.slept 1) := rfl
    rw [List.replicate_succ, watchFor, lookAndSleep_of_unchanged unchanged]
    simp only [still]
    rw [ih (w := w.slept 1) unchanged, World.slept_slept, Nat.add_comm 1]

/-- A build that fails leaves all that is shown as it is, and the same files are watched. -/
theorem lookAndSleep_of_failed {why : Fault} (shown : s.view = some view) (changed : m.changed? w.tree ≠ none)
    (failed : (view.reload w.site).1 = .error (.fault why)) :
    ∃ w', lookAndSleep w s m = (.ok (s, m.rearm w.tree), w') ∧ w'.tree = w.tree ∧ w'.out = w.out := by
  obtain ⟨file, changed⟩ := Option.ne_none_iff_exists'.1 changed
  have same : (w.tell [.changed file]).site = w.site := rfl
  unfold lookAndSleep lookAgain
  simp only [changed, shown, rebuild, same]
  generalize view.reload w.site = result at failed
  obtain ⟨outcome, events⟩ := result
  cases failed
  exact ⟨_, rfl, rfl, rfl⟩

namespace Vigil

/-! ## What belongs together -/

/-- The view, what was printed last, the output file and the watched files are those of the last build that did not
fail. -/
structure Consistent (v : Vigil) (view : View) : Prop where
  built : (View.read v.built view.root).1 = .ok view
  shown : v.state.view = some view
  rendered : v.state.rendered = view.listing true
  output : v.world.tree.read v.state.listing = .ok view.written
  watched : v.monitor.paths = view.sources

/-- A build that fails changes none of them, and no other build comes before a file is edited. -/
structure OutlastsFailure (v : Vigil) (view : View) : Prop where
  look : ∀ why, v.monitor.changed? v.world.tree ≠ none → (view.reload v.world.site).1 = .error (.fault why) →
    ∃ w m, lookAndSleep v.world v.state v.monitor = (.ok (v.state, m), w) ∧
      w.tree = v.world.tree ∧ w.out = v.world.out ∧ m.paths = v.monitor.paths ∧
      (v.looked w v.state m).Consistent view ∧ (v.looked w v.state m).built = v.built ∧
      ∀ n, watchFor (List.replicate n []) w v.state m = (.ok v.state, (w.slept (n + 1)).tell [.stopped])

/-- What is kept between two looks. -/
structure Standing (v : Vigil) (view : View) : Prop extends v.Consistent view where
  founded : v.world.tree.Founded

variable {v : Vigil} {tree : Tree} {e : Edit} {why : Fault}

theorem rendered_of_runCommand {w w' : World} {s s' : State} (ran : runCommand w s = (.ok s', w')) :
    s'.rendered = s.rendered := by
  unfold runCommand runEntry at ran
  dsimp only at ran
  repeat' split at ran
  all_goals cases ran
  all_goals rfl

theorem rendered_of_onePass {w₀ w : World} {s : State} (passed : pipeline onePass w₀ s₀ = (.ok s, w))
    (shown : s.view = some view) : s.rendered = view.listing true := by
  obtain ⟨s₁, w₁, checked, passed⟩ := exists_of_pipeline passed
  obtain ⟨s₂, w₂, read, passed⟩ := exists_of_pipeline passed
  obtain ⟨s₃, w₃, listed, passed⟩ := exists_of_pipeline passed
  obtain ⟨s₄, w₄, ran, passed⟩ := exists_of_pipeline passed
  obtain ⟨s₅, w₅, told, passed⟩ := exists_of_pipeline passed
  cases passed
  obtain ⟨rfl, -⟩ := report_ok told
  obtain ⟨same, -⟩ := runCommand_ok ran
  obtain ⟨listed, shown', rfl, -⟩ := writeListing_ok listed
  rw [rendered_of_runCommand ran]
  rw [same] at shown
  cases shown.symm.trans shown'
  rfl

theorem standing_begin {w₀ : FoundedWorld} {w : World} {s : State}
    (passed : pipeline onePass w₀.toWorld s₀ = (.ok s, w)) (shown : s.view = some view) :
    Standing (begin w s view (checkInput w₀.toWorld s₀).2.tree) view := by
  obtain ⟨-, built, listed⟩ := passed_of_shown passed shown
  have foundedBuilt : (checkInput w₀.toWorld s₀).2.tree.Founded := keeps_checkInput kept_founded w₀.founded s₀
  exact
    { built := View.read_root built
      shown
      rendered := rendered_of_onePass passed shown
      output := read_of_write foundedBuilt listed
      watched := Monitor.paths_arm w.tree (View.nodup_sources built)
      founded := foundedBuilt.write listed }

theorem Standing.edit (standing : v.Standing view) (spares : v.SparesOutput e)
    (made : e.apply v.world.tree = (.ok (), tree)) : (v.edited tree).Standing view := by
  unfold SparesOutput at spares
  rw [made] at spares
  exact { standing with output := spares.trans standing.output, founded := standing.founded.edit made }

theorem Standing.look {w : World} {s : State} {m : Monitor} (standing : v.Standing view)
    (looked : lookAndSleep v.world v.state v.monitor = (.ok (s, m), w)) : ∃ view', (v.looked w s m).Standing view' := by
  obtain ⟨-, look⟩ := look_of_lookAndSleep standing.shown looked
  generalize sameTree : w.tree = tree at look
  generalize sameBuilt : v.builtNext = built at look
  cases look with
  | unchanged =>
    refine ⟨view, ⟨?built, standing.shown, standing.rendered, ?output, standing.watched⟩, ?founded⟩
    all_goals simp only [Vigil.looked, sameTree, sameBuilt]
    case built => exact standing.built
    case output => exact standing.output
    case founded => exact standing.founded
  | failed why changed reloaded =>
    refine ⟨view, ⟨?built, standing.shown, standing.rendered, ?output, ?watched⟩, ?founded⟩
    all_goals simp only [Vigil.looked, sameTree, sameBuilt]
    case built => exact standing.built
    case output => exact standing.output
    case founded => exact standing.founded
    case watched =>
      rw [Monitor.rearm, standing.watched]
      exact Monitor.paths_arm _ (View.nodup_sources standing.built)
  | rebuilt fresh tree changed reloaded listed =>
    refine ⟨fresh, ⟨?built, rfl, rfl, ?output, ?watched⟩, ?founded⟩
    all_goals simp only [Vigil.looked, sameTree, sameBuilt]
    case built => exact View.read_root reloaded
    case output => exact read_of_write standing.founded listed
    case founded => exact standing.founded.write listed
    case watched => exact Monitor.paths_arm _ (View.nodup_sources reloaded)

theorem exists_standing {w₀ : FoundedWorld} (arises : v.Arises SparesOutput w₀.toWorld s₀) :
    ∃ view, v.Standing view := by
  induction arises with
  | begin passed shown => exact ⟨_, standing_begin passed shown⟩
  | look _ looked ih =>
    obtain ⟨view, standing⟩ := ih
    exact standing.look looked
  | edit _ spares made ih =>
    obtain ⟨view, standing⟩ := ih
    exact ⟨view, standing.edit spares made⟩

theorem builtNext_of_failed (shown : v.state.view = some view)
    (failed : (view.reload v.world.site).1 = .error (.fault why)) : v.builtNext = v.built := by
  unfold builtNext
  cases v.monitor.changed? v.world.tree <;> simp [shown, failed]

theorem Standing.outlastsFailure (standing : v.Standing view) : v.OutlastsFailure view where
  look why changed failed := by
    obtain ⟨w, looked, tree, out⟩ := lookAndSleep_of_failed standing.shown changed failed
    have paths : (v.monitor.rearm v.world.tree).paths = v.monitor.paths := by
      rw [Monitor.rearm, standing.watched]
      exact Monitor.paths_arm _ (View.nodup_sources standing.built)
    obtain ⟨view', after⟩ := standing.look looked
    cases standing.shown.symm.trans after.shown
    refine ⟨w, _, looked, tree, out, paths, after.toConsistent, builtNext_of_failed standing.shown failed, fun n => ?_⟩
    refine watchFor_of_unchanged ?_ n
    rw [tree]
    exact Monitor.changed?_arm _ _

/-- **What belongs together stays together.**  Whenever the loop waits, the view, what was printed last, the output
file and the watched files belong to the last build that did not fail, and a build that fails changes none of them.
Files may be opened otherwise after each sleep, and fail then or half way through. -/
theorem consistent_of_arises (w₀ : FoundedWorld) (arises : v.Arises SparesOutput w₀.toWorld s₀) :
    ∃ view, v.Consistent view ∧ v.OutlastsFailure view := by
  obtain ⟨view, standing⟩ := exists_standing arises
  exact ⟨view, standing.toConsistent, standing.outlastsFailure⟩

end Vigil

/-! ## A document that is deleted -/

/-- The tree after the listing was written and the document was deleted. -/
def Tree.bereft : Tree :=
  (Tree.listed.count.prune ["menu"]).markDirectory []

theorem apply_bereft : (Edit.delete ⟨.root, ["menu"]⟩).apply .listed = (.ok (), .bereft) :=
  Edit.delete_of_straight straight_menu rfl proper_menu.clean

theorem founded_bereft : Tree.bereft.Founded :=
  founded_listed.edit apply_bereft

namespace Vigil

theorem changed_of_deleted : (Monitor.arm .listed [⟨.root, ["menu"]⟩]).changed? .bereft ≠ none := by
  intro unchanged
  have same := Monitor.stamp_of_unchanged unchanged (Monitor.mem_arm (List.mem_singleton.2 rfl))
  have missing : Tree.bereft.node? ([] ++ ["menu"]) = none := rfl
  have proper : Tree.bereft.Proper [] "menu" := proper_menu.of_surrogates rfl
  have gone := stamp_of_missing Straight.root founded_bereft.root proper missing
  have there : Tree.listed.stamp? (Path.ofPlace ["menu"]) = some (.set 0) := by
    rw [stamp?, status_of_straight straight_menu rfl]
  cases gone.symm.trans (same.trans there)

theorem reload_deleted :
    ∃ why, (View.lacking.reload (World.importing.siteAt .bereft)).1 = .error (.fault why) := by
  have lost : (World.importing.siteAt .bereft).openDocument ⟨.root, ["menu"]⟩ =
      .error (.fault (.refused .notFound ⟨.root, ["menu"]⟩)) := by
    have canonical : (World.importing.siteAt .bereft).tree.canonical ⟨.root, ["menu"]⟩ =
        .error (.refused .notFound ⟨.root, ["menu"]⟩) := by
      change Tree.bereft.canonical _ = _
      rw [Tree.canonical, walk_of_error (by decide) (by decide) rfl]
      rfl
    rw [Site.openDocument, canonical]
  refine ⟨.refused .notFound ⟨.root, ["menu"]⟩, ?_⟩
  rw [View.reload, View.read, View.lacking, lost]

/-- The document is deleted while the loop sleeps, and the next build fails. -/
theorem consistent_of_deleted :
    ∃ (v : Vigil) (view : View) (why : Fault),
      World.importing.tree.Founded ∧ v.Arises SparesOutput .importing .importing ∧
      v.monitor.changed? v.world.tree ≠ none ∧ (view.reload v.world.site).1 = .error (.fault why) ∧
      v.Consistent view ∧ v.OutlastsFailure view := by
  obtain ⟨v, begin, on, -⟩ := exists_begin_importing SparesOutput
  have made : (Edit.delete ⟨.root, ["menu"]⟩).apply v.world.tree = (.ok (), .bereft) := by
    rw [on.tree]
    exact apply_bereft
  have arises := begin.edit (sparesOutput_of_listing on apply_bereft rfl) made
  obtain ⟨view, consistent, outlasts⟩ := consistent_of_arises FaithfulWorld.importing.toFoundedWorld arises
  cases on.shown.symm.trans consistent.shown
  obtain ⟨why, failed⟩ := reload_deleted
  refine ⟨_, .lacking, why, founded_holding _, arises, ?_, ?_, consistent, outlasts⟩
  · have changed := changed_of_deleted
    rw [← on.monitor] at changed
    exact changed
  · have site : (v.edited .bereft).world.site = World.importing.siteAt .bereft := by
      rw [← World.faithful_importing.siteAt_eq on.keeps]
      rfl
    rw [site]
    exact failed

end Vigil

end Menu
