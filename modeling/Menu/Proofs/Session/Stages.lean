import Menu.Proofs.Build.Whole
import Menu.Proofs.Session.Looks

/-!
# What each stage of a pass comes to

A stage goes on, or it halts with a complaint, or it breaks off because the system refuses what it asks for or because
there are no bytes for a text.

* `Checks` and `Views`: what the document was read from, and its view.
* `Unlisted`: the causes for which the stages up to the listing break off.
* `checkInput_cases`, `readDocument_cases`, `writeListing_cases`: everything that they can come to.
* `runCommand_still`, `report_still`: the stages behind them leave the files as they are.
-/

namespace Menu

open Menu.Tree

variable {w w' : World} {s : State} {view : View}

/-! ## What the first stages ask for -/

/-- The tree that the document is read from: the document is a file, and the output directory is there. -/
structure Checks (w : World) (s : State) (read : Tree) : Prop where
  found : w.tree.isFile (s.located w.settings).document = .ok true
  made : w.tree.makeDirectories s.outputDirectory = (.ok (), read)

/-- The view of the document in this tree. -/
structure Views (w : World) (s : State) (read : Tree) (view : View) : Prop extends Checks w s read where
  built : (View.read (w.siteAt read) (s.located w.settings).document).1 = .ok view

/-- Why the first stages break off: the system refuses what they ask for, or there are no bytes for a text. -/
inductive Unlisted (w : World) (s : State) : Halt → Prop
  /-- The system does not say whether the document is a file. -/
  | unseen {why : Fault} :
    w.tree.isFile (s.located w.settings).document = .error why → Unlisted w s (.unchanged (.fault why))
  /-- The output directory is not made. -/
  | unmade {why : Unchanged} :
    w.tree.isFile (s.located w.settings).document = .ok true →
    (w.tree.makeDirectories s.outputDirectory).1 = .error why → Unlisted w s (.unchanged why)
  /-- The build is ended by a path or by the name of the encoding. -/
  | aborted {read : Tree} {why : Abort} :
    Checks w s read → (View.read (w.siteAt read) (s.located w.settings).document).1 = .error why → why.OfText →
    Unlisted w s (.aborted why)
  /-- The listing is not printed. -/
  | unprinted {read : Tree} {view : View} {why : String} :
    Views w s read view → w.unprintable? (view.listing true) = some why → Unlisted w s (.unprinted why)
  /-- The listing is not written. -/
  | unwritten {read : Tree} {view : View} {why : Unchanged} :
    Views w s read view → w.unprintable? (view.listing true) = none →
    (read.writeText (s.located w.settings).listing (view.listing true)).1 = .error why →
    Unlisted w s (.unchanged why)

/-! ## What each stage comes to -/

theorem checkInput_cases (w : World) (s : State) :
    (∃ w', checkInput w s = (.error (.complaint (.noInput (s.located w.settings).document)), w') ∧
      w.tree.isFile (s.located w.settings).document = .ok false ∧ w'.tree = w.tree ∧ w'.out = w.out) ∨
    (∃ why w', checkInput w s = (.error why, w') ∧ Unlisted w s why) ∨
    ∃ w', checkInput w s = (.ok (s.located w.settings), w') ∧ Checks w s w'.tree ∧ w'.out = w.out ∧
      w.StaysAwake w' := by
  have told : (announceCheck w s).tree = w.tree := rfl
  unfold checkInput
  simp only [told]
  split
  · rename_i failed
    exact .inr (.inl ⟨_, _, rfl, .unseen failed⟩)
  · rename_i missing
    exact .inl ⟨_, rfl, missing, rfl, rfl⟩
  · rename_i found
    split
    · rename_i made
      exact .inr (.inl ⟨_, _, rfl, .unmade found (congrArg Prod.fst made)⟩)
    · rename_i made
      exact .inr (.inr ⟨_, rfl, ⟨found, made⟩, rfl, {}⟩)

theorem checkInput_of_unseen {why : Fault} (unseen : w.tree.isFile (s.located w.settings).document = .error why) :
    ∃ w', checkInput w s = (.error (.unchanged (.fault why)), w') := by
  have told : (announceCheck w s).tree = w.tree := rfl
  unfold State.located at unseen
  unfold checkInput
  simp only [told, unseen]
  exact ⟨_, rfl⟩

theorem readDocument_cases (w : World) (s : State) :
    (∃ why w', readDocument w s = (.error (.complaint (.unreadable why)), w') ∧
      (View.read w.site s.document).1 = .error (.fault why) ∧ w'.tree = w.tree ∧ w'.out = w.out) ∨
    (∃ why w', readDocument w s = (.error (.aborted why), w') ∧ (View.read w.site s.document).1 = .error why ∧
      why.OfText) ∨
    ∃ view w', readDocument w s = (.ok { s with view := some view }, w') ∧
      (View.read w.site s.document).1 = .ok view ∧ w'.tree = w.tree ∧ w'.out = w.out ∧ w.StaysAwake w' := by
  unfold readDocument
  have ofText : ∀ why, (View.read w.site s.document).1 = .error why → (∀ fault, why ≠ .fault fault) → why.OfText :=
    fun why failed => View.ofText_of_read failed
  generalize View.read w.site s.document = result at ofText
  obtain ⟨outcome, events⟩ := result
  cases outcome with
  | error why =>
    cases why with
    | fault why => exact .inl ⟨why, _, rfl, rfl, rfl, rfl⟩
    | _ => exact .inr (.inl ⟨_, _, rfl, rfl, ofText _ rfl nofun⟩)
  | ok view => exact .inr (.inr ⟨view, _, rfl, rfl, rfl, rfl, {}⟩)

theorem writeListing_cases (w : World) (shown : s.view = some view) :
    (∃ why w', writeListing w s = (.error (.unprinted why), w') ∧ w.unprintable? (view.listing true) = some why) ∨
    (∃ why w', writeListing w s = (.error (.unchanged why), w') ∧ w.unprintable? (view.listing true) = none ∧
      (w.tree.writeText s.listing (view.listing true)).1 = .error why) ∨
    ∃ w', writeListing w s = (.ok { s with rendered := view.listing true }, w') ∧
      w.tree.write s.listing view.written = .ok w'.tree ∧ w'.out = w.out ++ view.listing true ∧ w.StaysAwake w' := by
  unfold writeListing
  simp only [shown]
  split
  · rename_i why unprintable
    exact .inl ⟨why, _, rfl, unprintable⟩
  · rename_i printable
    split
    · rename_i why tree failed
      exact .inr (.inl ⟨why, _, rfl, printable, congrArg Prod.fst failed⟩)
    · rename_i tree made
      exact .inr (.inr ⟨_, rfl, (writeText_ok_iff.1 made).2, rfl, {}⟩)

theorem writeListing_of_unwritten {why : Unchanged} {tree : Tree} (shown : s.view = some view)
    (printable : w.unprintable? (view.listing true) = none)
    (failed : w.tree.writeText s.listing (view.listing true) = (.error why, tree)) :
    ∃ w', writeListing w s = (.error (.unchanged why), w') ∧ w'.tree = tree := by
  unfold writeListing
  simp only [shown, printable, failed]
  exact ⟨_, rfl, rfl⟩

/-- A command changes no file, and prints nothing. -/
theorem runCommand_still (w : World) (s : State) :
    (runCommand w s).2.tree = w.tree ∧ (runCommand w s).2.out = w.out := by
  unfold runCommand runEntry
  dsimp only
  repeat' split
  all_goals exact ⟨rfl, rfl⟩

theorem report_still (w : World) (s : State) : (report w s).2.tree = w.tree ∧ (report w s).2.out = w.out := by
  unfold report
  split <;> exact ⟨rfl, rfl⟩

end Menu
