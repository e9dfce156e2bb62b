import Menu.Proofs.Blocks.Turn
import Menu.Proofs.Includes.Sources

/-!
# Inclusions that fail

An inclusion whose target is not found or not opened comes to a warning, in two steps: the file is given the warning
to read again, and then the warning goes through the open blocks once more.  The blocks that let the inclusion pass
leave the warning to the watch, or ignore it, just as if it had been written in the place of the inclusion.

* `Scopes.hides_or_clear`: open blocks hide an inclusion and a warning alike, or let the inclusion pass.
* `step_of_refused`: an inclusion that passes and fails gives its file a warning to read again, and that is all.
* `refused_warns`: both steps together come to what the warning comes to.
-/

namespace Menu

/-- The reason for which a target is not found, or not opened. -/
def Site.Refuses (site : Site) (target : String) (directory : Path) (why : BadTarget) : Prop :=
  site.resolve target directory = .error (.bad why) ∨
    ∃ file, site.resolve target directory = .ok file ∧ site.openTarget file = .error (.bad why)

/-! ## What the blocks make of both -/

theorem Rule.apply_inclusion {innermost : Bool} {r : Rule} (clear : r.blocks = false) (how : Inclusion)
    (target : String) : r.apply innermost (.inclusion how target) = .inclusion how target := by
  cases r <;> simp_all [apply, blocks]

namespace Scopes

variable {scopes : Scopes}

theorem apply_inclusion (clear : Clear scopes) (how : Inclusion) (target : String) :
    apply scopes (.inclusion how target) = .inclusion how target := by
  cases scopes with
  | nil => rfl
  | cons s outer =>
    rw [apply_cons, Rule.apply_inclusion clear.head]
    exact applyOuter_of_passes fun t m => Rule.apply_inclusion (clear.tail t m) how target

/-- What a file has read meets blocks that hide inclusions and warnings, or none that suppresses anything. -/
theorem hides_or_clear (given : scopes = [⟨.literal, true⟩] ∨ Regular scopes) :
    (∀ how target text, apply scopes (.inclusion how target) = .noop ∧ apply scopes (.warning text) = .noop) ∨
      Clear scopes := by
  rcases given with rfl | regular
  · exact .inl fun _ _ _ => ⟨rfl, rfl⟩
  · rcases regular.clear_or_blocks with clear | ⟨s, outer, rfl, blocks⟩
    · exact .inr clear
    · exact .inl fun how target text =>
        ⟨by simpa using apply_of_blocks regular blocks (.inclusion how target),
          by simpa using apply_of_blocks regular blocks (.warning text)⟩

end Scopes

namespace Build

variable {site : Site} {path : Path} {stream : Stream} {origins : List Origin} {c : Context} {below : List Context}
  {shared : Shared} {position : Int} {how : Inclusion} {target text : String} {reader : Reader} {why : BadTarget}
  {r : Reaction}

/-! ## The file that fails to include another -/

/-- An inclusion is read in a line, when there is nothing to read again. -/
theorem pending_of_inclusion {o : Origin} (fits : c.Fits shared o)
    (read : c.reader.read site.markers = (.ok (position, .inclusion how target), reader)) : reader.pending = [] := by
  rcases Reader.read_cases read with ⟨rest, pending, -⟩ | closed | ⟨-, pending, -⟩
  · by_cases lines : o = .included .lines
    · rw [(fits.lines lines).pending] at pending
      cases pending
    · have replay := (fits.other lines).replay
      rw [pending] at replay
      cases replay
  · cases closed
  · exact pending

theorem scopes_of_fits {o : Origin} (fits : c.Fits shared o) :
    c.scopes = [⟨.literal, true⟩] ∨ c.scopes.Regular := by
  by_cases lines : o = .included .lines
  · exact .inl (fits.lines lines).scopes
  · exact .inr (fits.other lines).regular

/-- A file that was taken in before can still be opened, if the site is the same as then. -/
theorem not_taken_of_reached {file document : Path} (reached : Reached site document ⟨c :: below, shared⟩)
    (refused : site.openTarget file = .error (.bad why)) :
    shared.alreadyTaken c.lineage how file = false := by
  cases taken : shared.alreadyTaken c.lineage how file with
  | false => rfl
  | true =>
    obtain ⟨root, stream, _, -, leads⟩ := id reached
    have source : file ∈ shared.sources := (covered_of_leads leads (covered_start root stream)).mem_of_taken taken
    obtain ⟨stream, opened⟩ := reached.opens file source
    rw [Site.openTarget, (Site.openDocument_ok_iff.1 opened).2] at refused
    cases refused

/-- A failed inclusion is rejected, unless its target was taken in before. -/
theorem includeFile_of_refused {depth : Nat} (refuses : site.Refuses target c.directory why)
    (tried : ∀ file, site.resolve target c.directory = .ok file → shared.alreadyTaken c.lineage how file = false) :
    c.includeFile site depth shared position how target = .ok (c.reject shared position how target why) := by
  rcases refuses with resolved | ⟨file, resolved, opened⟩
  · exact Context.includeFile_of_unresolved resolved
  · exact Context.includeFile_of_unopened resolved (tried file resolved) opened

/-- An inclusion that the open blocks hide comes to what a warning comes to that they hide as well. -/
theorem step_of_hidden (read : c.reader.read site.markers = (.ok (position, .inclusion how target), reader))
    (hidden : c.scopes.apply (.inclusion how target) = c.scopes.apply (.warning text))
    (reacted : reactionTo site shared { c with reader } below (.ok (position, .warning text)) = .ok r) :
    step site ⟨c :: below, shared⟩ = (.ok (settle below r), reading c ++ r.events) := by
  refine step_of_react (congrArg Prod.fst read) ?_
  rw [Context.readOn, read, hidden]
  exact reacted

/-- An inclusion that passes the open blocks and fails gives its file a warning to read again, and that is all. -/
theorem step_of_refused (clear : c.scopes.Clear) (pending : reader.pending = [])
    (read : c.reader.read site.markers = (.ok (position, .inclusion how target), reader))
    (refuses : site.Refuses target c.directory why)
    (tried : ∀ file, site.resolve target c.directory = .ok file → shared.alreadyTaken c.lineage how file = false) :
    step site ⟨c :: below, shared⟩ =
      (.ok ⟨Context.given { c with reader } position
          [.warning ("could not " ++ how.word ++ " " ++ target ++ ": " ++ why.text)] :: below, shared⟩,
        reading c ++ [.message (.inclusionFailed c.path position why.text)]) := by
  have readOn : c.readOn site.markers = { c with reader } := by rw [Context.readOn, read]
  have included : (c.readOn site.markers).react site (below.length + 1) shared position
      (c.scopes.apply (.inclusion how target)) =
        .ok ((c.readOn site.markers).reject shared position how target why) := by
    rw [Scopes.apply_inclusion clear]
    exact includeFile_of_refused (c := c.readOn site.markers) refuses tried
  rw [step_of_react (congrArg Prod.fst read) included, settle, readOn]
  simp only [Context.reject, Context.given, Reader.pushBack, pending, List.append_nil]

/-- A warning leaves a file on top, and what it reads from as it was. -/
theorem exists_react_warning (given : c.scopes = [⟨.literal, true⟩] ∨ c.scopes.Regular) (text : String) :
    ∃ r, reactionTo site shared c below (.ok (position, .warning text)) = .ok r ∧ r.move = .stay ∧
      r.context.reader = c.reader := by
  have quiet : (c.scopes.apply (.warning text)).isQuiet = true := by
    rcases given with literal | regular
    · rw [literal]
      rfl
    · exact Scopes.isQuiet_apply_warning regular text
  have known : ∀ how target, c.scopes.apply (.warning text) ≠ .inclusion how target := by
    intro how target e
    rw [e] at quiet
    cases quiet
  obtain ⟨r, reacted⟩ : ∃ r, c.react site (below.length + 1) shared position (c.scopes.apply (.warning text)) =
      .ok r := Context.exists_react known
  obtain ⟨steady, -, reader⟩ := Context.react_of_isQuiet quiet reacted
  exact ⟨r, reacted, steady.stays, reader⟩

variable (below) in
/-- A failed inclusion comes to what the warning comes to that says why. -/
theorem worksOff_of_refused (given : c.scopes = [⟨.literal, true⟩] ∨ c.scopes.Regular) (pending : reader.pending = [])
    (read : c.reader.read site.markers = (.ok (position, .inclusion how target), reader))
    (refuses : site.Refuses target c.directory why)
    (tried : ∀ file, site.resolve target c.directory = .ok file → shared.alreadyTaken c.lineage how file = false) :
    ∃ r, reactionTo site shared { c with reader } below
        (.ok (position, .warning ("could not " ++ how.word ++ " " ++ target ++ ": " ++ why.text))) = .ok r ∧
      ∃ events, WorksOff site ⟨c :: below, shared⟩ events (settle below r) ∧
        entriesOf events = entriesOf r.events := by
  let told := "could not " ++ how.word ++ " " ++ target ++ ": " ++ why.text
  let after : Context := { c with reader }
  obtain ⟨r, reacted, stays, unread⟩ : ∃ r, reactionTo site shared after below (.ok (position, .warning told)) =
      .ok r ∧ r.move = .stay ∧ r.context.reader = reader := exists_react_warning (c := after) given told
  have settled : settle below r = ⟨r.context :: below, r.shared⟩ := by rw [settle, stays]
  have drained : (settle below r).Drained := by
    rw [settled]
    rintro file ⟨⟩
    rw [unread]
    exact pending
  refine ⟨r, reacted, ?_⟩
  rcases Scopes.hides_or_clear given with hidden | clear
  · obtain ⟨inclusion, warning⟩ := hidden how target told
    have taken : step site ⟨c :: below, shared⟩ = _ := step_of_hidden read (inclusion.trans warning.symm) reacted
    exact ⟨_, ⟨_, _, _, taken, .refl _, drained, (List.append_nil _).symm⟩, by simp⟩
  · have taken : step site ⟨c :: below, shared⟩ = _ := step_of_refused clear pending read refuses tried
    have warned : Rereads site ⟨after.given position [.warning told] :: below, shared⟩ r.events (settle below r) := by
      rw [settled]
      refine rereads_of_react stays ?_
      rw [Context.given_nil (c := after) position pending]
      exact reacted
    refine ⟨_, ⟨_, _, _, taken, warned, drained, rfl⟩, ?_⟩
    rw [entriesOf_append, entriesOf_append, entriesOf_reading]
    rfl

variable (site) in
/-- **An inclusion that fails is a warning.**  What comes of an inclusion whose target is not found or not opened,
when all has been read that it gives its file to read again, is what comes of the warning that says why, had it been
read in the place of the inclusion: the same open files with all that is their own, the same that they share, and
the same entries.  An inclusion of a file that was taken in before opens nothing and so does not fail; on a site that
has stayed the same, such a file can be opened anyway. -/
theorem refused_warns (reached : Underway site.markers path stream origins ⟨c :: below, shared⟩)
    (read : c.reader.read site.markers = (.ok (position, .inclusion how target), reader))
    (refuses : site.Refuses target c.directory why)
    (tried : (∃ document, Reached site document ⟨c :: below, shared⟩) ∨
      ∀ file, site.resolve target c.directory = .ok file → shared.alreadyTaken c.lineage how file = false) :
    ∃ r, reactionTo site shared { c with reader } below
        (.ok (position, .warning ("could not " ++ how.word ++ " " ++ target ++ ": " ++ why.text))) = .ok r ∧
      (∃ events, WorksOff site ⟨c :: below, shared⟩ events (settle below r)) ∧
      ∀ events last, WorksOff site ⟨c :: below, shared⟩ events last →
        last = settle below r ∧ entriesOf events = entriesOf r.events := by
  obtain ⟨o, _, fits, -, rfl⟩ := List.forall₂_cons_right_iff.1 (fits_of_underway reached)
  -- what was taken in before is skipped without being opened, so that nothing could fail
  have fresh : ∀ file, site.resolve target c.directory = .ok file →
      shared.alreadyTaken c.lineage how file = false := by
    rcases tried with ⟨document, reached⟩ | fresh
    · intro file resolved
      rcases refuses with unresolved | ⟨_, resolved', refused⟩
      · rw [resolved] at unresolved
        cases unresolved
      · cases resolved.symm.trans resolved'
        exact not_taken_of_reached reached refused
    · exact fresh
  obtain ⟨r, reacted, events, works, same⟩ :=
    worksOff_of_refused below (scopes_of_fits fits) (pending_of_inclusion fits read) read refuses fresh
  refine ⟨r, reacted, ⟨events, works⟩, fun events' last works' => ?_⟩
  obtain ⟨rfl, rfl⟩ := works.unique works'
  exact ⟨rfl, same⟩

/-- The watch of a document hears that a file is missing which it imports. -/
theorem refused_warns_of_missing :
    ∃ c shared reader why r events,
      Underway Site.bare.markers ⟨.root, ["menu"]⟩ (.ofLines ["#-watch", "#-import a"]) [.document] ⟨[c], shared⟩ ∧
      c.reader.read Site.bare.markers = (.ok (2, .inclusion .importing "a"), reader) ∧
      Site.bare.Refuses "a" c.directory why ∧ why.text = "could not find a" ∧
      reactionTo .bare shared { c with reader } [] (.ok (2, .warning "could not import a: could not find a")) = .ok r ∧
      WorksOff .bare ⟨[c], shared⟩ events (settle [] r) ∧
      settle [] r = ⟨[{ c with reader, watch := ⟨true, ["could not import a: could not find a"]⟩ }], shared⟩ ∧
      entriesOf events = [] := by
  have begun : Underway Site.bare.markers ⟨.root, ["menu"]⟩ (.ofLines ["#-watch", "#-import a"]) [.document] _ :=
    .start
  have watched := begun.step .bare rfl (List.cons_ne_nil _ _) rfl
  have parsed : Site.bare.markers.parse "#-import a" = .inclusion .importing "a" := rfl
  have read : Reader.read Site.bare.markers { stream := .ofLines ["#-import a"], position := 1 } =
      (.ok (2, .inclusion .importing "a"), { stream := .ofLines [], position := 2 }) := by
    rw [← parsed]
    rfl
  have spelled : Site.bare.expand? "a" = some ⟨.here, ["a"]⟩ := by decide +kernel
  have missing : Site.bare.tree.entry [] "a" = .error (.refused .notFound ⟨.root, ["a"]⟩) := by decide +kernel
  have lost : Site.bare.tree.canonical ⟨.root, ["a"]⟩ = .error (.refused .notFound ⟨.root, ["a"]⟩) := by
    rw [Tree.canonical, Tree.walk_of_error (by decide) (by decide) missing]
    rfl
  have unresolved : Site.bare.resolve "a" ⟨.root, []⟩ = .error (.bad (.notFound ⟨.here, ["a"]⟩)) := by
    rw [Site.resolve, spelled]
    simp only [Path.join_here, List.nil_append, lost]
  have told : (BadTarget.notFound ⟨.here, ["a"]⟩).text = "could not find a" := by decide +kernel
  obtain ⟨r, reacted, ⟨events, works⟩, all⟩ := refused_warns .bare watched read (.inl unresolved)
    (.inr fun file resolved => absurd (unresolved.symm.trans resolved) (by simp))
  rw [told] at reacted
  cases reacted
  exact ⟨_, _, _, _, _, events, watched, read, .inl unresolved, told, rfl, works, rfl, (all events _ works).2⟩

end Build
end Menu
