import Menu.Proofs.Build.Whole
import Menu.Proofs.Includes.Isolation

/-!
# The title of a document

Only the document and what is sourced from there gives a title, and the last one counts.  A file does not know how
it came to be open, but it has a mark for this (`Context.isRoot`), which it takes over from the file that sources it
and from no other.

Which title counts is read off the history: `titleOf` is the last one that was carried out while no open file was
imported or included for its lines.

* `rooted_of_recorded`: the marks say where the open files come from, and so do their lineages (`Rooted`, step by
  step).
* `title_of_recorded`: the title is what the history says.
* `title_of_document`: all of this about every build on its way, and about the views of documents.
-/

namespace Menu

/-! ## Marks -/

/-- Whether a file of this origin is the document, or belongs to it if the file that includes it does. -/
def Origin.joinsDocument : Origin → Bool
  | document => true
  | included how => how = .sourcing

namespace Context

variable {site : Site} {depth : Nat} {shared : Shared} {c child : Context} {position : Int} {d : Directive}
  {r : Reaction}

/-- A file that is put on top is marked if it is sourced from a file that is, and only then holds its lineage. -/
theorem mark_of_child (c : Context) (shared : Shared) (how : Inclusion) (file : Path) (stream : Stream) :
    how = .sourcing ∧ (c.child shared how file stream).1.isRoot = c.isRoot ∧
        (c.child shared how file stream).1.lineage = c.lineage ∨
      how ≠ .sourcing ∧ (c.child shared how file stream).1.isRoot = false ∧
        (c.child shared how file stream).1.lineage = shared.lineages.values.length := by
  cases how with
  | importing => exact .inr ⟨nofun, rfl, rfl⟩
  | sourcing => exact .inl ⟨rfl, rfl, rfl⟩
  | lines => exact .inr ⟨nofun, rfl, rfl⟩

/-- A title counts in a file that is marked. -/
theorem title_of_titled {text : String} (h : c.react site depth shared position (.title text) = .ok r) :
    r.shared.title = if c.isRoot then some text else shared.title := by
  cases mark : c.isRoot with
  | true => rw [react, mark] at h; cases h; rfl
  | false => rw [react, mark] at h; cases h; rfl

/-- Only a title changes the title. -/
theorem title_of_react (h : c.react site depth shared position d = .ok r) (other : ∀ text, d ≠ .title text) :
    r.shared.title = shared.title := by
  cases d with
  | title text => exact absurd rfl (other text)
  | inclusion how target =>
    simp only [react, includeFile] at h
    repeat' split at h
    all_goals cases h
    · rfl
    · rfl
    · rfl
    · cases how <;> rfl
  | endBlock automatic => cases h; rw [(shared_endBlock shared c position automatic).1]
  | thenBlock => cases h; rw [(shared_resolveWatch shared c position _ _).1]
  | elseBlock => cases h; rw [(shared_resolveWatch shared c position _ _).1]
  | _ =>
    simp only [react] at h
    repeat' split at h
    all_goals cases h
    all_goals rfl

end Context

namespace Build

variable {m : Markers} {site : Site} {path : Path} {stream : Stream} {log : List Moment} {b next : Build}
  {c c' : Context} {below : List Context} {shared : Shared} {origins : List Origin} {seen : List Event}

/-- The open files, each with its origin, are marked if they belong to the document, and then hold its lineage. -/
inductive Rooted : List Origin → List Context → Prop
  | none : Rooted [] []
  | document {c : Context} : c.isRoot = true → c.lineage = 0 → Rooted [.document] [c]
  | included {how : Inclusion} {child c : Context} {origins : List Origin} {below : List Context} :
    (child.isRoot = true ↔ how = .sourcing ∧ c.isRoot = true) → (child.isRoot = true ↔ child.lineage = 0) →
    Rooted origins (c :: below) → Rooted (.included how :: origins) (child :: c :: below)

namespace Rooted

theorem same (rooted : Rooted origins (c :: below)) (same : c.Same c') : Rooted origins (c' :: below) := by
  cases rooted with
  | document root lineage => exact .document (same.isRoot.trans root) (same.lineage.trans lineage)
  | included inherits lineage rest =>
    rw [← same.isRoot] at inherits lineage
    rw [← same.lineage] at lineage
    exact .included inherits lineage rest

theorem tail (rooted : Rooted origins (c :: below)) : Rooted origins.tail below := by
  cases rooted with
  | document => exact .none
  | included _ _ rest => exact rest

/-- A file is marked if it and all files below it are sourced, down to the document. -/
theorem isRoot_iff (rooted : Rooted origins (c :: below)) :
    c.isRoot = true ↔ origins.all Origin.joinsDocument = true := by
  generalize files : c :: below = stack at rooted
  induction rooted generalizing c below with
  | none => cases files
  | document root => cases files; simp [root, Origin.joinsDocument]
  | included inherits _ _ ih =>
    cases files
    rw [inherits, ih rfl]
    simp [Origin.joinsDocument]

/-- The files that hold the lineage of the document are those that are marked. -/
theorem lineage_iff {stack : List Context} (rooted : Rooted origins stack) :
    ∀ c ∈ stack, c.isRoot = true ↔ c.lineage = 0 := by
  induction rooted with
  | none => exact List.forall_mem_nil _
  | document root lineage => exact List.forall_mem_singleton.2 ⟨fun _ => lineage, fun _ => root⟩
  | included _ own _ ih => exact List.forall_mem_cons.2 ⟨own, ih⟩

/-- The file at the bottom is marked. -/
theorem bottom {stack : List Context} (rooted : Rooted origins stack) : ∀ c ∈ stack.getLast?, c.isRoot = true := by
  induction rooted with
  | none => exact fun c mem => absurd mem (Option.not_mem_none c)
  | document root => exact fun c mem => Option.some.inj mem ▸ root
  | included _ _ _ ih => rw [List.getLast?_cons_cons]; exact ih

/-- The marked files are those at the bottom. -/
theorem exists_append {stack : List Context} (rooted : Rooted origins stack) :
    ∃ above roots, stack = above ++ roots ∧ (∀ c ∈ above, c.isRoot = false) ∧ ∀ c ∈ roots, c.isRoot = true := by
  induction rooted with
  | none => exact ⟨[], [], rfl, List.forall_mem_nil _, List.forall_mem_nil _⟩
  | document root => exact ⟨[], [_], rfl, List.forall_mem_nil _, List.forall_mem_singleton.2 root⟩
  | @included how child c origins below inherits own rest ih =>
    obtain ⟨above, roots, split, unmarked, marked⟩ := ih
    cases mark : child.isRoot with
    | false => exact ⟨child :: above, roots, by rw [split]; rfl, List.forall_mem_cons.2 ⟨mark, unmarked⟩, marked⟩
    | true =>
      -- the file below is marked as well, so that none of those above the marked ones is left
      cases above with
      | nil =>
        exact ⟨[], child :: roots, by rw [split]; rfl, List.forall_mem_nil _, List.forall_mem_cons.2 ⟨mark, marked⟩⟩
      | cons other above =>
        cases split
        have root := (inherits.1 mark).2
        rw [unmarked c List.mem_cons_self] at root
        cases root

end Rooted

theorem rooted_of_step (rooted : Rooted origins b.stack)
    (held : ∀ c ∈ b.stack, b.shared.lineages.Holds c.lineage) (taken : b.step site = (.ok next, seen)) :
    Rooted (originsAfter site.markers b next origins) next.stack := by
  obtain ⟨stack, shared⟩ := b
  cases stack with
  | nil =>
    cases taken
    simpa [originsAfter] using rooted
  | cons c below =>
    obtain ⟨r, h, rfl, -⟩ := exists_reaction taken
    have read : (c.readOn site.markers).Same r.context := (same_of_reaction h).1
    have read : c.Same r.context := ⟨read.path, read.stream, read.isRoot, read.lineage⟩
    cases moves : r.move with
    | stay =>
      rw [originsAfter_stay moves, settle, moves]
      exact rooted.same read
    | leave =>
      rw [originsAfter_leave moves, settle, moves]
      exact rooted.tail
    | enter child =>
      obtain ⟨_, _, how, _, file, stream, item, inclusion, -, -, -, -, rfl⟩ := reaction_enter h moves
      rw [originsAfter_enter moves item inclusion, settle, moves]
      have kept : Rooted origins (r.context :: below) := rooted.same read
      have own : c.isRoot = true ↔ c.lineage = 0 := rooted.lineage_iff c List.mem_cons_self
      have new : shared.lineages.values.length ≠ 0 :=
        Nat.ne_of_gt (Nat.lt_of_le_of_lt (Nat.zero_le _) (held c List.mem_cons_self))
      rcases (c.readOn site.markers).mark_of_child shared how file stream with
        ⟨sourcing, mark, lineage⟩ | ⟨other, mark, lineage⟩
      · refine .included ?_ ?_ kept
        · rw [mark, read.isRoot]
          exact ⟨fun root => ⟨sourcing, root⟩, And.right⟩
        · rw [mark, lineage]
          exact own
      · refine .included ?_ ?_ kept
        · rw [mark]
          exact ⟨fun marked => absurd marked Bool.false_ne_true, fun joins => absurd joins.1 other⟩
        · rw [mark, lineage]
          exact ⟨fun marked => absurd marked Bool.false_ne_true, fun zero => absurd zero new⟩

theorem rooted_of_recorded (recorded : Recorded m path stream log b) : Rooted (originsOf m log) b.stack := by
  induction recorded with
  | start => exact .document rfl rfl
  | step site recorded same _ taken ih =>
    subst same
    exact rooted_of_step ih (fun c mem => (held_of_recorded recorded c mem).2) taken

/-! ## Titles -/

/-- The title that a step has carried out for the document, when the open files had these origins. -/
def Moment.title? (m : Markers) (origins : List Origin) (mo : Moment) : Option String :=
  match mo.before.dispatched? m with
  | some (.title text) => if origins.all Origin.joinsDocument then some text else none
  | _ => none

/-- The last title that was carried out for the document. -/
def titleOf (m : Markers) : List Moment → Option String
  | [] => none
  | mo :: earlier => (mo.title? m (originsOf m earlier)).or (titleOf m earlier)

theorem title_of_step (rooted : Rooted origins b.stack) (taken : b.step site = (.ok next, seen)) :
    next.shared.title = (Moment.title? site.markers origins ⟨b, seen, next⟩).or b.shared.title := by
  obtain ⟨stack, shared⟩ := b
  cases stack with
  | nil => cases taken; rfl
  | cons c below =>
    obtain ⟨r, h, rfl, -⟩ := exists_reaction taken
    rw [shared_settle]
    rcases reaction_cases h with ⟨position, d, dispatched, h⟩ | ⟨why, read, rfl⟩
    · have mark : (c.readOn site.markers).isRoot = origins.all Origin.joinsDocument := by
        rw [Bool.eq_iff_iff]
        exact rooted.isRoot_iff
      rw [Moment.title?, dispatched, ← mark]
      by_cases titled : ∃ text, d = .title text
      · obtain ⟨text, rfl⟩ := titled
        rw [Context.title_of_titled h]
        cases (c.readOn site.markers).isRoot <;> rfl
      · have other : ∀ text, d ≠ .title text := fun text e => titled ⟨text, e⟩
        rw [Context.title_of_react h other]
        split
        · rename_i e
          exact absurd (Option.some.inj e) (other _)
        · rfl
    · simp only [Moment.title?, dispatched?, read]
      rfl

theorem title_of_recorded (recorded : Recorded m path stream log b) : b.shared.title = titleOf m log := by
  induction recorded with
  | start => rfl
  | step site recorded same _ taken ih =>
    subst same
    rw [title_of_step (rooted_of_recorded recorded) taken, ih]
    rfl

/-- Nothing that is carried out in a file that was imported or included for its lines, or in one that is included
from there, changes the title. -/
theorem title_of_apart {how : Inclusion} (rooted : Rooted origins b.stack) (apart : .included how ∈ origins)
    (other : how ≠ .sourcing) (taken : b.step site = (.ok next, seen)) : next.shared.title = b.shared.title := by
  have foreign : origins.all Origin.joinsDocument = false := by
    rw [List.all_eq_false]
    exact ⟨_, apart, by simpa [Origin.joinsDocument] using other⟩
  have nothing : Moment.title? site.markers origins ⟨b, seen, next⟩ = none := by
    unfold Moment.title?
    split
    · simp [foreign]
    · rfl
  rw [title_of_step rooted taken, nothing]
  rfl

/-- A finished view has the title that the history of its build says. -/
theorem title_of_view {document : Path} {view : View} (built : (View.read site document).1 = .ok view) :
    ∃ root content log last, site.openDocument document = .ok (root, content) ∧
      Recorded site.markers root content log last ∧
      (∀ mo ∈ log, mo.before.step site = (.ok mo.after, mo.seen)) ∧ last.stack = [] ∧
      view.root = root ∧ view.title = (titleOf site.markers log).getD root.text := by
  obtain ⟨root, content, events, last, opened, leads, ended, rfl⟩ := View.read_ok_iff.1 built
  have begun : Recorded site.markers root content [] (start root content) := .start
  obtain ⟨log, recorded, steps⟩ := begun.leads leads
  rw [List.append_nil] at recorded
  refine ⟨root, content, log, last, opened, recorded, steps, ended, rfl, ?_⟩
  rw [View.ofBuild, title_of_recorded recorded]

variable (site) in
/-- **The title of a document.**  The title is the last one that was carried out in the document or in a file that was
reached from there by sourcing alone; a view without one has the path of the document.  No file that was imported or
included for its lines changes it, nor does any file included from there.  The files whose titles count are those that
hold the lineage of the document, and they are at the bottom of the open files. -/
theorem title_of_document (document : Path) :
    (∀ path stream log b, Recorded site.markers path stream log b →
      b.shared.title = titleOf site.markers log ∧
      (∀ root ∈ b.stack.getLast?, ∀ c ∈ b.stack, c.isRoot = true ↔ c.lineage = root.lineage) ∧
      (∃ above roots, b.stack = above ++ roots ∧ (∀ c ∈ above, c.isRoot = false) ∧ ∀ c ∈ roots, c.isRoot = true) ∧
      ∀ next seen how, .included how ∈ originsOf site.markers log → how ≠ .sourcing →
        b.step site = (.ok next, seen) → next.shared.title = b.shared.title) ∧
    ∀ view, (View.read site document).1 = .ok view →
      ∃ root content log last, site.openDocument document = .ok (root, content) ∧
        Recorded site.markers root content log last ∧
        (∀ mo ∈ log, mo.before.step site = (.ok mo.after, mo.seen)) ∧ last.stack = [] ∧
        view.root = root ∧ view.title = (titleOf site.markers log).getD root.text := by
  refine ⟨fun path stream log b recorded => ?_, fun view => title_of_view⟩
  have rooted := rooted_of_recorded recorded
  refine ⟨title_of_recorded recorded, fun root bottom c mem => ?_, rooted.exists_append,
    fun next seen how apart other => title_of_apart rooted apart other⟩
  have own : root.lineage = 0 := (rooted.lineage_iff root (List.mem_of_getLast? bottom)).1 (rooted.bottom root bottom)
  rw [own]
  exact rooted.lineage_iff c mem

/-- A document with a title imports a file with another one, which does not count. -/
theorem title_of_document_that_imports :
    ∃ log b next seen view,
      Recorded {} ⟨.root, ["menu"]⟩ (.ofLines ["#-title A", "#-import a"]) log b ∧
      b.dispatched? {} = some (.title "B") ∧
      b.step (.holding [("menu", ["#-title A", "#-import a"]), ("a", ["#-title B"])]) = (.ok next, seen) ∧
      next.shared.title = b.shared.title ∧ titleOf {} log = some "A" ∧
      (View.read (.holding [("menu", ["#-title A", "#-import a"]), ("a", ["#-title B"])]) ⟨.root, ["menu"]⟩).1 =
        .ok view ∧
      (∃ log, view.title = (titleOf {} log).getD "/menu") ∧ view.title = "A" := by
  have resolved : (Site.holding [("menu", ["#-title A", "#-import a"]), ("a", ["#-title B"])]).resolve "a" ⟨.root, []⟩ =
      .ok ⟨.root, ["a"]⟩ := Site.resolve_holding (by decide) (by decide +kernel) rfl rfl
  have document : (Site.holding [("menu", ["#-title A", "#-import a"]), ("a", ["#-title B"])]).openDocument
      ⟨.root, ["menu"]⟩ = .ok (⟨.root, ["menu"]⟩, .ofLines ["#-title A", "#-import a"]) := by
    rw [Site.openDocument, Site.canonical_holding (by decide) rfl]
    rfl
  have titled : step (.holding [("menu", ["#-title A", "#-import a"]), ("a", ["#-title B"])])
      (start ⟨.root, ["menu"]⟩ (.ofLines ["#-title A", "#-import a"])) = (.ok ⟨_ :: _, _⟩, _) := rfl
  have pushed : step (.holding [("menu", ["#-title A", "#-import a"]), ("a", ["#-title B"])])
      ⟨[⟨⟨.root, ["menu"]⟩, 0, true, { stream := .ofLines ["#-import a"], position := 1 }, 0, 0, [], {}⟩],
        ⟨⟨[{}]⟩, ⟨[[⟨.root, ["menu"]⟩]]⟩, [⟨.root, ["menu"]⟩], [⟨.root, ["menu"]⟩], some "A", 1⟩⟩ = _ :=
    step_of_opened rfl rfl resolved (by decide +kernel) rfl
  have begun : Recorded {} ⟨.root, ["menu"]⟩ (.ofLines ["#-title A", "#-import a"]) [] _ := .start
  have reached := (begun.step _ rfl nofun titled).step _ rfl nofun pushed
  have leads : Leads (.holding [("menu", ["#-title A", "#-import a"]), ("a", ["#-title B"])])
      (start ⟨.root, ["menu"]⟩ (.ofLines ["#-title A", "#-import a"])) _ ⟨[], _⟩ :=
    .step trivial titled (.step trivial pushed (.step trivial rfl (.step trivial rfl (.single trivial rfl))))
  have built := View.read_ok_iff.2 ⟨_, _, _, _, document, leads, rfl, rfl⟩
  obtain ⟨builds, views⟩ :=
    title_of_document (.holding [("menu", ["#-title A", "#-import a"]), ("a", ["#-title B"])]) ⟨.root, ["menu"]⟩
  obtain ⟨title, -, -, apart⟩ := builds _ _ _ _ reached
  obtain ⟨root, _, log, _, opened, -, -, -, -, viewed⟩ := views _ built
  rw [document] at opened
  cases opened
  exact ⟨_, _, _, _, _, reached, rfl, rfl, apart _ _ .importing List.mem_cons_self nofun rfl, title.symm, built,
    ⟨log, viewed⟩, rfl⟩

end Build

end Menu
