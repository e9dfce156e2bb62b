import Mathlib.Data.List.Forall2
import Menu.Proofs.Blocks.Order
import Menu.Proofs.Build.History
import Menu.Proofs.Tree.Contents

/-!
# A block that hides text

An `ignore-text` block outside of all other blocks of a file takes away the lines that come of texts of that file,
and nothing else.  Two builds are compared that differ in one such block of one open file (`Build.Muted`).  They are
read on side by side (`Build.Abreast`) until that block ends or the file is left, whatever else is opened, left,
watched or replayed meanwhile: the block does not count for the others, since nothing depends on how many there are.

* `Scopes.apply_muted`: all that the block changes in the directives of its file.
* `Context.react_muted`: each directive comes to the same inside of it, but for texts and for its own end.
* `Build.step_muted`: all that comes of one step of both builds.
* `Build.text_alone_hidden`: the builds stay the same but for the block, and only the lines of texts are missing.
-/

namespace Menu

/-! ## Blocks -/

/-- Whether a directive is a text. -/
def Directive.isText : Directive → Bool
  | .text _ => true
  | _ => false

theorem Directive.eq_text {d : Directive} (isText : d.isText = true) : ∃ text, d = .text text := by
  cases d with
  | text text => exact ⟨text, rfl⟩
  | _ => cases isText

/-- A block that hides text does so wherever it stands. -/
theorem Rule.apply_ignoreText (innermost : Bool) (d : Directive) :
    ignoreText.apply innermost d = if d.isText then .noop else d := by
  cases d <;> rfl

namespace Scopes

/-- Blocks inside of one more, which hides text. -/
def muted (scopes : Scopes) : Scopes :=
  scopes ++ [⟨.ignoreText, false⟩]

/-- The block outside of all others sees what comes of a directive, and hides it if it is a text. -/
theorem apply_muted (scopes : Scopes) (d : Directive) :
    apply scopes.muted d = if (apply scopes d).isText then .noop else apply scopes d := by
  cases scopes with
  | nil => exact Rule.apply_ignoreText true d
  | cons s outer =>
    rw [muted, List.cons_append, apply_cons, applyOuter, List.foldl_append]
    exact Rule.apply_ignoreText false _

end Scopes

/-! ## Reactions -/

/-- A file inside of one more block, which hides its text. -/
def Context.muted (c : Context) : Context :=
  { c with scopes := c.scopes.muted }

/-- The same reaction, `r'` inside of the block and `r` without it. -/
structure Reaction.Muted (r r' : Reaction) : Prop where
  context : r'.context = r.context.muted
  shared : r'.shared = r.shared
  move : r'.move = r.move
  entries : entriesOf r'.events = entriesOf r.events

namespace Context

variable {site : Site} {depth : Nat} {shared : Shared} {c : Context} {position : Int} {d : Directive}

/-- Where a target leads, and what is opened there, does not depend on blocks. -/
theorem includeFile_muted (c : Context) (how : Inclusion) (target : String) :
    Agree Reaction.Muted (c.includeFile site depth shared position how target)
      (c.muted.includeFile site depth shared position how target) := by
  have directory : c.muted.directory = c.directory := rfl
  have lineage : c.muted.lineage = c.lineage := rfl
  unfold includeFile
  rw [directory, lineage]
  cases site.resolve target c.directory with
  | error obstacle =>
    cases obstacle with
    | stop why => exact .error why
    | bad why => exact .ok ⟨rfl, rfl, rfl, rfl⟩
  | ok file =>
    dsimp only
    split
    · exact .ok ⟨rfl, rfl, rfl, rfl⟩
    · cases site.openTarget file with
      | error obstacle =>
        cases obstacle with
        | stop why => exact .error why
        | bad why => exact .ok ⟨rfl, rfl, rfl, rfl⟩
      | ok stream => cases how <;> exact .ok ⟨rfl, rfl, rfl, rfl⟩

/-- The end of a block meets the innermost one, which is the same unless there is no other. -/
theorem endBlock_muted (inside : c.scopes ≠ []) (automatic : Bool) :
    (c.endBlock shared position automatic).Muted (c.muted.endBlock shared position automatic) := by
  obtain ⟨s, outer, scopes⟩ := List.exists_cons_of_ne_nil inside
  have same : c.muted.scopes = s :: Scopes.muted outer := by
    rw [muted, scopes]
    rfl
  simp only [endBlock, scopes, same]
  split <;> exact ⟨rfl, rfl, rfl, rfl⟩

/-- If there is no other, it is the one that hides text which ends. -/
theorem endBlock_of_nil (none : c.scopes = []) :
    c.muted.endBlock shared position false = { context := c, shared } := by
  have same : c.muted.scopes = [⟨.ignoreText, false⟩] := by
    rw [muted, none]
    rfl
  have back : { c.muted with scopes := [] } = c := by
    rw [muted, ← none]
  simp only [endBlock, same, if_true, back]

theorem resolveWatch_muted (c : Context) (rule : List String → Rule) (complaint : String) :
    (c.resolveWatch shared position rule complaint).Muted (c.muted.resolveWatch shared position rule complaint) := by
  have same : c.muted.watch.stop? = c.watch.stop? := rfl
  simp only [resolveWatch, same]
  split <;> exact ⟨rfl, rfl, rfl, rfl⟩

/-- Each directive comes to the same inside of the block, unless it is the end of it. -/
theorem react_muted (other : ∀ automatic, d = .endBlock automatic → c.scopes ≠ []) :
    Agree Reaction.Muted (c.react site depth shared position d) (c.muted.react site depth shared position d) := by
  cases d with
  | inclusion how target => exact includeFile_muted c how target
  | endBlock automatic => exact .ok (endBlock_muted (other automatic rfl) automatic)
  | thenBlock => exact .ok (resolveWatch_muted c _ _)
  | elseBlock => exact .ok (resolveWatch_muted c _ _)
  | title text =>
    have same : c.muted.isRoot = c.isRoot := rfl
    rw [react, react, same]
    split <;> exact .ok ⟨rfl, rfl, rfl, rfl⟩
  | warning text =>
    have same : c.muted.watch.running = c.watch.running := rfl
    rw [react, react, same]
    split <;> exact .ok ⟨rfl, rfl, rfl, rfl⟩
  | watch =>
    have same : c.muted.watch.start? = c.watch.start? := rfl
    rw [react, react, same]
    split <;> exact .ok ⟨rfl, rfl, rfl, rfl⟩
  | _ => exact .ok ⟨rfl, rfl, rfl, rfl⟩

end Context

/-! ## One step -/

namespace Build

variable {m : Markers} {site : Site} {path : Path} {stream : Stream} {origins : List Origin}
  {b b' next next' : Build} {above files : List Context} {c top : Context} {shared : Shared} {r r' : Reaction}
  {log log' : List Moment} {seen seen' : List Event}

/-- The same build, but for a block that hides text in the file that is read above `files`. -/
inductive Muted (files : List Context) : Build → Build → Prop
  | intro (above : List Context) (c : Context) (shared : Shared) :
    Muted files ⟨above ++ c :: files, shared⟩ ⟨above ++ c.muted :: files, shared⟩

/-- Whether the next step shows a text of the file that is read above `files`. -/
def showsTextAbove (m : Markers) (files : List Context) (b : Build) : Bool :=
  b.stack.length == files.length + 1 && (b.dispatched? m).any Directive.isText

/-- All that comes of a step of two builds that differ in a block that hides text, `b` being the one without it. -/
inductive StepsMuted (m : Markers) (files : List Context) (b : Build) :
    Except Abort Build × List Event → Except Abort Build × List Event → Prop
  | fails (why : Abort) (seen : List Event) : StepsMuted m files b (.error why, seen) (.error why, seen)
  | goesOn {next next' : Build} {seen seen' : List Event} :
    Muted files next next' →
    entriesOf seen' = (if b.showsTextAbove m files then [] else entriesOf seen) →
    StepsMuted m files b (.ok next, seen) (.ok next', seen')
  /-- The file is left. -/
  | leaves (shared : Shared) {seen seen' : List Event} :
    entriesOf seen' = entriesOf seen →
    StepsMuted m files b (.ok ⟨files, shared⟩, seen) (.ok ⟨files, shared⟩, seen')
  /-- The block ends, where without it there is none to end. -/
  | ends (c : Context) (shared : Shared) (position : Int) {seen seen' : List Event} :
    b.dispatched? m = some (.endBlock false) → c.scopes = [] →
    entriesOf seen = [c.warningEntry position "end: there is no open block to close"] → entriesOf seen' = [] →
    StepsMuted m files b (.ok ⟨c :: files, shared⟩, seen) (.ok ⟨c :: files, shared⟩, seen')

theorem showsTextAbove_top (c : Context) (shared : Shared) :
    showsTextAbove m files ⟨c :: files, shared⟩ = (dispatched? m ⟨c :: files, shared⟩).any Directive.isText := by
  rw [showsTextAbove, List.length_cons, beq_self_eq_true, Bool.true_and]

theorem showsTextAbove_of_covered (top : Context) (above : List Context) (c : Context) (shared : Shared) :
    showsTextAbove m files ⟨top :: (above ++ c :: files), shared⟩ = false := by
  have deeper : (top :: (above ++ c :: files)).length ≠ files.length + 1 := by
    rw [List.length_cons, List.length_append, List.length_cons]
    omega
  rw [showsTextAbove, beq_false_of_ne deeper, Bool.false_and]

theorem exists_text_of_shows (shows : showsTextAbove m files ⟨c :: files, shared⟩ = true) :
    ∃ text, dispatched? m ⟨c :: files, shared⟩ = some (.text text) := by
  rw [showsTextAbove_top, Option.any_eq_true] at shows
  obtain ⟨d, carried, isText⟩ := shows
  obtain ⟨text, rfl⟩ := Directive.eq_text isText
  exact ⟨text, carried⟩

/-- Nothing comes of a text inside of the block. -/
theorem step_muted_of_text {text : String}
    (dispatched : dispatched? site.markers ⟨c :: files, shared⟩ = some (.text text)) :
    StepsMuted site.markers files ⟨c :: files, shared⟩ (step site ⟨c :: files, shared⟩)
      (step site ⟨c.muted :: files, shared⟩) := by
  obtain ⟨position, d, read, shown⟩ := exists_read_of_dispatched dispatched
  have hidden : c.muted.scopes.apply d = .noop := by
    rw [Context.muted, Scopes.apply_muted, shown]
    rfl
  have given : (c.muted.reader.read site.markers).1 = .ok (position, d) := read
  have shows : (c.readOn site.markers).react site (files.length + 1) shared position (c.scopes.apply d) =
      .ok { context := c.readOn site.markers
            shared
            events := [c.entry position text .normal (shared.cells.get c.cell)] } := by
    rw [shown]
    rfl
  have nothing : (c.muted.readOn site.markers).react site (files.length + 1) shared position
      (c.muted.scopes.apply d) = .ok { context := (c.readOn site.markers).muted, shared } := by
    rw [hidden]
    rfl
  rw [step_of_react read shows, step_of_react given nothing]
  refine .goesOn (.intro [] (c.readOn site.markers) shared) ?_
  rw [showsTextAbove_top, dispatched, entriesOf_append, entriesOf_reading]
  rfl

/-- The end of a block ends this one if there is no other. -/
theorem step_muted_of_end (none : c.scopes = [])
    (dispatched : dispatched? site.markers ⟨c :: files, shared⟩ = some (.endBlock false)) :
    StepsMuted site.markers files ⟨c :: files, shared⟩ (step site ⟨c :: files, shared⟩)
      (step site ⟨c.muted :: files, shared⟩) := by
  obtain ⟨position, d, read, passes⟩ := exists_read_of_dispatched dispatched
  have passes' : c.muted.scopes.apply d = .endBlock false := by
    rw [Context.muted, Scopes.apply_muted, passes]
    rfl
  have given : (c.muted.reader.read site.markers).1 = .ok (position, d) := read
  have scopes : (c.readOn site.markers).scopes = [] := none
  have complains : (c.readOn site.markers).react site (files.length + 1) shared position (c.scopes.apply d) =
      .ok { context := c.readOn site.markers
            shared
            events := c.warn position "end: there is no open block to close" } := by
    rw [passes, Context.react, Context.endBlock, scopes]
    rfl
  have ends : (c.muted.readOn site.markers).react site (files.length + 1) shared position
      (c.muted.scopes.apply d) = .ok { context := c.readOn site.markers, shared } := by
    rw [passes', Context.react]
    exact congrArg _ (Context.endBlock_of_nil scopes)
  rw [step_of_react read complains, step_of_react given ends]
  refine .ends (c.readOn site.markers) shared position dispatched none ?_ ?_
  all_goals
    rw [entriesOf_append, entriesOf_reading]
    rfl

/-- What is read in the file comes to the same, but for a text and the end of the block. -/
theorem reaction_muted (noText : showsTextAbove site.markers files ⟨c :: files, shared⟩ = false)
    (noEnd : ∀ automatic, dispatched? site.markers ⟨c :: files, shared⟩ = some (.endBlock automatic) →
      c.scopes ≠ []) :
    Agree Reaction.Muted
      (reactionTo site shared (c.readOn site.markers) files (c.reader.read site.markers).1)
      (reactionTo site shared (c.muted.readOn site.markers) files (c.muted.reader.read site.markers).1) := by
  have given : c.muted.reader.read site.markers = c.reader.read site.markers := rfl
  rw [given]
  cases read : (c.reader.read site.markers).1 with
  | ok item =>
    obtain ⟨position, d⟩ := item
    have carried : dispatched? site.markers ⟨c :: files, shared⟩ = some (c.scopes.apply d) := dispatched?_of_read read
    have unhidden : (c.scopes.apply d).isText = false := by
      rw [showsTextAbove_top, carried] at noText
      exact noText
    have same : (c.muted.readOn site.markers).scopes.apply d = c.scopes.apply d := by
      refine (Scopes.apply_muted c.scopes d).trans ?_
      rw [unhidden]
      rfl
    rw [reactionTo, reactionTo, same]
    exact Context.react_muted fun automatic ends => noEnd automatic (carried.trans (congrArg some ends))
  | error why =>
    cases why with
    | closed => exact .error _
    | fault why =>
      rw [reactionTo, reactionTo]
      split
      · exact .error _
      · exact .ok ⟨rfl, rfl, rfl, rfl⟩

/-- The same reactions lead to the same builds, but for the block. -/
theorem stepsMuted_of_reaction {b : Build} (same : r.Muted r') (noText : b.showsTextAbove m files = false) :
    StepsMuted m files b (.ok (settle files r), reading c ++ r.events)
      (.ok (settle files r'), reading c ++ r'.events) := by
  obtain ⟨context, shared, move, events⟩ := r
  obtain ⟨context', shared', move', events'⟩ := r'
  obtain ⟨inside, shares, moves, shows⟩ := same
  cases inside
  cases shares
  cases moves
  have entries : entriesOf (reading c ++ events') = entriesOf (reading c ++ events) := by
    rw [entriesOf_append, entriesOf_append]
    exact congrArg _ shows
  cases move with
  | stay => exact .goesOn (.intro [] context shared) (by rw [noText]; exact entries)
  | leave => exact .leaves shared entries
  | enter child => exact .goesOn (.intro [child] context shared) (by rw [noText]; exact entries)

/-- One step of both builds in the file with the block. -/
theorem step_muted_top (orderly : c.scopes = [] → c.Orderly shared) :
    StepsMuted site.markers files ⟨c :: files, shared⟩ (step site ⟨c :: files, shared⟩)
      (step site ⟨c.muted :: files, shared⟩) := by
  cases shows : showsTextAbove site.markers files ⟨c :: files, shared⟩ with
  | true =>
    obtain ⟨text, dispatched⟩ := exists_text_of_shows shows
    exact step_muted_of_text dispatched
  | false =>
    by_cases ended : c.scopes = [] ∧
        ∃ automatic, dispatched? site.markers ⟨c :: files, shared⟩ = some (.endBlock automatic)
    · obtain ⟨none, automatic, dispatched⟩ := ended
      have manual : automatic = false := manual_of_dispatched (orderly none) dispatched
      rw [manual] at dispatched
      exact step_muted_of_end none dispatched
    · have reacted := reaction_muted shows fun automatic dispatched none => ended ⟨none, automatic, dispatched⟩
      have same : reading c.muted = reading c := rfl
      rw [step_cons, step_cons, same]
      generalize reactionTo site shared (c.readOn site.markers) files _ = answer at reacted
      generalize reactionTo site shared (c.muted.readOn site.markers) files _ = answer' at reacted
      cases reacted with
      | error why => exact .fails why _
      | ok alike => exact stepsMuted_of_reaction alike shows

/-- A step in another file does the same in both builds: of the files below it only their number counts. -/
theorem step_muted_of_covered (site : Site) (top : Context) (above : List Context) (c : Context) (shared : Shared) :
    StepsMuted m files ⟨top :: (above ++ c :: files), shared⟩ (step site ⟨top :: (above ++ c :: files), shared⟩)
      (step site ⟨top :: (above ++ c.muted :: files), shared⟩) := by
  have deep : (above ++ c.muted :: files).length = (above ++ c :: files).length := by
    rw [List.length_append, List.length_append, List.length_cons, List.length_cons]
  have noText : showsTextAbove m files ⟨top :: (above ++ c :: files), shared⟩ = false :=
    showsTextAbove_of_covered top above c shared
  rw [step_cons, step_cons, reactionTo_of_length deep]
  cases reactionTo site shared (top.readOn site.markers) (above ++ c :: files) _ with
  | error why => exact .fails why _
  | ok r =>
    refine .goesOn ?_ (by rw [noText]; rfl)
    unfold settle
    cases r.move with
    | stay => exact .intro (r.context :: above) c r.shared
    | leave => exact .intro above c r.shared
    | enter child => exact .intro (child :: r.context :: above) c r.shared

variable (site) in
/-- One step of both builds. -/
theorem step_muted (muted : Muted files b b') (reached : Underway site.markers path stream origins b) :
    StepsMuted site.markers files b (b.step site) (b'.step site) := by
  obtain ⟨above, c, shared⟩ := muted
  cases above with
  | nil => exact step_muted_top fun none => orderly_of_scopes reached (by rw [none]; nofun)
  | cons top above => exact step_muted_of_covered site top above c shared

/-! ## All steps -/

/-- What is shown in the steps of a log, the first entry first. -/
def shown : List Moment → List Entry
  | [] => []
  | mo :: earlier => shown earlier ++ entriesOf mo.seen

/-- What is read next, and in which file. -/
def given? (m : Markers) (b : Build) : Option (Path × Except ReadFailure (Int × Directive)) :=
  b.stack.head?.map fun c => (c.path, (c.reader.read m).1)

/-- The file that is read above `files` is open, and a block is open in it. -/
def InBlockAbove (files : List Context) (b : Build) : Prop :=
  ∃ above c, b.stack = above ++ c :: files ∧ c.scopes ≠ []

/-- Two builds that read on side by side, with the steps of each, the last one first.  They stop when the file above
`files` is left in the second one, or when its outermost block ends there. -/
inductive Abreast (m : Markers) (files : List Context) (first second : Build) :
    List Moment → List Moment → Build → Build → Prop
  | start : Abreast m files first second [] [] first second
  | step {log log' : List Moment} {b b' next next' : Build} {seen seen' : List Event} (site : Site) :
    Abreast m files first second log log' b b' → site.markers = m →
    b.step site = (.ok next, seen) → b'.step site = (.ok next', seen') →
    InBlockAbove files next' →
    Abreast m files first second (⟨b, seen, next⟩ :: log) (⟨b', seen', next'⟩ :: log') next next'

theorem Muted.given? (muted : Muted files b b') (m : Markers) : b'.given? m = b.given? m := by
  obtain ⟨above, c, shared⟩ := muted
  cases above <;> rfl

theorem Muted.stack_ne_nil (muted : Muted files b b') : b.stack ≠ [] := by
  obtain ⟨above, c, shared⟩ := muted
  exact List.append_ne_nil_of_right_ne_nil _ (List.cons_ne_nil _ _)

/-- A step after which the block is still open leaves the builds the same but for the block. -/
theorem StepsMuted.muted_of_inBlock (steps : StepsMuted m files b (.ok next, seen) (.ok next', seen'))
    (still : InBlockAbove files next') :
    Muted files next next' ∧ entriesOf seen' = if b.showsTextAbove m files then [] else entriesOf seen := by
  obtain ⟨above, c, stack, some⟩ := still
  have lengths := congrArg List.length stack
  rw [List.length_append, List.length_cons] at lengths
  cases steps with
  | goesOn muted shows => exact ⟨muted, shows⟩
  | leaves shared =>
    dsimp only at lengths
    omega
  | ends c' shared position dispatched none =>
    cases above with
    | nil =>
      cases stack
      exact absurd none some
    | cons top above =>
      rw [List.length_cons, List.length_cons] at lengths
      omega

/-- What is missing in a step is the entry of a text. -/
theorem shown_cons {mo mo' : Moment}
    (same : shown log' = shown (log.filter fun mo => !mo.before.showsTextAbove m files))
    (step : entriesOf mo'.seen = if mo.before.showsTextAbove m files then [] else entriesOf mo.seen) :
    shown (mo' :: log') = shown ((mo :: log).filter fun mo => !mo.before.showsTextAbove m files) := by
  rw [shown, same, step, List.filter_cons]
  cases mo.before.showsTextAbove m files with
  | true => exact List.append_nil _
  | false => rfl

theorem muted_of_abreast {first second : Build} (begun : Muted files first second)
    (reached : Underway m path stream origins first) (abreast : Abreast m files first second log log' b b') :
    (∃ origins, Underway m path stream origins b) ∧ Muted files b b' ∧
      List.Forall₂ (fun mo mo' => mo'.before.given? m = mo.before.given? m) log log' ∧
      shown log' = shown (log.filter fun mo => !mo.before.showsTextAbove m files) := by
  induction abreast with
  | start => exact ⟨⟨_, reached⟩, begun, .nil, rfl⟩
  | step site _ same taken taken' still ih =>
    obtain ⟨⟨_, reached⟩, muted, alike, lines⟩ := ih
    subst same
    have steps := step_muted site muted reached
    rw [taken, taken'] at steps
    obtain ⟨after, entries⟩ := steps.muted_of_inBlock still
    have onward := reached.step site rfl muted.stack_ne_nil taken
    exact ⟨⟨_, onward⟩, after, .cons (muted.given? _) alike, shown_cons lines entries⟩

/-- **A block that hides text hides nothing else.**  Two builds differ in one block that hides text, outside of all
others of one open file, and read on side by side until that block ends or the file is left.  Then they read the
same directives in the same files, they still differ in that block only, and of the lines of the first the second
lacks those that come of texts of the file.  The next step fails in both alike, or they go on so, or the file is
left and they are the same, or the block ends and they are the same, where the first one complains that there is no
block to end.

Of a file that is read for its lines this holds as well. -/
theorem text_alone_hidden {first second : Build} (reached : Underway m path stream origins first)
    (begun : Muted files first second) (abreast : Abreast m files first second log log' b b') :
    Muted files b b' ∧
      List.Forall₂ (fun mo mo' => mo'.before.given? m = mo.before.given? m) log log' ∧
      shown log' = shown (log.filter fun mo => !mo.before.showsTextAbove m files) ∧
      ∀ site : Site, site.markers = m → StepsMuted m files b (b.step site) (b'.step site) := by
  obtain ⟨⟨_, reached⟩, muted, alike, lines⟩ := muted_of_abreast begun reached abreast
  refine ⟨muted, alike, lines, ?_⟩
  rintro site rfl
  exact step_muted site muted reached

/-- Of a document with a text inside of an `ignore-warnings` block, and a title behind it, only the title is shown. -/
theorem text_alone_hidden_of_document :
    ∃ second log log' b b',
      Muted [] (start ⟨.root, ["menu"]⟩ (.ofLines ["#-ignore-warnings", "a", "#-end", "#-subtitle b"])) second ∧
      Abreast {} [] (start ⟨.root, ["menu"]⟩ (.ofLines ["#-ignore-warnings", "a", "#-end", "#-subtitle b"])) second
        log log' b b' ∧
      Muted [] b b' ∧ (shown log).map Entry.text = ["a", "b"] ∧ (shown log').map Entry.text = ["b"] ∧
      shown log' = shown (log.filter fun mo => !mo.before.showsTextAbove {} []) := by
  have begun : Muted [] (start ⟨.root, ["menu"]⟩ (.ofLines ["#-ignore-warnings", "a", "#-end", "#-subtitle b"])) _ :=
    .intro [] _ _
  have none : ∀ {first second}, Muted [] first second → Abreast {} [] first second [] [] first second :=
    fun _ => .start
  have one := (none begun).step .bare rfl rfl rfl ⟨[], _, rfl, nofun⟩
  have two := one.step .bare rfl rfl rfl ⟨[], _, rfl, nofun⟩
  have three := two.step .bare rfl rfl rfl ⟨[], _, rfl, nofun⟩
  have four := three.step .bare rfl rfl rfl ⟨[], _, rfl, nofun⟩
  obtain ⟨muted, -, lines, -⟩ := text_alone_hidden .start begun four
  exact ⟨_, _, _, _, _, begun, four, muted, rfl, rfl, lines⟩

end Build

end Menu
