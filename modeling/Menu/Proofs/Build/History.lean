import Menu.Proofs.Build.Underway

/-!
# The history of a build

A build does not note down what has happened to it.  `Moment` is one of its steps, with the builds before and
after it and what was seen of it, and `Recorded` are the builds that the build of a document leads to, each with
all the steps that led to it, the last one first.  A property of a whole run is one of these steps.

* `Recorded.moment`: each step of a history was taken in a build with the history before it.
* `Recorded.underway`: a build with a history is on its way, and the history says where its open files come from
  (`originsOf`).
* `Recorded.leads`: the steps from there on go on with the history.
* `Recorded.numbered`, `Recorded.unclosed`: so its open files are numbered by their streams, and none is closed.
-/

namespace Menu.Build

variable {m : Markers} {path : Path} {stream : Stream} {b : Build}

/-- The number of the file that is read next. -/
def top? (b : Build) : Option Nat :=
  b.stack.head?.map Context.stream

/-- One step of a build. -/
structure Moment where
  before : Build
  /-- What was seen of the step. -/
  seen : List Event
  after : Build

/-- The builds that the build of a document leads to, with the steps up to them, the last one first.  All steps
read by the same markers; the tree and its files may be others at each step. -/
inductive Recorded (m : Markers) (path : Path) (stream : Stream) : List Moment → Build → Prop
  | start : Recorded m path stream [] (start path stream)
  | step {log : List Moment} {b next : Build} {seen : List Event} (site : Site) :
    Recorded m path stream log b → site.markers = m → b.stack ≠ [] → b.step site = (.ok next, seen) →
    Recorded m path stream (⟨b, seen, next⟩ :: log) next

variable {log earlier later : List Moment} {mo : Moment}

theorem Recorded.moment (recorded : Recorded m path stream (later ++ mo :: earlier) b) :
    Recorded m path stream earlier mo.before ∧ mo.before.stack ≠ [] ∧
      ∃ site : Site, site.markers = m ∧ mo.before.step site = (.ok mo.after, mo.seen) := by
  induction later generalizing b with
  | nil =>
    cases recorded with
    | step site recorded same more taken => exact ⟨recorded, more, site, same, taken⟩
  | cons first later ih =>
    cases recorded with
    | step site recorded _ _ _ => exact ih recorded

/-- The origins of the files that are open after the steps of a history. -/
def originsOf (m : Markers) : List Moment → List Origin
  | [] => [.document]
  | mo :: earlier => originsAfter m mo.before mo.after (originsOf m earlier)

theorem Recorded.underway_originsOf (recorded : Recorded m path stream log b) :
    Underway m path stream (originsOf m log) b := by
  induction recorded with
  | start => exact .start
  | step site _ same more taken ih => exact ih.step site same more taken

theorem Recorded.underway (recorded : Recorded m path stream log b) :
    ∃ origins, Underway m path stream origins b :=
  ⟨_, recorded.underway_originsOf⟩

theorem Recorded.numbered (recorded : Recorded m path stream log b) : b.Numbered := by
  obtain ⟨_, reached⟩ := recorded.underway
  exact reached.numbered

theorem Recorded.unclosed (recorded : Recorded m path stream log b) : b.Unclosed := by
  obtain ⟨_, reached⟩ := recorded.underway
  exact reached.unclosed

/-- The steps from a build with a history are its history from there on. -/
theorem Recorded.leads {site : Site} {last : Build} {events : List Event}
    (recorded : Recorded site.markers path stream log b) (leads : Leads site b events last) :
    ∃ later, Recorded site.markers path stream (later ++ log) last ∧
      ∀ mo ∈ later, mo.before.step site = (.ok mo.after, mo.seen) := by
  induction leads generalizing log with
  | refl => exact ⟨[], recorded, List.forall_mem_nil _⟩
  | step _ taken _ ih =>
    obtain ⟨later, whole, steps⟩ := ih (recorded.step site rfl (List.cons_ne_nil _ _) taken)
    refine ⟨later ++ [⟨_, _, _⟩], ?_, List.forall_mem_append.2 ⟨steps, List.forall_mem_singleton.2 taken⟩⟩
    rw [List.append_assoc]
    exact whole

end Menu.Build

namespace Menu

/-- A site with these files in its root directory, each with its lines, for runs of several files. -/
def Site.holding (files : List (String × List String)) : Site where
  tree := { entries := files.map fun file => ([file.1], .file [] (.set 0)) }
  home? := none
  markers := {}
  openFile path :=
    match files.lookup path.lastName with
    | some lines => .ok (.ofLines lines)
    | none => .error (.fault (.refused .notFound path))

/-- A file of the root directory is found under its name by the files there. -/
theorem Site.canonical_holding {files : List (String × List String)} {name : String}
    (named : name ≠ "" ∧ name ≠ "." ∧ name ≠ "..")
    (here : (holding files).tree.entry [] name = .ok (.file [] (.set 0))) :
    (holding files).tree.canonical ⟨.root, [name]⟩ = .ok ⟨.root, [name]⟩ := by
  rw [Tree.canonical, Tree.walk_of_entry named here nofun, Tree.walk]
  rfl

theorem Site.resolve_holding {files : List (String × List String)} {name : String}
    (named : name ≠ "" ∧ name ≠ "." ∧ name ≠ "..") (spelled : Path.ofText name = ⟨.here, [name]⟩)
    (plain : afterTilde? name.toList = none)
    (here : (holding files).tree.entry [] name = .ok (.file [] (.set 0))) :
    (holding files).resolve name ⟨.root, []⟩ = .ok ⟨.root, [name]⟩ := by
  have expanded : (holding files).expand? name = some ⟨.here, [name]⟩ := by
    rw [expand?, plain, spelled]
  rw [resolve, expanded]
  simp only [Path.join_here, List.nil_append, canonical_holding named here]

end Menu
