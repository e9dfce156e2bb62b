import Menu.Context.React

/-!
# Builds

A build reads a document to its end, and with it the files it includes.  Its state is the stack of the open
files, the one being read on top, and what they share.  One step reads a directive of the top file, sends
it through the open blocks of that file, and lets the file react to it.

A fault of a file that is read ends that file with a warning; a fault of the document itself, when no other
file is open, ends the build.  Whatever ends a build early, the files that are still open are closed then,
the document first.
-/

namespace Menu

/-- The state of a build. -/
structure Build where
  /-- The open files, the one on top first. -/
  stack : List Context
  shared : Shared

namespace Build

/-- The state after a reaction of the file above `below`. -/
def settle (below : List Context) (r : Reaction) : Build :=
  match r.move with
  | .stay => ⟨r.context :: below, r.shared⟩
  | .leave => ⟨below, r.shared⟩
  | .enter child => ⟨child :: r.context :: below, r.shared⟩

/-- What is seen of reading on in a file. -/
def reading (c : Context) : List Event :=
  if c.reader.needsStream then [.read c.stream] else []

/-- The reaction of a file to what was read in it. -/
def reactionTo (site : Site) (shared : Shared) (c : Context) (below : List Context) :
    Except ReadFailure (Int × Directive) → Except Abort Reaction
  | .ok (position, d) => c.react site (below.length + 1) shared position (c.scopes.apply d)
  | .error (.fault why) =>
    if below.isEmpty then .error (.fault why) else .ok (c.abandon shared (below.length + 1) why)
  | .error .closed => .error .closedStream

/-- A file reacts to a directive that was read, or it is left after a fault. -/
theorem reactionTo_cases {site : Site} {shared : Shared} {c : Context} {below : List Context}
    {item : Except ReadFailure (Int × Directive)} {r : Reaction} (h : reactionTo site shared c below item = .ok r) :
    (∃ position d, item = .ok (position, d) ∧
        c.react site (below.length + 1) shared position (c.scopes.apply d) = .ok r) ∨
      ∃ why, item = .error (.fault why) ∧ r = c.abandon shared (below.length + 1) why := by
  cases item with
  | ok item => exact .inl ⟨item.1, item.2, rfl, h⟩
  | error why =>
    cases why with
    | closed => cases h
    | fault why =>
      simp only [reactionTo] at h
      split at h <;> cases h
      exact .inr ⟨why, rfl, rfl⟩

/-- Of the files below only their number counts. -/
theorem reactionTo_of_length {site : Site} {shared : Shared} {c : Context} {below below' : List Context}
    (same : below'.length = below.length) (item : Except ReadFailure (Int × Directive)) :
    reactionTo site shared c below' item = reactionTo site shared c below item := by
  have document : below'.isEmpty = below.isEmpty := by
    rw [Bool.eq_iff_iff, List.isEmpty_iff_length_eq_zero, List.isEmpty_iff_length_eq_zero, same]
  match item with
  | .ok (position, d) => rw [reactionTo, reactionTo, same]
  | .error (.fault why) => rw [reactionTo, reactionTo, document, same]
  | .error .closed => rfl

/-- One step of a build, and what is seen of it; a build without open files stays as it is. -/
def step (site : Site) (b : Build) : Except Abort Build × List Event :=
  match b.stack with
  | [] => (.ok b, [])
  | c :: below =>
    let (item, reader) := c.reader.read site.markers
    match reactionTo site b.shared { c with reader } below item with
    | .error why => (.error why, reading c)
    | .ok r => (.ok (settle below r), reading c ++ r.events)

/-- The start of a build of the document at a canonical path. -/
def start (path : Path) (stream : Stream) : Build :=
  let shared : Shared := { imported := [path] }
  let shared := shared.visit path
  let (shared, cell) := shared.newCell
  let (shared, lineage) := shared.newLineage [path]
  ⟨[{ path, stream := 0, isRoot := true, reader := { stream }, cell, lineage }], shared⟩

/-- What is seen when a build ends early and the files that are open are closed. -/
def closing (b : Build) : List Event :=
  b.stack.reverse.flatMap fun c => c.closes c.close

end Build

end Menu
