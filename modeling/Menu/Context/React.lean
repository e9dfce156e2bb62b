import Menu.Context

/-!
# Reacting to a directive

`react` is what a directive does to the file it was read in, to what the files of the build share, and to
the files that are open: `Move` says whether the file stays on top, is left, or is covered by another.
Nothing below the file is looked at.

An inclusion whose target is bad changes nothing but the reader, which gets a warning to read instead.
-/

namespace Menu

/-- What becomes of the open files. -/
inductive Move
  | stay
  | leave
  | enter (child : Context)

/-- The outcome of a directive: the file it was read in, what is shared, what becomes of the open files,
and what is seen. -/
structure Reaction where
  context : Context
  shared : Shared
  move : Move := .stay
  events : List Event := []

namespace Context

/-- An inclusion whose target is bad. -/
def reject (c : Context) (shared : Shared) (position : Int) (how : Inclusion) (target : String)
    (why : BadTarget) : Reaction where
  context := { c with
    reader := c.reader.pushBack position
      [.warning ("could not " ++ how.word ++ " " ++ target ++ ": " ++ why.text)] }
  shared := shared
  events := [.message (.inclusionFailed c.path position why.text)]

/-- An inclusion of a file that was taken in before. -/
def skip (c : Context) (shared : Shared) (how : Inclusion) (path : Path) : Reaction where
  context := c
  shared := shared
  events := match how with
    | .importing => [.message (.alreadyImported path)]
    | .sourcing => [.message (.alreadySourced path)]
    | .lines => []

/-- The file that an inclusion opens, and what is shared with it open. -/
def child (c : Context) (shared : Shared) (how : Inclusion) (path : Path) (stream : Stream) :
    Context × Shared :=
  let reader : Reader := { stream }
  let number := shared.opened
  let shared := shared.visit path
  match how with
  | .importing =>
    let (shared, cell) := shared.newCell
    let (shared, lineage) := shared.newLineage [path]
    ({ path, stream := number, isRoot := false, reader, cell, lineage },
      { shared with imported := path :: shared.imported })
  | .sourcing =>
    ({ path, stream := number, isRoot := c.isRoot, reader, cell := c.cell, lineage := c.lineage },
      { shared with lineages := shared.lineages.modify c.lineage (path :: ·) })
  | .lines =>
    let (shared, lineage) := shared.newLineage []
    ({ path, stream := number, isRoot := false, reader, cell := c.cell, lineage,
       scopes := [⟨.literal, true⟩] }, shared)

/-- An inclusion that opens a file, on top of `depth` others. -/
def enter (c : Context) (shared : Shared) (depth : Nat) (how : Inclusion) (path : Path)
    (stream : Stream) : Reaction :=
  let (child, after) := c.child shared how path stream
  { context := c
    shared := after
    move := .enter child
    events := [.opened shared.opened path, .message (.pushed path (depth + 1))] }

/-- The outcome of an inclusion. -/
def includeFile (site : Site) (depth : Nat) (shared : Shared) (c : Context) (position : Int)
    (how : Inclusion) (target : String) : Except Abort Reaction :=
  match site.resolve target c.directory with
  | .error (.stop why) => .error why
  | .error (.bad why) => .ok (c.reject shared position how target why)
  | .ok path =>
    if shared.alreadyTaken c.lineage how path then .ok (c.skip shared how path)
    else match site.openTarget path with
      | .error (.stop why) => .error why
      | .error (.bad why) => .ok (c.reject shared position how target why)
      | .ok stream => .ok (c.enter shared depth how path stream)

/-- The outcome of the end of a block. -/
def endBlock (c : Context) (shared : Shared) (position : Int) (automatic : Bool) : Reaction :=
  match c.scopes with
  | [] =>
    { context := c, shared, events := c.warn position "end: there is no open block to close" }
  | scope :: outer =>
    if scope.automatic = automatic then { context := { c with scopes := outer }, shared }
    else
      let kind := if scope.automatic then "automatic" else "manual"
      { context := c
        shared
        events := c.warn position
          ("end: innermost block '" ++ scope.rule.name ++ "' is " ++ kind ++ " and was not closed") }

/-- The outcome of `then` and `else`: a scope with the warnings of the watch, or a complaint. -/
def resolveWatch (c : Context) (shared : Shared) (position : Int) (rule : List String → Rule)
    (complaint : String) : Reaction :=
  match c.watch.stop? with
  | none => { context := c, shared, events := c.warn position complaint }
  | some (warnings, watch) =>
    { context := { c with watch, scopes := ⟨rule warnings, false⟩ :: c.scopes }, shared }

/-- The outcome of a directive that was read at a position, with `depth` files open. -/
def react (site : Site) (depth : Nat) (shared : Shared) (c : Context) (position : Int) :
    Directive → Except Abort Reaction
  | .noop => .ok { context := c, shared }
  | .comment _ => .ok { context := c, shared }
  | .empty => .ok { context := c, shared, events := [c.entry position ""] }
  | .close =>
    .ok { context := c.left, shared, move := .leave, events := c.leaving depth }
  | .clean =>
    let (shared, cell) := shared.newCell
    .ok { context := { c with cell }, shared }
  | .before arg =>
    .ok { context := c
          shared := { shared with cells := shared.cells.modify c.cell (·.addBefore arg) } }
  | .after arg =>
    .ok { context := c
          shared := { shared with cells := shared.cells.modify c.cell (·.addAfter arg) } }
  | .title text =>
    if c.isRoot then .ok { context := c, shared := { shared with title := some text } }
    else .ok { context := c, shared, events := [.message (.titleIgnored c.path position)] }
  | .subtitle text => .ok { context := c, shared, events := [c.entry position text .title] }
  | .warning text =>
    if c.watch.running then .ok { context := { c with watch := c.watch.collect text }, shared }
    else .ok { context := c, shared, events := c.warn position text }
  | .text text =>
    .ok { context := c
          shared
          events := [c.entry position text .normal (shared.cells.get c.cell)] }
  | .inclusion how target => c.includeFile site depth shared position how target
  | .endBlock automatic => .ok (c.endBlock shared position automatic)
  | .ignoreWarnings =>
    .ok { context := { c with scopes := ⟨.ignoreWarnings, false⟩ :: c.scopes }, shared }
  | .ignoreText => .ok { context := { c with scopes := ⟨.ignoreText, false⟩ :: c.scopes }, shared }
  | .watch =>
    match c.watch.start? with
    | some watch => .ok { context := { c with watch }, shared }
    | none =>
      .ok { context := c, shared, events := c.warn position "watch: already watching for warnings" }
  | .thenBlock =>
    .ok (c.resolveWatch shared position .thenBlock "then: no watch to resolve")
  | .elseBlock =>
    .ok (c.resolveWatch shared position .elseBlock "else: no watch to resolve")
  | .displayWarnings =>
    .ok { context := c
          shared
          events := c.warn position
            "display-warnings: not inside an else block with warnings" }
  | .multiple directives =>
    .ok { context := { c with reader := c.reader.pushBack position directives }, shared }
  | .debug =>
    .ok { context := c
          shared
          events := [.message (.debug position depth (c.describe shared.cells))] }

/-- What comes of a file that can be read no further, if it is not the document itself. -/
def abandon (c : Context) (shared : Shared) (depth : Nat) (why : Fault) : Reaction where
  context := c.left
  shared := shared
  move := .leave
  events :=
    c.warn c.reader.position ("could not read " ++ c.path.text ++ ", " ++ why.text) ++ c.leaving depth

end Context

end Menu
