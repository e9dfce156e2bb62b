import Menu.Entry
import Menu.Message
import Menu.Pool
import Menu.Scope
import Menu.Site
import Menu.Watch

/-!
# Open files

A build reads several files at a time: the document and, on top of it, the files that are being included.
`Context` is one of them with all that is its own: how far it is read, its open blocks and its watch.  Two
things it may have in common with others, and holds by a handle only: the command that its lines carry, and
the files sourced in its lineage, which is the document or an imported file together with everything that
is sourced from there.

`Shared` is what the files of a build have in common.  `Event` is what a build does to be seen from
outside: an entry it shows, a message, and each use of a stream, which goes by the number of streams opened
before it.
-/

namespace Menu

/-- The command that a file's lines carry, in words. -/
def Template.describe (t : Template) : String :=
  "CommandCell(prefix=" ++ Text.quotedList t.before ++ ", suffix=" ++ Text.quotedList t.after ++ ")"

/-- What the open files of a build have in common. -/
structure Shared where
  /-- The commands that lines carry. -/
  cells : Pool Template := {}
  /-- For each lineage, the files taken into it. -/
  lineages : Pool (List Path) := {}
  /-- The document and the files imported so far. -/
  imported : List Path := []
  /-- The files opened so far, each once, in the order of their first opening. -/
  sources : List Path := []
  /-- The last title that a line of the document gave. -/
  title : Option String := none
  /-- The number of streams opened so far. -/
  opened : Nat := 0

/-- A file that is being read. -/
structure Context where
  path : Path
  /-- The number of its stream. -/
  stream : Nat
  /-- Whether it belongs to the lineage of the document, whose titles count. -/
  isRoot : Bool
  reader : Reader
  /-- The command that its lines carry. -/
  cell : Handle
  /-- The lineage it belongs to. -/
  lineage : Handle
  scopes : Scopes := []
  watch : Watch := {}

/-- What a build does to be seen from outside. -/
inductive Event
  | entry (e : Entry)
  | message (m : Message)
  | opened (stream : Nat) (path : Path)
  | read (stream : Nat)
  | closed (stream : Nat)
deriving DecidableEq

namespace Event

/-- The entry that an event shows. -/
def entry? : Event → Option Entry
  | entry e => some e
  | _ => none

/-- The message that an event is. -/
def message? : Event → Option Message
  | message m => some m
  | _ => none

end Event

/-- The entries among events. -/
def entriesOf (events : List Event) : List Entry :=
  events.filterMap Event.entry?

/-- The messages among events. -/
def messagesOf (events : List Event) : List Message :=
  events.filterMap Event.message?

@[simp] theorem entriesOf_nil : entriesOf [] = [] := rfl

@[simp] theorem entriesOf_append (xs ys : List Event) :
    entriesOf (xs ++ ys) = entriesOf xs ++ entriesOf ys :=
  List.filterMap_append

namespace Shared

/-- Take note of an opened file. -/
def visit (s : Shared) (path : Path) : Shared :=
  { s with
    sources := if path ∈ s.sources then s.sources else s.sources ++ [path]
    opened := s.opened + 1 }

/-- A command of its own for a file. -/
def newCell (s : Shared) : Shared × Handle :=
  let (cells, cell) := s.cells.add {}
  ({ s with cells }, cell)

/-- A lineage that has taken in these files. -/
def newLineage (s : Shared) (files : List Path) : Shared × Handle :=
  let (lineages, lineage) := s.lineages.add files
  ({ s with lineages }, lineage)

/-- Whether a file was taken in before in the way of an inclusion by the lineage; `lines` never counts. -/
def alreadyTaken (s : Shared) (lineage : Handle) (how : Inclusion) (path : Path) : Bool :=
  match how with
  | .importing => path ∈ s.imported
  | .sourcing => path ∈ s.lineages.get lineage
  | .lines => false

end Shared

namespace Context

/-- The directory that the targets in a file are seen from. -/
def directory (c : Context) : Path :=
  c.path.parent

/-- A file that is being read, in words. -/
def describe (c : Context) (cells : Pool Template) : String :=
  c.path.text ++ " root=" ++ (if c.isRoot then "True" else "False") ++
    " position=" ++ toString c.reader.position ++
    " command=" ++ (cells.get c.cell).describe ++
    " watch=" ++ c.watch.describe ++
    " scopes=" ++ Text.quotedList c.scopes.names

/-- An entry that comes from a file. -/
def entry (c : Context) (position : Int) (text : String) (kind : EntryKind := .normal)
    (command : Template := {}) : Event :=
  .entry ⟨text, c.path, position, kind, command⟩

/-- A warning that is shown whether there is a watch or not. -/
def warn (c : Context) (position : Int) (text : String) : List Event :=
  [.message (.warned c.path position text), c.entry position text .warning]

/-- The warnings of a watch that the end of its file stops. -/
def flush (c : Context) : List Event :=
  match c.watch.stop? with
  | none => []
  | some (warnings, _) =>
    c.warn c.reader.position "watch was not closed by then or else before end of file" ++
      warnings.map (c.entry c.reader.position · .warning)

/-- A file with its stream closed. -/
def close (c : Context) : Context :=
  { c with reader := c.reader.close }

/-- What is seen of the stream of a file that comes to be `after`: whether it was closed on the way. -/
def closes (c after : Context) : List Event :=
  if !c.reader.closed && after.reader.closed then [.closed c.stream] else []

/-- A file as it is left: its stream closed and its watch stopped. -/
def left (c : Context) : Context :=
  { c.close with
    watch := match c.watch.stop? with
      | none => c.watch
      | some (_, watch) => watch }

/-- What is seen of leaving a file, of `depth` that are open. -/
def leaving (c : Context) (depth : Nat) : List Event :=
  c.flush ++ c.closes c.left ++ [.message (.popped c.path (depth - 1))]

@[simp] theorem entriesOf_closes (c after : Context) : entriesOf (c.closes after) = [] := by
  unfold closes
  split <;> rfl

/-- What leaving a file shows are the warnings that the end of the file lets out. -/
theorem entriesOf_leaving_eq (c : Context) (depth : Nat) : entriesOf (c.leaving depth) = entriesOf c.flush := by
  simp only [leaving, entriesOf_append, entriesOf_closes, List.append_nil]
  exact List.append_nil _

end Context

end Menu
