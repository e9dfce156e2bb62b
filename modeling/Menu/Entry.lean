import Menu.Path

/-!
# Entries

A view of a document is a list of entries: lines to choose from, headings and warnings, each with the
file and line it came from.  An entry may carry a command: the arguments before and after its text, as
they were when the line was read.
-/

namespace Menu

/-- The arguments that a command has besides the text of a line. -/
structure Template where
  before : List String := []
  after : List String := []
deriving DecidableEq, Repr, Inhabited

namespace Template

/-- The template with one more argument before the text. -/
def addBefore (t : Template) (arg : String) : Template :=
  { t with before := t.before ++ [arg] }

/-- The template with one more argument after the text. -/
def addAfter (t : Template) (arg : String) : Template :=
  { t with after := t.after ++ [arg] }

/-- Whether a template has no arguments; such a template makes no command. -/
def isEmpty (t : Template) : Bool :=
  t.before.isEmpty && t.after.isEmpty

/-- All arguments of the command for a text. -/
def args (t : Template) (text : String) : List String :=
  t.before ++ text :: t.after

end Template

/-- The kinds of entries. -/
inductive EntryKind
  | normal
  | title
  | warning
deriving DecidableEq, Repr

/-- One row of a view. -/
structure Entry where
  text : String
  /-- The canonical path of the file that the entry comes from. -/
  source : Path
  /-- The number of the line that it comes from. -/
  position : Int
  kind : EntryKind := .normal
  command : Template := {}
deriving DecidableEq, Repr

/-- A command that is ready to run, and the line it was made for. -/
structure Invocation where
  args : List String
  position : Int
  source : Path
deriving DecidableEq, Repr

/-- The program that a command runs. -/
def Invocation.program (i : Invocation) : String :=
  i.args.headD ""

namespace Entry

/-- Whether choosing an entry runs a command. -/
def hasCommand (e : Entry) : Bool :=
  !e.command.isEmpty

/-- The command of an entry, with its text between the arguments of its template. -/
def invocation? (e : Entry) : Option Invocation :=
  if e.hasCommand then some ⟨e.command.args e.text, e.position, e.source⟩ else none

end Entry

end Menu
