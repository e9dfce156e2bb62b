/-!
# Directives

A directive is what one line of a menu document means.  The kinds are closed: text and headings to show,
arguments for the command of the lines that follow, inclusions of other files, blocks that hide or choose
among lines, and the end of the file, which every file has after its last line.

`multiple` stands for directives that are to be read in its place, in their order.
-/

namespace Menu

/-- The three ways to pull another file into a document. -/
inductive Inclusion
  /-- A document of its own, taken at most once in a build. -/
  | importing
  /-- A part of the document it stands in, taken at most once in its lineage. -/
  | sourcing
  /-- The literal lines of a file and nothing else. -/
  | lines
deriving DecidableEq, Repr

/-- The keyword of an inclusion. -/
def Inclusion.word : Inclusion → String
  | importing => "import"
  | sourcing => "source"
  | lines => "lines"

/-- The meaning of one line of a document. -/
inductive Directive
  | noop
  /-- An empty line to show. -/
  | empty
  /-- The end of a file. -/
  | close
  /-- From here on, an empty command. -/
  | clean
  /-- An argument that the command has before the text of a line. -/
  | before (arg : String)
  /-- An argument that the command has after the text of a line. -/
  | after (arg : String)
  | title (text : String)
  | subtitle (text : String)
  | warning (text : String)
  | comment (text : String)
  /-- A line to show as it is. -/
  | text (text : String)
  | inclusion (how : Inclusion) (file : String)
  /-- The end of the innermost block; `automatic` says which blocks it is meant for. -/
  | endBlock (automatic : Bool)
  | ignoreWarnings
  | ignoreText
  | watch
  | thenBlock
  | elseBlock
  | displayWarnings
  | multiple (directives : List Directive)
  | debug
deriving Repr, Inhabited

end Menu
