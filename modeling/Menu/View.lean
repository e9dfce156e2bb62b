import Menu.Build.Run

/-!
# Views

A view is what a document comes to: its title, its entries in order, and the files that were opened for it
in the order of their first opening, the document first.  A document without a title goes by its canonical
path.

`View.read` builds a view, together with everything seen on the way.  `View.reload` builds it anew from the
canonical path of its document.
-/

namespace Menu

/-- Why an index names no entry. -/
inductive BadIndex
  | outside
  /-- It is no signed number of 64 bits. -/
  | tooLarge
deriving DecidableEq, Repr

/-- Why an index names no entry, in words. -/
def BadIndex.text : BadIndex → String
  | outside => "tuple index out of range"
  | tooLarge => "cannot fit 'int' into an index-sized integer"

/-- The outcome of a build. -/
structure View where
  /-- The canonical path of the document. -/
  root : Path
  title : String
  entries : List Entry
  /-- The files that were opened. -/
  sources : List Path
deriving DecidableEq, Repr

namespace View

/-- The view that a finished build comes to. -/
def ofBuild (root : Path) (shared : Shared) (events : List Event) : View where
  root := root
  title := shared.title.getD root.text
  entries := entriesOf events
  sources := shared.sources

/-- Build the view of the document at a path, and what is seen of it. -/
def read (site : Site) (path : Path) : Except Abort View × List Event :=
  match site.openDocument path with
  | .error why => (.error why, [])
  | .ok (root, stream) =>
    let (outcome, events) := (Build.start root stream).run site (Build.ends_start root stream)
    let events := .opened 0 root :: .message (.building root) :: events
    match outcome with
    | .error why => (.error why, events)
    | .ok last =>
      let view := ofBuild root last.shared events
      (.ok view, events ++ [.message (.built view.entries.length view.sources.length)])

/-- Build a view anew. -/
def reload (site : Site) (v : View) : Except Abort View × List Event :=
  read site v.root

/-- The number of entries. -/
def size (v : View) : Nat :=
  v.entries.length

/-- The entry with an index, if there is one. -/
def get? (v : View) (index : Int) : Option Entry :=
  if index < 0 then none else v.entries[index.toNat]?

/-- The entry with an index, where -1 is the last one. -/
def item? (v : View) (index : Int) : Option Entry :=
  v.get? (if index < 0 then v.size + index else index)

/-- The entry with an index, where -1 is the last one, or why there is none. -/
def item (v : View) (index : Int) : Except BadIndex Entry :=
  if index < -0x8000000000000000 ∨ 0x8000000000000000 ≤ index then .error .tooLarge
  else match v.item? index with
    | some entry => .ok entry
    | none => .error .outside

/-- A view in words. -/
def describe (v : View) : String :=
  "LineView(root=" ++ v.root.text ++ ", title=" ++ Text.quoted v.title ++ ", lines=" ++
    toString v.size ++ ")"

end View

end Menu
