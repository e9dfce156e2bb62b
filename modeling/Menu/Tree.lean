import Menu.Fault

/-!
# File trees

A tree is a finite set of entries below a root directory, each at its place: the names that lead to it
from the root.  A file has its bytes and the time it was last changed, a link the text of its target, and a
directory the time at which an entry last came into it or left it.  The tree is a value, and reading,
following links and editing are functions on it.

A time is one that was set, or else that of a change of the tree, of which only the order is known: the tree
counts its changes, so that no two of them have one time.

`node?` is the entry at a place, before any link is followed, and `lookUp` what the system finds under a
path when it follows the links on the way, at most `maxLinks` of them: a path of more than `maxPathBytes`
bytes, a name of more than `maxNameBytes` and a name below anything but a directory are refused, and the
last name alone may be missing.

A name that holds the character NUL, or a surrogate that is no byte, is never looked up (`takes`).
-/

namespace Menu

/-- The names that lead to an entry from the root. -/
abbrev Place := List String

/-- When an entry was last changed. -/
inductive Stamp
  /-- At a time that was set, in nanoseconds. -/
  | set (time : Int)
  /-- By the change of the tree that has this number. -/
  | change (number : Nat)
deriving DecidableEq, Repr

/-- An entry of a tree. -/
inductive Node
  | file (content : List UInt8) (stamp : Stamp)
  | directory (stamp : Stamp)
  | link (target : String)
deriving DecidableEq, Repr

/-- A finite tree of files, directories and links. -/
structure Tree where
  entries : List (Place × Node) := []
  /-- The number of changes that were made to the tree. -/
  changes : Nat := 0
  /-- The characters that stand for lone surrogates in names and in what is written. -/
  surrogate? : Text.Surrogates := fun _ => none
deriving Inhabited

/-- What the system does with a link that a path ends in. -/
inductive LastLink
  | follow
  | keep
  /-- It is followed to a file to write, which is created if it is missing. -/
  | create
deriving DecidableEq, Repr

/-- Where following the names of a path leads: a place, and what is there. -/
structure Found where
  place : Place
  node? : Option Node

namespace Tree

/-- The most links that the system follows for one path. -/
def maxLinks : Nat := 40

/-- The longest path, in bytes of UTF-8. -/
def maxPathBytes : Nat := 4095

/-- The longest name, in bytes of UTF-8. -/
def maxNameBytes : Nat := 255

/-- Whether the system has no bytes for a character of a name. -/
def lacks (t : Tree) (c : Char) : Bool :=
  Text.lacks t.surrogate? Text.isByte c

/-- Whether a name gets as far as the system. -/
def takes (t : Tree) (name : String) : Bool :=
  name.toList.all fun c => c != '\x00' && !t.lacks c

/-- Whether all names of a path get as far as the system. -/
def takesPath (t : Tree) (path : Path) : Bool :=
  path.names.all t.takes

/-- What is wrong with a text for a path, where `names` are not all taken. -/
def flaw (t : Tree) (text : String) (names : List String) : Flaw :=
  if names.any (·.toList.any t.lacks) then .lacking (Text.lackIn t.surrogate? Text.isByte text.toList) else .nul

/-- The entry at a place; the root is a directory. -/
def node? (t : Tree) (place : Place) : Option Node :=
  if place = [] then some ((t.entries.lookup place).getD (.directory (.change 0))) else t.entries.lookup place

/-- Whether there is a directory at a place. -/
def isDirectoryAt (t : Tree) (place : Place) : Bool :=
  match t.node? place with
  | some (.directory _) => true
  | _ => false

/-- The names that a link leads to from the place that its target starts from. -/
def linkStart (base : Place) (target : String) : Place :=
  if (Path.ofText target).anchor = .here then base else []

/-- Whether a path is too long for the system. -/
def isTooLong (path : Path) : Bool :=
  maxPathBytes < path.text.utf8ByteSize

/-- What the system finds at the end of `names`, looked up from the place `base`, if it follows at most
`links` more links.  The name of a file to create must not have a slash behind it, which only the target of a
link can have. -/
def lookUpFrom (t : Tree) (last : LastLink) (links : Nat) (base : Place) :
    List String → Except Refusal Found
  | [] => .ok ⟨base, t.node? base⟩
  | name :: rest =>
    if !t.isDirectoryAt base then .error .notDirectory
    else if name = "" ∨ name = "." then t.lookUpFrom last links base rest
    else if name = ".." then t.lookUpFrom last links base.dropLast rest
    else if last = .create ∧ rest ≠ [] ∧ rest.all (· = "") then .error .isDirectory
    else if maxNameBytes < name.utf8ByteSize then .error .nameTooLong
    else match t.node? (base ++ [name]) with
      | none => if rest = [] then .ok ⟨base ++ [name], none⟩ else .error .notFound
      | some (.link target) =>
        if rest = [] ∧ last = .keep then .ok ⟨base ++ [name], some (.link target)⟩
        else match links with
          | 0 => .error .tooManyLinks
          | links + 1 =>
            t.lookUpFrom last links (linkStart base target) (Path.pieces target ++ rest)
      | some _ => t.lookUpFrom last links (base ++ [name]) rest
termination_by names => (links, names.length)

/-- What the system finds under a path. -/
def lookUp (t : Tree) (last : LastLink) (path : Path) : Except Refusal Found :=
  if isTooLong path then .error .nameTooLong else t.lookUpFrom last maxLinks [] path.names

/-- The entry under a path, with its place; links are followed. -/
def status (t : Tree) (path : Path) : Except Refusal (Place × Node) := do
  let found ← t.lookUp .follow path
  match found.node? with
  | some node => .ok (found.place, node)
  | none => .error .notFound

/-- The entries of links, by place. -/
def linkPlaces (t : Tree) : List Place :=
  t.entries.filterMap fun (place, node) =>
    match node with
    | .link _ => some place
    | _ => none

/-- A link is one of the entries. -/
theorem lookup_eq_of_link {t : Tree} {place : Place} {target : String}
    (h : t.node? place = some (.link target)) : t.entries.lookup place = some (.link target) := by
  unfold node? at h
  split at h
  · cases e : t.entries.lookup place with
    | none => simp [e] at h
    | some n => simpa [e] using h
  · exact h

/-- A place where there is a link is one of `linkPlaces`. -/
theorem mem_linkPlaces {t : Tree} {place : Place} {target : String}
    (h : t.node? place = some (.link target)) : place ∈ t.linkPlaces := by
  obtain ⟨before, after, e, -⟩ := List.lookup_eq_some_iff.1 (lookup_eq_of_link h)
  simp only [linkPlaces, List.mem_filterMap]
  exact ⟨(place, .link target), by simp [e], rfl⟩

end Tree

end Menu
