import Menu.Text.Break

/-!
# Paths

A path is where it starts from and the names to follow from there.  Empty names and single dots say
nothing and are left out when a text is read; double dots stay, since where they lead depends on the
links of a tree.  Two leading slashes are an anchor of their own, three and more are one slash.

`join` puts one path behind another, and a path with an anchor of its own stands alone.

A `Spelling` is a path that a text spells: no name of it holds a slash.
-/

namespace Menu

/-- What the first name of a path is looked up in. -/
inductive Anchor
  /-- A directory that is given elsewhere. -/
  | here
  | root
  /-- The root, written with exactly two slashes. -/
  | doubleRoot
deriving DecidableEq, Repr, Inhabited

/-- The slashes in front of the names. -/
def Anchor.text : Anchor → String
  | here => ""
  | root => "/"
  | doubleRoot => "//"

/-- A path: an anchor and names. -/
structure Path where
  anchor : Anchor
  names : List String
deriving DecidableEq, Repr, Inhabited

/-- A path none of whose names holds a slash. -/
structure Spelling extends Path where
  unslashed : ∀ name ∈ names, '/' ∉ name.toList
deriving DecidableEq, Repr

namespace Path

/-- The anchor that the leading slashes of a text give. -/
def anchorOf : List Char → Anchor
  | '/' :: '/' :: '/' :: _ => .root
  | '/' :: '/' :: _ => .doubleRoot
  | '/' :: _ => .root
  | _ => .here

/-- The pieces of a text between its slashes. -/
def pieces (s : String) : List String :=
  (Text.piecesAt '/' s.toList).map String.ofList

/-- The path that a text spells. -/
def ofText (s : String) : Path :=
  ⟨anchorOf s.toList, (pieces s).filter fun name => name ≠ "" ∧ name ≠ "."⟩

/-- The text of a path. -/
def text (p : Path) : String :=
  if p.anchor = .here ∧ p.names = [] then "." else p.anchor.text ++ "/".intercalate p.names

/-- The path with the given names from the root. -/
def ofPlace (names : List String) : Path :=
  ⟨.root, names⟩

/-- The path `b` seen from `a`. -/
def join (a b : Path) : Path :=
  if b.anchor = .here then ⟨a.anchor, a.names ++ b.names⟩ else b

/-- The path without its last name. -/
def parent (p : Path) : Path :=
  ⟨p.anchor, p.names.dropLast⟩

/-- The last name of a path, empty if it has none. -/
def lastName (p : Path) : String :=
  p.names.getLast?.getD ""

/-- A text with `/` at its end or not, without any slashes there. -/
def dropEndSlashes (cs : List Char) : List Char :=
  (cs.reverse.dropWhile (· == '/')).reverse

theorem slash_not_mem_of_mem_pieces {s name : String} (mem : name ∈ pieces s) : '/' ∉ name.toList := by
  obtain ⟨piece, cut, rfl⟩ := List.mem_map.1 mem
  rw [String.toList_ofList]
  exact Text.not_mem_of_mem_piecesAt cut

/-- What a text spells. -/
def spelling (s : String) : Spelling :=
  { ofText s with unslashed := fun _ mem => slash_not_mem_of_mem_pieces (List.mem_filter.1 mem).1 }

/-- The home directory that the value of the variable for it names: slashes at the end do not count, an
empty value is the root, and a value that starts with a tilde names none. -/
def home? (value : String) : Option Spelling :=
  match dropEndSlashes value.toList with
  | [] => some (spelling "/")
  | '~' :: _ => none
  | cs => some (spelling (String.ofList cs))

@[simp] theorem join_here (a : Path) (names : List String) :
    a.join ⟨.here, names⟩ = ⟨a.anchor, a.names ++ names⟩ := rfl

theorem join_of_anchor {a b : Path} (h : b.anchor ≠ .here) : a.join b = b :=
  if_neg h

/-- Spellings behind each other make one. -/
theorem slash_not_mem_of_mem_join {a b : Spelling} {name : String} (mem : name ∈ (a.toPath.join b.toPath).names) :
    '/' ∉ name.toList := by
  unfold join at mem
  split at mem
  · exact (List.mem_append.1 mem).elim (a.unslashed name) (b.unslashed name)
  · exact b.unslashed name mem

example : (ofText "a//./b/").text = "a/b" ∧ (ofText "").text = "." ∧ (ofText "//x/..").text = "//x/.." ∧
    (ofText "///x").text = "/x" := by
  decide +kernel

end Path

end Menu
