import Mathlib.Data.List.Forall2
import Menu.Tree.Edit

/-!
# Trees with other contents

What is in the files of a tree has no part in finding them: two trees with the same directories and links, and with
files at the same places, lead the same ways.

* `Tree.Alike`: such trees, with contents that are related.
* `Tree.lookUpFrom_alike` and `Tree.walk_alike`: the ways on which the system and a canonical path lead.
* `Tree.canonical_alike`: each path has the same canonical form.
* `Tree.read_alike`: each file is found in both trees, with contents that are related.
-/

namespace Menu

/-- Answers that are the same failure, or two that are related. -/
inductive Agree {ε α β : Type} (R : α → β → Prop) : Except ε α → Except ε β → Prop
  | error (why : ε) : Agree R (.error why) (.error why)
  | ok {a : α} {b : β} : R a b → Agree R (.ok a) (.ok b)

/-- Entries of one kind: links with one target, or files whose contents are related. -/
inductive Node.Alike (R : List UInt8 → List UInt8 → Prop) : Node → Node → Prop
  | file {content content' : List UInt8} (stamp stamp' : Stamp) :
    R content content' → Alike R (.file content stamp) (.file content' stamp')
  | directory (stamp stamp' : Stamp) : Alike R (.directory stamp) (.directory stamp')
  | link (target : String) : Alike R (.link target) (.link target)

namespace Tree

/-- Trees with the same places, and at each an entry of the same kind, that take the same names. -/
structure Alike (R : List UInt8 → List UInt8 → Prop) (t t' : Tree) : Prop where
  entries : List.Forall₂ (fun e e' => e'.1 = e.1 ∧ e.2.Alike R e'.2) t.entries t'.entries
  surrogates : t'.surrogate? = t.surrogate?

/-- What the system finds in like trees. -/
def FoundAlike (R : List UInt8 → List UInt8 → Prop) (found found' : Found) : Prop :=
  found'.place = found.place ∧ Option.Rel (Node.Alike R) found.node? found'.node?

variable {R : List UInt8 → List UInt8 → Prop} {t t' : Tree} {following : List Place} {place : Place}
  {name target : String} {rest : List String} {node : Node} {why : Unresolved}

theorem lookup_alike (alike : t.Alike R t') (place : Place) :
    Option.Rel (Node.Alike R) (t.entries.lookup place) (t'.entries.lookup place) := by
  have pairs := alike.entries
  generalize t.entries = entries at pairs
  generalize t'.entries = entries' at pairs
  induction pairs with
  | nil => exact .none
  | @cons e e' _ _ same _ ih =>
    obtain ⟨here, kind⟩ := same
    rw [List.lookup_cons, List.lookup_cons, here]
    cases place == e.1 with
    | true => exact .some kind
    | false => exact ih

theorem node?_alike (alike : t.Alike R t') (place : Place) :
    Option.Rel (Node.Alike R) (t.node? place) (t'.node? place) := by
  have found := lookup_alike alike place
  unfold node?
  split
  · generalize t.entries.lookup place = node? at found
    generalize t'.entries.lookup place = node?' at found
    cases found with
    | none => exact .some (.directory _ _)
    | some alike => exact .some alike
  · exact found

theorem isDirectoryAt_alike (alike : t.Alike R t') (place : Place) :
    t'.isDirectoryAt place = t.isDirectoryAt place := by
  have found := node?_alike alike place
  unfold isDirectoryAt
  generalize t.node? place = node? at found
  generalize t'.node? place = node?' at found
  cases found with
  | none => rfl
  | some alike => cases alike <;> rfl

/-! ## What the system finds -/

theorem lookUpFrom_alike (alike : t.Alike R t') (last : LastLink) (links : Nat) (base : Place) (names : List String) :
    Agree (FoundAlike R) (t.lookUpFrom last links base names) (t'.lookUpFrom last links base names) := by
  match names with
  | [] =>
    rw [lookUpFrom, lookUpFrom]
    exact .ok ⟨rfl, node?_alike alike base⟩
  | name :: rest =>
    have found := node?_alike alike (base ++ [name])
    rw [lookUpFrom, lookUpFrom, isDirectoryAt_alike alike]
    split
    · exact .error _
    · split
      · exact lookUpFrom_alike alike last links base rest
      · split
        · exact lookUpFrom_alike alike last links base.dropLast rest
        · split
          · exact .error _
          · split
            · exact .error _
            · generalize t.node? (base ++ [name]) = node? at found
              generalize t'.node? (base ++ [name]) = node?' at found
              cases found with
              | none =>
                dsimp only
                split
                · exact .ok ⟨rfl, .none⟩
                · exact .error _
              | some kind =>
                cases kind with
                | file => exact lookUpFrom_alike alike last links (base ++ [name]) rest
                | directory => exact lookUpFrom_alike alike last links (base ++ [name]) rest
                | link target =>
                  dsimp only
                  split
                  · exact .ok ⟨rfl, .some (.link target)⟩
                  · cases links with
                    | zero => exact .error _
                    | succ links =>
                      exact lookUpFrom_alike alike last links (linkStart base target) (Path.pieces target ++ rest)
termination_by (links, names.length)

theorem status_alike (alike : t.Alike R t') (path : Path) :
    Agree (fun found found' => found'.1 = found.1 ∧ found.2.Alike R found'.2) (t.status path) (t'.status path) := by
  unfold status lookUp
  split
  · exact .error _
  · have found := lookUpFrom_alike alike .follow maxLinks [] path.names
    generalize t.lookUpFrom .follow maxLinks [] path.names = answer at found
    generalize t'.lookUpFrom .follow maxLinks [] path.names = answer' at found
    cases found with
    | error why => exact .error why
    | @ok found found' same =>
      obtain ⟨place, node?⟩ := found
      obtain ⟨place', node?'⟩ := found'
      obtain ⟨rfl, kind⟩ := same
      cases kind with
      | none => exact .error _
      | some kind => exact .ok ⟨rfl, kind⟩

/-- Each file is found in both trees, with contents that are related. -/
theorem read_alike (alike : t.Alike R t') (path : Path) : Agree R (t.read path) (t'.read path) := by
  have found := status_alike alike path
  unfold read
  generalize t.status path = answer at found
  generalize t'.status path = answer' at found
  cases found with
  | error why => exact .error _
  | @ok found found' same =>
    obtain ⟨place, node⟩ := found
    obtain ⟨place', node'⟩ := found'
    obtain ⟨rfl, kind⟩ := same
    cases kind with
    | file _ _ related => exact .ok related
    | directory => exact .error _
    | link => exact .error _

/-! ## Canonical paths -/

theorem endless_alike (alike : t.Alike R t') (place : Place) : t'.endless place = t.endless place := by
  have found := status_alike alike (Path.ofPlace place)
  unfold endless
  generalize t.status (Path.ofPlace place) = answer at found
  generalize t'.status (Path.ofPlace place) = answer' at found
  cases found with
  | error why => rfl
  | ok => rfl

theorem entry_alike (alike : t.Alike R t') (place : Place) (name : String) :
    Agree (Node.Alike R) (t.entry place name) (t'.entry place name) := by
  have found := node?_alike alike (place ++ [name])
  unfold entry takes flaw lacks
  rw [isDirectoryAt_alike alike, alike.surrogates]
  dsimp only
  split
  · exact .error _
  · split
    · exact .error _
    · split
      · exact .error _
      · split
        · exact .error _
        · generalize t.node? (place ++ [name]) = node? at found
          generalize t'.node? (place ++ [name]) = node?' at found
          cases found with
          | none => exact .error _
          | some kind => exact .ok kind

theorem entry_of_error (alike : t.Alike R t') (failed : t.entry place name = .error why) :
    t'.entry place name = .error why := by
  have found := entry_alike alike place name
  rw [failed] at found
  generalize t'.entry place name = answer at found
  cases found
  rfl

theorem entry_of_link (alike : t.Alike R t') (linked : t.entry place name = .ok (.link target)) :
    t'.entry place name = .ok (.link target) := by
  have found := entry_alike alike place name
  rw [linked] at found
  generalize t'.entry place name = answer at found
  cases found with
  | ok kind => cases kind; rfl

theorem entry_of_other (alike : t.Alike R t') (here : t.entry place name = .ok node)
    (noLink : ∀ target, node ≠ .link target) :
    ∃ node', t'.entry place name = .ok node' ∧ ∀ target, node' ≠ .link target := by
  have found := entry_alike alike place name
  rw [here] at found
  generalize t'.entry place name = answer at found
  cases found with
  | ok kind =>
    refine ⟨_, rfl, ?_⟩
    cases kind with
    | file => simp
    | directory => simp
    | link target => exact absurd rfl (noLink target)

/-- A walk stops where nothing is found. -/
theorem walk_of_error (named : ¬ (name = "" ∨ name = ".")) (up : name ≠ "..")
    (failed : t.entry place name = .error why) : t.walk following place (name :: rest) = .error why := by
  rw [walk, if_neg named, if_neg up]
  split <;> rename_i found <;> rw [failed] at found <;> cases found
  rfl

/-- A walk goes on from where a link leads, unless the link is being followed. -/
theorem walk_of_link (named : ¬ (name = "" ∨ name = ".")) (up : name ≠ "..")
    (linked : t.entry place name = .ok (.link target)) :
    t.walk following place (name :: rest) =
      if place ++ [name] ∈ following then .error (t.endless (place ++ [name]))
      else match t.walk ((place ++ [name]) :: following) (linkStart place target) (Path.pieces target) with
        | .error why => .error why
        | .ok inner => t.walk following inner rest := by
  rw [walk, if_neg named, if_neg up]
  split
  · rename_i found
    rw [linked] at found
    cases found
  · rename_i found
    rw [linked] at found
    cases found
    rfl
  · rename_i noLink found
    rw [linked] at found
    exact absurd (Except.ok.inj found).symm (noLink target)

theorem walk_alike (alike : t.Alike R t') (following : List Place) (place : Place) (names : List String) :
    t'.walk following place names = t.walk following place names := by
  fun_induction walk t following place names with
  | case1 => rw [walk]
  | case2 following place name rest dot ih =>
    rw [walk, if_pos dot]
    exact ih
  | case3 following place rest dot ih =>
    rw [walk, if_neg dot, if_pos rfl]
    exact ih
  | case4 following place name rest dot up why failed =>
    exact walk_of_error dot up (entry_of_error alike failed)
  | case5 following place name rest dot up target linked met =>
    rw [walk_of_link dot up (entry_of_link alike linked), if_pos met, endless_alike alike]
  | case6 following place name rest dot up target linked new why inner ih =>
    rw [walk_of_link dot up (entry_of_link alike linked), if_neg new, ih, inner]
  | case7 following place name rest dot up target linked new inner found ihTarget ih =>
    rw [walk_of_link dot up (entry_of_link alike linked), if_neg new, ihTarget, found]
    exact ih
  | case8 following place name rest dot up node noLink here ih =>
    obtain ⟨node', here', noLink'⟩ := entry_of_other alike here noLink
    rw [walk_of_entry ⟨fun e => dot (.inl e), fun e => dot (.inr e), up⟩ here' noLink']
    exact ih

/-- Each path has the same canonical form in both trees. -/
theorem canonical_alike (alike : t.Alike R t') (path : Path) : t'.canonical path = t.canonical path := by
  rw [canonical, canonical, walk_alike alike]

end Tree

end Menu
