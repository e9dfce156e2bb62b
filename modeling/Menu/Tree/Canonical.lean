import Menu.Remaining
import Menu.Tree

/-!
# Canonical paths

The canonical path of a file has no links and no dots on the way.  `canonical` walks the names of a path
from the left and keeps the place it has reached: a double dot drops the last name of that place, whatever
is there, and a link is replaced by the place that its target leads to.  A link that is met again while it
is being followed has no end, and the walk stops there; there is no other limit to the number of links.

A walk ends because a link that is being followed is not followed again, so that fewer links are left for
each target than for the path it stands in.
-/

namespace Menu

/-- Reasons for which a path has no canonical form. -/
inductive Unresolved
  /-- A name does not get as far as the system. -/
  | flawed (why : Flaw)
  | refused (why : Refusal) (path : Path)
  /-- Following the link at this path leads back to it. -/
  | loop (link : Path)
deriving DecidableEq, Repr

namespace Tree

/-- The entry under a name in the place that a walk has reached, before any link is followed. -/
def entry (t : Tree) (place : Place) (name : String) : Except Unresolved Node :=
  let path := Path.ofPlace (place ++ [name])
  if !t.takes name then .error (.flawed (t.flaw path.text [name]))
  else if isTooLong path then .error (.refused .nameTooLong path)
  else if !t.isDirectoryAt place then .error (.refused .notDirectory path)
  else if maxNameBytes < name.utf8ByteSize then .error (.refused .nameTooLong path)
  else match t.node? (place ++ [name]) with
    | some node => .ok node
    | none => .error (.refused .notFound path)

/-- Why the link at a place, met again while it is being followed, has no end: the system's own reason, and
a loop if the system only sees too many links. -/
def endless (t : Tree) (place : Place) : Unresolved :=
  match t.status (Path.ofPlace place) with
  | .error .tooManyLinks => .loop (Path.ofPlace place)
  | .error why => .refused why (Path.ofPlace place)
  | .ok _ => .loop (Path.ofPlace place)

theorem entry_eq_ok {t : Tree} {place : Place} {name : String} {node : Node}
    (h : t.entry place name = .ok node) : t.node? (place ++ [name]) = some node := by
  unfold entry at h
  dsimp only at h
  repeat' split at h
  all_goals simp_all

/-- The place that `names` lead to from `place`, while the links at `following` are being followed. -/
def walk (t : Tree) (following : List Place) (place : Place) :
    List String → Except Unresolved Place
  | [] => .ok place
  | name :: rest =>
    if name = "" ∨ name = "." then t.walk following place rest
    else if name = ".." then t.walk following place.dropLast rest
    else match _link : t.entry place name with
      | .error why => .error why
      | .ok (.link target) =>
        if _met : place ++ [name] ∈ following then .error (t.endless (place ++ [name]))
        else match t.walk ((place ++ [name]) :: following) (linkStart place target)
            (Path.pieces target) with
          | .error why => .error why
          | .ok inner => t.walk following inner rest
      | .ok _ => t.walk following (place ++ [name]) rest
termination_by names => (remaining t.linkPlaces following, names.length)
decreasing_by
  · exact Prod.Lex.right _ (Nat.lt_succ_self _)
  · exact Prod.Lex.right _ (Nat.lt_succ_self _)
  · exact Prod.Lex.left _ _ (remaining_cons_lt (mem_linkPlaces (entry_eq_ok _link)) _met)
  · exact Prod.Lex.right _ (Nat.lt_succ_self _)
  · exact Prod.Lex.right _ (Nat.lt_succ_self _)

/-- A walk goes on from an entry that is no link. -/
theorem walk_of_entry {t : Tree} {following : List Place} {place : Place} {name : String}
    {rest : List String} {node : Node} (named : name ≠ "" ∧ name ≠ "." ∧ name ≠ "..")
    (here : t.entry place name = .ok node) (noLink : ∀ target, node ≠ .link target) :
    t.walk following place (name :: rest) = t.walk following (place ++ [name]) rest := by
  have spelled : ¬ (name = "" ∨ name = ".") := fun e => e.elim named.1 named.2.1
  rw [walk, if_neg spelled, if_neg named.2.2]
  split
  · rename_i missing
    rw [here] at missing
    cases missing
  · rename_i target linked
    rw [here] at linked
    exact absurd (Except.ok.inj linked) (noLink target)
  · rfl

/-- The canonical form of a path. -/
def canonical (t : Tree) (path : Path) : Except Unresolved Path :=
  (t.walk [] [] path.names).map Path.ofPlace

/-- A place that is met with no link on the way and none at its end. -/
def Settled (t : Tree) (place : Place) : Prop :=
  ∀ p name, p ++ [name] <+: place →
    ∃ node, t.node? (p ++ [name]) = some node ∧ ∀ target, node ≠ .link target

theorem Settled.root {t : Tree} : t.Settled [] := by
  simp [Settled]

theorem Settled.dropLast {t : Tree} {place : Place} (h : t.Settled place) :
    t.Settled place.dropLast :=
  fun p name m => h p name (m.trans place.dropLast_prefix)

theorem Settled.linkStart {t : Tree} {place : Place} (h : t.Settled place) (target : String) :
    t.Settled (Tree.linkStart place target) := by
  unfold Tree.linkStart
  split
  · exact h
  · exact .root

theorem Settled.append {t : Tree} {place : Place} {name : String} {node : Node}
    (h : t.Settled place) (here : t.node? (place ++ [name]) = some node)
    (noLink : ∀ target, node ≠ .link target) : t.Settled (place ++ [name]) := by
  intro p other m
  rcases List.prefix_concat_iff.1 m with e | m
  · exact ⟨node, e ▸ here, noLink⟩
  · exact h p other m

/-- A walk that begins at a settled place ends at one. -/
theorem settled_walk {t : Tree} {following : List Place} {place last : Place} {names : List String}
    (start : t.Settled place) (h : t.walk following place names = .ok last) : t.Settled last := by
  fun_induction walk t following place names generalizing last with
  | case1 => cases h; exact start
  | case2 _ _ _ _ _ ih => exact ih start h
  | case3 _ _ _ _ ih => exact ih start.dropLast h
  | case4 => cases h
  | case5 => cases h
  | case6 => cases h
  | case7 _ _ _ _ _ _ _ _ _ _ inner ihTarget ih => exact ih (ihTarget (start.linkStart _) inner) h
  | case8 _ _ _ _ _ _ node noLink found ih => exact ih (start.append (entry_eq_ok found) noLink) h

/-- The places at which a tree has something, as canonical paths. -/
def files (t : Tree) : List Path :=
  ([] :: t.entries.map Prod.fst).map Path.ofPlace

theorem Settled.mem_files {t : Tree} {place : Place} (h : t.Settled place) :
    Path.ofPlace place ∈ t.files := by
  refine List.mem_map_of_mem ?_
  rcases place.eq_nil_or_concat with rfl | ⟨p, name, e⟩
  · exact List.mem_cons_self
  · rw [List.concat_eq_append] at e
    subst e
    obtain ⟨node, here, -⟩ := h p name (List.prefix_refl _)
    rw [node?, if_neg (by simp)] at here
    obtain ⟨before, after, e, -⟩ := List.lookup_eq_some_iff.1 here
    exact List.mem_cons_of_mem _ (List.mem_map.2 ⟨(p ++ [name], node), by simp [e], rfl⟩)

/-- A canonical path is one of finitely many. -/
theorem mem_files_of_canonical {t : Tree} {path file : Path} (h : t.canonical path = .ok file) :
    file ∈ t.files := by
  unfold canonical at h
  cases e : t.walk [] [] path.names with
  | error why => rw [e] at h; cases h
  | ok place => rw [e] at h; cases h; exact (settled_walk .root e).mem_files

end Tree

end Menu
