import Menu.Proofs.Tree.Changes
import Menu.Proofs.Tree.Contents

/-!
# Spellings of a place

One place of a tree has many spellings: dots and slashes that say nothing, double dots, and links on the way.  Its
canonical path is one of them, and the only one that a walk leaves as it is.

* `Path.ofText_text`: the text of a place spells it.
* `Tree.canonical_join`: what a path leads to goes on from its canonical form, whatever the path is spelled like.
* `Tree.place_of_status`: a walk leads to where the system finds something, if both come to an end.
-/

namespace Menu

/-! ## Texts of paths -/

namespace Text

variable {α : Type} [DecidableEq α]

/-- Cutting a list into pieces is splitting it. -/
theorem piecesAt_eq_splitOn (sep : α) (xs : List α) : piecesAt sep xs = xs.splitOn sep := by
  induction xs with
  | nil => rfl
  | cons x xs ih =>
    rw [piecesAt, ih, List.splitOn_cons_eq_if_modifyHead]
    by_cases here : x = sep
    · simp [here]
    · cases rest : xs.splitOn sep with
      | nil => exact absurd rest (List.splitOn_ne_nil _ _)
      | cons piece pieces => simp [here]

end Text

namespace Path

variable {place : Place}

theorem toList_text_ofPlace (place : Place) :
    (ofPlace place).text.toList = '/' :: ['/'].intercalate (place.map String.toList) := by
  rw [text, if_neg (by simp [ofPlace])]
  simp [ofPlace, Anchor.text]

/-- A single slash in front of a name is the root. -/
theorem anchorOf_text {first : String} {rest : Place} (named : first ≠ "") (unslashed : '/' ∉ first.toList) :
    anchorOf (ofPlace (first :: rest)).text.toList = .root := by
  obtain ⟨c, cs, spelled⟩ := List.exists_cons_of_ne_nil (mt String.toList_eq_nil_iff.1 named)
  have letter : c ≠ '/' := by
    rintro rfl
    exact unslashed (spelled ▸ List.mem_cons_self)
  obtain ⟨tail, begun⟩ : ∃ tail, ['/'].intercalate ((first :: rest).map String.toList) = c :: tail := by
    cases rest with
    | nil => exact ⟨cs, by simp [spelled]⟩
    | cons second rest => exact ⟨_, by rw [List.map_cons, List.map_cons, List.intercalate_cons_cons, spelled]; rfl⟩
  rw [toList_text_ofPlace, begun]
  unfold anchorOf
  split <;> simp_all

/-- The text of a place is cut into its names, behind the slash that it begins with. -/
theorem pieces_text {place : Place} (some : place ≠ []) (unslashed : ∀ name ∈ place, '/' ∉ name.toList) :
    pieces (ofPlace place).text = "" :: place := by
  have separate : ∀ piece ∈ place.map String.toList, '/' ∉ piece := by
    intro piece mem
    obtain ⟨name, here, rfl⟩ := List.mem_map.1 mem
    exact unslashed name here
  have names : place.map (String.ofList ∘ String.toList) = place := by
    simp [Function.comp_def]
  rw [pieces, Text.piecesAt_eq_splitOn, toList_text_ofPlace, List.splitOn_cons_eq_if_modifyHead,
    if_pos (beq_self_eq_true _), List.splitOn_intercalate _ separate (by simpa using some), List.map_cons,
    List.map_map, names]

/-- The text of a place spells it. -/
theorem ofText_text (named : ∀ name ∈ place, name ≠ "" ∧ name ≠ ".") (unslashed : ∀ name ∈ place, '/' ∉ name.toList) :
    ofText (ofPlace place).text = ofPlace place := by
  cases place with
  | nil => decide +kernel
  | cons first rest =>
    have kept : (first :: rest).filter (fun name => decide (name ≠ "" ∧ name ≠ ".")) = first :: rest :=
      List.filter_eq_self.2 fun name mem => decide_eq_true (named name mem)
    rw [ofText, anchorOf_text (named first List.mem_cons_self).1 (unslashed first List.mem_cons_self),
      pieces_text (List.cons_ne_nil _ _) unslashed, List.filter_cons_of_neg (by simp), kept]
    rfl

end Path

/-! ## Walks -/

namespace Tree

variable {t : Tree} {following : List Place} {place last : Place} {names rest : List String} {links : Nat}
  {name : String} {found : Found} {node : Node} {a b p : Path}

/-- A walk from names without slashes leads to a place without. -/
theorem unslashed_of_walk (start : ∀ name ∈ place, '/' ∉ name.toList) (given : ∀ name ∈ names, '/' ∉ name.toList)
    (h : t.walk following place names = .ok last) : ∀ name ∈ last, '/' ∉ name.toList := by
  fun_induction walk t following place names generalizing last with
  | case1 => cases h; exact start
  | case2 _ _ _ _ _ ih => exact ih start (List.forall_mem_cons.1 given).2 h
  | case3 _ _ _ _ ih =>
    exact ih (fun name mem => start name (List.dropLast_subset _ mem)) (List.forall_mem_cons.1 given).2 h
  | case4 => cases h
  | case5 => cases h
  | case6 => cases h
  | case7 _ _ _ _ _ _ target _ _ _ inner ihTarget ih =>
    have cut : ∀ name ∈ Path.pieces target, '/' ∉ name.toList := fun _ mem => Path.slash_not_mem_of_mem_pieces mem
    refine ih (ihTarget ?_ cut inner) (List.forall_mem_cons.1 given).2 h
    unfold linkStart
    split
    · exact start
    · exact fun _ mem => absurd mem List.not_mem_nil
  | case8 _ _ _ _ _ _ _ _ _ ih =>
    obtain ⟨first, others⟩ := List.forall_mem_cons.1 given
    refine ih (fun name mem => ?_) others h
    rcases List.mem_append.1 mem with mem | mem
    · exact start name mem
    · exact List.mem_singleton.1 mem ▸ first

/-- The canonical form of a spelling is one. -/
theorem unslashed_of_canonical (given : ∀ name ∈ a.names, '/' ∉ name.toList) (h : t.canonical a = .ok p) :
    ∀ name ∈ p.names, '/' ∉ name.toList := by
  unfold canonical at h
  cases walked : t.walk [] [] a.names with
  | error why => rw [walked] at h; cases h
  | ok last =>
    rw [walked] at h
    cases h
    exact unslashed_of_walk (fun _ mem => absurd mem List.not_mem_nil) given walked

/-- The names of a place to which a walk leads straight are no dots. -/
theorem Straight.named (straight : t.Straight place) (mem : name ∈ place) : name ≠ "" ∧ name ≠ "." := by
  obtain ⟨above, below, rfl⟩ := List.append_of_mem mem
  obtain ⟨some, noDot, -⟩ := (straight above name ⟨below, by simp⟩).1
  exact ⟨some, noDot⟩

/-- A walk along some names and then others. -/
theorem walk_append (following : List Place) (place : Place) (names rest : List String) :
    t.walk following place (names ++ rest) =
      t.walk following place names >>= fun last => t.walk following last rest := by
  fun_induction walk t following place names with
  | case1 => rfl
  | case2 _ _ _ _ spelled ih => rw [List.cons_append, walk, if_pos spelled]; exact ih
  | case3 _ _ _ spelled ih => rw [List.cons_append, walk, if_neg spelled, if_pos rfl]; exact ih
  | case4 _ _ _ _ spelled other why failed => rw [List.cons_append, walk_of_error spelled other failed]; rfl
  | case5 _ _ _ _ spelled other target linked met =>
    rw [List.cons_append, walk_of_link spelled other linked, if_pos met]
    rfl
  | case6 _ _ _ _ spelled other target linked met why inner =>
    rw [List.cons_append, walk_of_link spelled other linked, if_neg met, inner]
    rfl
  | case7 _ _ _ _ spelled other target linked met last inner _ ih =>
    rw [List.cons_append, walk_of_link spelled other linked, if_neg met, inner]
    exact ih
  | case8 _ _ _ _ spelled other node noLink found ih =>
    rw [List.cons_append, walk_of_entry ⟨fun e => spelled (.inl e), fun e => spelled (.inr e), other⟩ found noLink]
    exact ih

/-- What a path leads to from another depends on the canonical form of that one alone. -/
theorem canonical_join (h : t.canonical a = .ok p) (b : Path) : t.canonical (a.join b) = t.canonical (p.join b) := by
  unfold canonical at h
  cases walked : t.walk [] [] a.names with
  | error why => rw [walked] at h; cases h
  | ok place =>
    rw [walked] at h
    cases h
    -- the walk along the canonical form ends in the same place, and both go on from there
    have straight : t.Straight ([] ++ place) := straight_of_walk .root walked
    have onward : t.walk [] [] (a.names ++ b.names) = t.walk [] [] (place ++ b.names) := by
      rw [walk_append, walk_append, walked, walk_of_straight straight]
      rfl
    unfold Path.join
    split
    · rw [canonical, canonical, onward]
      rfl
    · rfl

/-! ## What the system finds -/

/-- The system goes on under a name from the entry that is there. -/
theorem lookUpFrom_entry (spelled : ¬ (name = "" ∨ name = ".")) (other : name ≠ "..")
    (here : t.entry place name = .ok node) (looked : t.lookUpFrom .follow links place (name :: names) = .ok found) :
    (∀ target, node = .link target →
        ∃ fewer, t.lookUpFrom .follow fewer (linkStart place target) (Path.pieces target ++ names) = .ok found) ∧
      ((∀ target, node ≠ .link target) → t.lookUpFrom .follow links (place ++ [name]) names = .ok found) := by
  obtain ⟨-, -, above, brief, there⟩ := entry_iff.1 here
  rw [lookUpFrom, if_neg (by simp [above]), if_neg spelled, if_neg other, if_neg (by simp), if_neg brief,
    there] at looked
  cases node with
  | link target =>
    have follows : ¬ (names = [] ∧ LastLink.follow = LastLink.keep) := by simp
    simp only [if_neg follows] at looked
    refine ⟨fun other same => ?_, fun noLink => absurd rfl (noLink target)⟩
    cases same
    cases links with
    | zero => cases looked
    | succ fewer => exact ⟨fewer, looked⟩
  | _ => exact ⟨by simp, fun _ => looked⟩

/-- Where a walk leads, the system comes by as well, and goes on from there. -/
theorem lookUpFrom_of_walk (walked : t.walk following place names = .ok last)
    (looked : t.lookUpFrom .follow links place (names ++ rest) = .ok found) :
    ∃ fewer, t.lookUpFrom .follow fewer last rest = .ok found := by
  -- along the walk: what is left to look up behind a link's target is the names after the link, and then the rest
  fun_induction walk t following place names generalizing last links rest with
  | case1 => cases walked; exact ⟨links, looked⟩
  | case2 _ _ _ _ spelled ih =>
    rw [List.cons_append, lookUpFrom] at looked
    split at looked
    · cases looked
    · exact ih walked looked
  | case3 _ _ _ _ ih =>
    rw [List.cons_append, lookUpFrom] at looked
    split at looked
    · cases looked
    · exact ih walked (by rwa [if_pos rfl] at looked)
  | case4 => cases walked
  | case5 => cases walked
  | case6 => cases walked
  | case7 _ _ _ _ spelled other target linked _ _ _ ihTarget ih =>
    obtain ⟨fewer, looked⟩ := (lookUpFrom_entry spelled other linked looked).1 target rfl
    obtain ⟨fewest, looked⟩ := ihTarget ‹_› looked
    exact ih walked looked
  | case8 _ _ _ _ spelled other _ noLink here ih =>
    exact ih walked ((lookUpFrom_entry spelled other here looked).2 noLink)

/-- The canonical path is the place where the system finds something. -/
theorem place_of_status (h : t.canonical p = .ok b) (found : t.status p = .ok (place, node)) :
    b = Path.ofPlace place := by
  have looked := lookUp_of_status found
  unfold lookUp at looked
  split at looked
  · cases looked
  · unfold canonical at h
    cases walked : t.walk [] [] p.names with
    | error why => rw [walked] at h; cases h
    | ok last =>
      rw [walked] at h
      cases h
      have whole : t.lookUpFrom .follow maxLinks [] (p.names ++ []) = .ok ⟨place, some node⟩ := by
        rw [List.append_nil]
        exact looked
      obtain ⟨fewer, ended⟩ := lookUpFrom_of_walk walked whole
      rw [lookUpFrom] at ended
      exact congrArg (Path.ofPlace ·.place) (Except.ok.inj ended)

end Tree
end Menu
