import Mathlib.Data.List.Induction
import Menu.Proofs.Tree.Plain
import Menu.Proofs.Tree.Straight

/-!
# What changes do to a tree

Each change of a tree is made at one place, and at most the times of directories change elsewhere.  A file is
written where its path leads, and is found there afterwards.

* `Tree.Founded`: every entry lies in a directory.  `Edit.founded_apply`: changes keep a tree so.
* `Tree.found_of_lookUpFrom`: what the system finds in such a tree.
* `Tree.status_of_write` and `Tree.read_of_write`: a file that was written is found, with what was written.
* `Edit.file_of_apply`: a file that an edit brings about has the time that the edit sets, and is found under the
  path that the edit names.
-/

namespace Menu

namespace Tree

variable {t t' : Tree} {place other base : Place} {node : Node} {path : Path} {content bytes : List UInt8}
  {stamp : Stamp} {name target : String} {names : List String} {last : LastLink} {links : Nat} {found : Found}

/-! ## Entries -/

@[simp] theorem node?_put_self (t : Tree) (place : Place) (node : Node) :
    (t.put place node).node? place = some node := by
  simp [node?, put]

theorem node?_put_of_ne (h : other ≠ place) (t : Tree) (node : Node) :
    (t.put place node).node? other = t.node? other := by
  have same : (t.put place node).entries.lookup other = t.entries.lookup other := by
    rw [put, List.lookup_cons, beq_eq_false_iff_ne.2 h, lookup_filter fun p => p != place]
    simp [h]
  rw [node?, node?, same]

theorem node?_prune_of_not (h : ¬ place <+: other) (t : Tree) : (t.prune place).node? other = t.node? other := by
  have same : (t.prune place).entries.lookup other = t.entries.lookup other := by
    rw [prune, lookup_filter fun p => !place.isPrefixOf p]
    simp [h]
  rw [node?, node?, same]

/-- Nothing is left below a place that was cleared, unless it is the root. -/
theorem node?_prune (h : place <+: other) (t : Tree) :
    (t.prune place).node? other = if other = [] then some (.directory (.change 0)) else none := by
  have gone : (t.prune place).entries.lookup other = none := by
    rw [prune, lookup_filter fun p => !place.isPrefixOf p, List.isPrefixOf_iff_prefix.2 h]
    rfl
  rw [node?, gone]
  rfl

theorem isDirectoryAt_iff : t.isDirectoryAt place = true ↔ ∃ stamp, t.node? place = some (.directory stamp) := by
  unfold isDirectoryAt
  split <;> simp_all

/-- Two trees that differ at one place, and otherwise in the times of directories at most. -/
def SameBut (place : Place) (t t' : Tree) : Prop :=
  ∀ other, other ≠ place → t'.node? other = t.node? other ∨
    ∃ stamp stamp', t.node? other = some (.directory stamp) ∧ t'.node? other = some (.directory stamp')

theorem sameBut_put (t : Tree) (place : Place) (node : Node) : SameBut place t (t.put place node) :=
  fun _ elsewhere => .inl (node?_put_of_ne elsewhere t node)

theorem markDirectory_cases (t : Tree) (place other : Place) :
    (t.markDirectory place).node? other = t.node? other ∨
      ∃ stamp stamp', t.node? other = some (.directory stamp) ∧
        (t.markDirectory place).node? other = some (.directory stamp') := by
  unfold markDirectory
  split
  · rename_i here
    by_cases same : other = place
    · subst same
      obtain ⟨stamp, old⟩ := isDirectoryAt_iff.1 here
      exact .inr ⟨stamp, t.now, old, node?_put_self _ _ _⟩
    · exact .inl (node?_put_of_ne same _ _)
  · exact .inl rfl

@[simp] theorem node?_create_self (t : Tree) (place : Place) (node : Node) :
    (t.create place node).node? place = some node :=
  node?_put_self _ _ _

theorem sameBut_create (t : Tree) (place : Place) (node : Node) : SameBut place t (t.create place node) := by
  intro other elsewhere
  rw [create, node?_put_of_ne elsewhere]
  exact t.markDirectory_cases place.dropLast other

theorem SameBut.isDirectoryAt (same : SameBut place t t') (elsewhere : other ≠ place) :
    t'.isDirectoryAt other = t.isDirectoryAt other := by
  unfold Tree.isDirectoryAt
  rcases same other elsewhere with kept | ⟨stamp, stamp', before, after⟩
  · rw [kept]
  · rw [before, after]

theorem SameBut.file_iff (same : SameBut place t t') (elsewhere : other ≠ place) :
    t'.node? other = some (.file content stamp) ↔ t.node? other = some (.file content stamp) := by
  rcases same other elsewhere with kept | ⟨_, _, before, after⟩
  · rw [kept]
  · simp [before, after]

/-! ## Trees in which every entry lies in a directory -/

/-- A place whose entry lies in a directory, or would if there was one. -/
def Lies (t : Tree) (place : Place) : Prop :=
  ∀ above name, place = above ++ [name] → t.isDirectoryAt above = true

/-- A tree in which every entry lies in a directory.  Every file system is such a tree. -/
structure Founded (t : Tree) : Prop where
  root : t.isDirectoryAt [] = true
  lies : ∀ place node, t.node? place = some node → t.Lies place

theorem lies_root : t.Lies [] := by
  simp [Lies]

theorem lies_append : t.Lies (place ++ [name]) ↔ t.isDirectoryAt place = true := by
  constructor
  · exact fun lies => lies place name rfl
  · intro here above other same
    obtain ⟨rfl, -⟩ := List.append_inj' same rfl
    exact here

theorem Founded.of_directory (founded : t.Founded) (here : t.isDirectoryAt place = true) : t.Lies place := by
  obtain ⟨stamp, here⟩ := isDirectoryAt_iff.1 here
  exact founded.lies place _ here

theorem Founded.dropLast (founded : t.Founded) (lies : t.Lies place) : t.isDirectoryAt place.dropLast = true := by
  rcases place.eq_nil_or_concat with rfl | ⟨above, name, e⟩
  · exact founded.root
  · rw [List.concat_eq_append] at e
    subst e
    rw [List.dropLast_concat]
    exact lies_append.1 lies

theorem not_link_of_directory (here : t.isDirectoryAt place = true) (target : String) :
    t.node? place ≠ some (.link target) := by
  intro linked
  rw [isDirectoryAt, linked] at here
  cases here

theorem Founded.linkStart (founded : t.Founded) (here : t.isDirectoryAt base = true) (target : String) :
    t.isDirectoryAt (Tree.linkStart base target) = true := by
  unfold Tree.linkStart
  split
  · exact here
  · exact founded.root

/-- What the system finds stands at its place in a directory, and is no link that was to be followed. -/
theorem found_of_lookUpFrom (founded : t.Founded) (lies : t.Lies base)
    (noLink : ∀ target, t.node? base ≠ some (.link target))
    (h : t.lookUpFrom last links base names = .ok found) :
    found.node? = t.node? found.place ∧ t.Lies found.place ∧
      (last ≠ .keep → ∀ target, found.node? ≠ some (.link target)) := by
  fun_induction lookUpFrom t last links base names with
  | case1 => cases h; exact ⟨rfl, lies, fun _ => noLink⟩
  | case2 => cases h
  | case3 _ _ _ _ _ _ ih => exact ih lies noLink h
  | case4 _ base _ here _ ih =>
    have up := founded.dropLast lies
    exact ih (founded.of_directory up) (not_link_of_directory up) h
  | case5 => cases h
  | case6 => cases h
  | case7 _ _ _ here _ _ _ missing =>
    cases h
    exact ⟨missing.symm, lies_append.2 (by simpa using here), by simp⟩
  | case8 => cases h
  | case9 _ _ _ _ here _ _ _ _ target linked keeps =>
    cases h
    exact ⟨linked.symm, lies_append.2 (by simpa using here), fun follows => absurd keeps.2 follows⟩
  | case10 => cases h
  | case11 base _ _ here _ _ _ _ target _ _ _ ih =>
    have above : t.isDirectoryAt base = true := by simpa using here
    have start := founded.linkStart above target
    exact ih (founded.of_directory start) (not_link_of_directory start) h
  | case12 _ _ _ _ here _ _ _ _ node noLink' there ih =>
    refine ih (lies_append.2 (by simpa using here)) (fun target linked => ?_) h
    rw [there] at linked
    exact noLink' target (Option.some.inj linked)

/-- A way that ended at a place where no directory and no link was leads there still, once there is a file. -/
theorem lookUpFrom_of_file (same : SameBut place t t') (file : t'.node? place = some (.file content stamp))
    (free : t.isDirectoryAt place = false) (noLink : ∀ target, t.node? place ≠ some (.link target))
    (follows : last ≠ .keep) (h : t.lookUpFrom last links base names = .ok found) (here : found.place = place) :
    t'.lookUpFrom .follow links base names = .ok ⟨place, some (.file content stamp)⟩ := by
  have directory : ∀ {other}, ¬ (!t.isDirectoryAt other) = true → ¬ (!t'.isDirectoryAt other) = true := by
    intro other above
    have elsewhere : other ≠ place := by
      rintro rfl
      simp [free] at above
    rw [same.isDirectoryAt elsewhere]
    exact above
  fun_induction lookUpFrom t last links base names with
  | case1 _ base =>
    cases h
    subst here
    rw [lookUpFrom, file]
  | case2 => cases h
  | case3 _ _ _ _ above dot ih =>
    rw [lookUpFrom, if_neg (directory above), if_pos dot]
    exact ih h
  | case4 _ _ _ above dot ih =>
    rw [lookUpFrom, if_neg (directory above), if_neg dot, if_pos rfl]
    exact ih h
  | case5 => cases h
  | case6 => cases h
  | case7 _ base name above dot up brief missing =>
    cases h
    subst here
    rw [lookUpFrom, if_neg (directory above), if_neg dot, if_neg up, if_neg (by simp), if_neg brief, file]
    simp only [lookUpFrom, file]
  | case8 => cases h
  | case9 _ _ _ _ _ _ _ _ _ _ _ keeps => exact absurd keeps.2 follows
  | case10 => cases h
  | case11 base name rest above dot up _ brief target linked on links ih =>
    have elsewhere : base ++ [name] ≠ place := fun e => noLink target (e ▸ linked)
    have linked' : t'.node? (base ++ [name]) = some (.link target) := by
      rcases same _ elsewhere with kept | ⟨_, _, before, -⟩
      · exact kept.trans linked
      · rw [linked] at before
        cases before
    rw [lookUpFrom, if_neg (directory above), if_neg dot, if_neg up, if_neg (by simp), if_neg brief, linked']
    simp only [if_neg (show ¬ (rest = [] ∧ LastLink.follow = .keep) by simp)]
    exact ih h
  | case12 _ base name rest above dot up _ brief node noLink' there ih =>
    rw [lookUpFrom, if_neg (directory above), if_neg dot, if_neg up, if_neg (by simp), if_neg brief]
    have onward : ∃ node, t'.node? (base ++ [name]) = some node ∧ ∀ target, node ≠ .link target := by
      by_cases e : base ++ [name] = place
      · exact ⟨_, e ▸ file, by simp⟩
      · rcases same _ e with kept | ⟨_, _, -, after⟩
        · exact ⟨node, kept.trans there, noLink'⟩
        · exact ⟨_, after, by simp⟩
    obtain ⟨node', there', stays⟩ := onward
    rw [there']
    cases node' with
    | link target => exact absurd rfl (stays target)
    | _ => exact ih h

theorem Founded.above (founded : t.Founded) (there : t.node? place = some node) {above : Place}
    (start : above ++ [name] <+: place) : t.isDirectoryAt above = true := by
  induction place using List.reverseRecOn generalizing node with
  | nil => simp at start
  | append_singleton init last ih =>
    have here : t.isDirectoryAt init = true := founded.lies _ node there init last rfl
    rcases List.prefix_concat_iff.1 start with same | start
    · obtain ⟨rfl, -⟩ := List.append_inj' same rfl
      exact here
    · obtain ⟨stamp, there⟩ := isDirectoryAt_iff.1 here
      exact ih there start

/-- A place that is straight in one tree is so in another one in which there is something at it that is no link, if
both take the same names. -/
theorem Founded.straight (founded : t'.Founded) (same : t'.surrogate? = t.surrogate?) (straight : t.Straight place)
    (there : t'.node? place = some node) (noLink : ∀ target, node ≠ .link target) : t'.Straight place := by
  intro above name start
  obtain ⟨named, _, here, -⟩ := straight above name start
  obtain ⟨clean, short, -, brief, -⟩ := entry_iff.1 here
  rw [← takes_of_surrogate? same] at clean
  have directory := founded.above there start
  refine ⟨named, ?_⟩
  by_cases last : above ++ [name] = place
  · exact ⟨node, entry_iff.2 ⟨clean, short, directory, brief, last ▸ there⟩, noLink⟩
  · obtain ⟨rest, whole⟩ := start
    cases rest with
    | nil => exact absurd (by simpa using whole) last
    | cons next rest =>
      have further : (above ++ [name]) ++ [next] <+: place := ⟨rest, by rw [← whole]; simp⟩
      obtain ⟨stamp, here'⟩ := isDirectoryAt_iff.1 (founded.above there further)
      exact ⟨_, entry_iff.2 ⟨clean, short, directory, brief, here'⟩, by simp⟩

theorem Proper.of_surrogates {t' : Tree} (proper : t.Proper place name) (same : t'.surrogate? = t.surrogate?) :
    t'.Proper place name :=
  { proper with clean := (congrFun (takesPath_of_surrogate? same) _).trans proper.clean }

theorem Founded.read (founded : t'.Founded) (same : t'.surrogate? = t.surrogate?) (straight : t.Straight place)
    (there : t'.node? place = some (.file content stamp)) : t'.read (Path.ofPlace place) = .ok content :=
  read_of_straight (founded.straight same straight there (by simp)) there

/-! ## What a change makes of the entries -/

theorem lookUp_of_reach (h : t.reach last path = .ok found) : t.lookUp last path = .ok found := by
  unfold reach at h
  split at h
  · cases h
  · cases looked : t.lookUp last path with
    | error why => rw [looked] at h; cases h
    | ok there => rw [looked] at h; cases h; rfl

theorem found_of_lookUp (founded : t.Founded) (h : t.lookUp last path = .ok found) :
    found.node? = t.node? found.place ∧ t.Lies found.place ∧
      (last ≠ .keep → ∀ target, found.node? ≠ some (.link target)) := by
  unfold lookUp at h
  split at h
  · cases h
  · exact found_of_lookUpFrom founded lies_root (not_link_of_directory founded.root) h

theorem lookUp_of_status (h : t.status path = .ok (place, node)) :
    t.lookUp .follow path = .ok ⟨place, some node⟩ := by
  unfold status at h
  cases looked : t.lookUp .follow path with
  | error why => rw [looked] at h; cases h
  | ok found =>
    rw [looked] at h
    obtain ⟨place', node?⟩ := found
    cases node? with
    | none => cases h
    | some node' => cases h; rfl

theorem status_of_lookUp (h : t.lookUp .follow path = .ok ⟨place, some node⟩) :
    t.status path = .ok (place, node) := by
  rw [status, h]
  rfl

/-- A file is found under the path that led to its place. -/
theorem status_of_file (founded : t.Founded) (follows : last ≠ .keep) (h : t.lookUp last path = .ok found)
    (same : SameBut found.place t t') (free : t.isDirectoryAt found.place = false)
    (file : t'.node? found.place = some (.file content stamp)) :
    t'.status path = .ok (found.place, .file content stamp) := by
  obtain ⟨here, -, noLink⟩ := found_of_lookUp founded h
  apply status_of_lookUp
  unfold lookUp at h ⊢
  split at h
  · cases h
  · rename_i short
    rw [if_neg short]
    exact lookUpFrom_of_file same file free (fun target => here ▸ noLink follows target) follows h rfl

theorem exists_of_write (h : t.write path content = .ok t') :
    ∃ found, t.lookUp .create path = .ok found ∧
      (t' = t.count.put found.place (.file content t.count.now) ∧ (∃ node, found.node? = some node) ∧
          (∀ stamp, found.node? ≠ some (.directory stamp)) ∨
        t' = t.count.create found.place (.file content t.count.now) ∧ found.node? = none) := by
  unfold write at h
  cases reached : t.reach .create path with
  | error why => rw [reached] at h; cases h
  | ok found =>
    rw [reached] at h
    refine ⟨found, lookUp_of_reach reached, ?_⟩
    simp only [bind, Except.bind] at h
    split at h
    · cases h
    · rename_i node other there
      cases h
      exact .inl ⟨rfl, ⟨node, there⟩, fun stamp e => other stamp (Option.some.inj (there ▸ e))⟩
    · rename_i there
      cases h
      exact .inr ⟨rfl, there⟩

/-- A file is written where its path leads, and nothing else is. -/
theorem written (founded : t.Founded) (h : t.write path content = .ok t') :
    ∃ found, t.lookUp .create path = .ok found ∧ t.Lies found.place ∧ t.isDirectoryAt found.place = false ∧
      t'.node? found.place = some (.file content t.count.now) ∧ SameBut found.place t t' := by
  obtain ⟨found, looked, made⟩ := exists_of_write h
  obtain ⟨here, lies, -⟩ := found_of_lookUp founded looked
  refine ⟨found, looked, lies, ?_⟩
  rcases made with ⟨rfl, -, noDirectory⟩ | ⟨rfl, none⟩
  · refine ⟨?_, node?_put_self _ _ _, sameBut_put t.count _ _⟩
    rw [Bool.eq_false_iff]
    intro directory
    obtain ⟨stamp, e⟩ := isDirectoryAt_iff.1 directory
    exact noDirectory stamp (here.trans e)
  · refine ⟨?_, node?_create_self _ _ _, sameBut_create t.count _ _⟩
    rw [isDirectoryAt, ← here, none]

/-- A file that was written is found under its path. -/
theorem status_of_write (founded : t.Founded) (h : t.write path content = .ok t') :
    ∃ place, t'.status path = .ok (place, .file content t.count.now) ∧ SameBut place t t' := by
  obtain ⟨found, looked, -, free, file, same⟩ := written founded h
  exact ⟨found.place, status_of_file founded (by simp) looked same free file, same⟩

theorem read_of_write (founded : t.Founded) (h : t.write path content = .ok t') : t'.read path = .ok content := by
  obtain ⟨place, found, -⟩ := status_of_write founded h
  rw [read, found]

/-! ## Changes keep a tree founded -/

/-- A new entry in a directory keeps a tree founded, unless it takes the place of a directory. -/
theorem Founded.change (founded : t.Founded) (lies : t.Lies place) (same : SameBut place t t')
    (kept : t.isDirectoryAt place = true → t'.isDirectoryAt place = true) : t'.Founded := by
  have directory : ∀ other, t.isDirectoryAt other = true → t'.isDirectoryAt other = true := by
    intro other here
    by_cases e : other = place
    · exact e ▸ kept (e ▸ here)
    · rw [same.isDirectoryAt e]
      exact here
  have lies' : ∀ other, t.Lies other → t'.Lies other :=
    fun other before above name e => directory above (before above name e)
  refine ⟨directory [] founded.root, fun other node there => lies' other ?_⟩
  by_cases e : other = place
  · exact e ▸ lies
  · rcases same other e with old | ⟨_, _, before, -⟩
    · exact founded.lies other node (old ▸ there)
    · exact founded.lies other _ before

theorem Founded.count (founded : t.Founded) : t.count.Founded :=
  ⟨founded.root, founded.lies⟩

theorem Founded.markDirectory (founded : t.Founded) (place : Place) : (t.markDirectory place).Founded := by
  unfold Tree.markDirectory
  split
  · rename_i here
    exact founded.change (founded.of_directory here) (sameBut_put t place _)
      fun _ => isDirectoryAt_iff.2 ⟨_, node?_put_self _ _ _⟩
  · exact founded

theorem Founded.create (founded : t.Founded) (lies : t.Lies place) (free : t.node? place = none) :
    (t.create place node).Founded :=
  founded.change lies (sameBut_create t place node) fun here => by
    rw [isDirectoryAt, free] at here
    cases here

theorem Founded.prune (founded : t.Founded) (place : Place) : (t.prune place).Founded := by
  constructor
  · by_cases root : place <+: []
    · exact isDirectoryAt_iff.2 ⟨_, (node?_prune root t).trans (if_pos rfl)⟩
    · rw [isDirectoryAt, node?_prune_of_not root]
      exact founded.root
  · rintro other node there above name rfl
    by_cases gone : place <+: above ++ [name]
    · rw [node?_prune gone, if_neg (by simp)] at there
      cases there
    · rw [node?_prune_of_not gone] at there
      have still : ¬ place <+: above := fun start => gone (start.trans (List.prefix_append _ _))
      rw [isDirectoryAt, node?_prune_of_not still]
      exact founded.lies _ node there above name rfl

theorem Founded.write (founded : t.Founded) (h : t.write path content = .ok t') : t'.Founded := by
  obtain ⟨found, -, lies, free, -, same⟩ := written founded h
  exact founded.change lies same fun here => by rw [free] at here; cases here

theorem status_spec (founded : t.Founded) (h : t.status path = .ok (place, node)) :
    t.node? place = some node ∧ t.Lies place ∧ ∀ target, node ≠ .link target := by
  obtain ⟨here, lies, noLink⟩ := found_of_lookUp founded (lookUp_of_status h)
  exact ⟨here.symm, lies, fun target e => noLink (by simp) target (e ▸ rfl)⟩

theorem Founded.touch {time : Int} (founded : t.Founded) (h : t.touch path time = .ok t') : t'.Founded := by
  unfold Tree.touch at h
  split at h
  · cases h
  split at h
  · cases h
  split at h
  · rename_i place content stamp found
    cases h
    obtain ⟨here, lies, -⟩ := status_spec founded found
    refine founded.change lies (sameBut_put t place _) fun directory => ?_
    rw [isDirectoryAt, here] at directory
    cases directory
  · rename_i place node _ found
    cases h
    obtain ⟨-, lies, -⟩ := status_spec founded found
    exact founded.change lies (sameBut_put t place _) fun _ => isDirectoryAt_iff.2 ⟨_, node?_put_self _ _ _⟩
  · cases h

theorem exists_of_makeLink (h : t.makeLink path target = .ok t') :
    ∃ place, t.lookUp .keep path = .ok ⟨place, none⟩ ∧ t' = t.count.create place (.link target) := by
  unfold Tree.makeLink at h
  repeat' split at h
  all_goals cases h
  rename_i place looked _
  exact ⟨place, looked, rfl⟩

theorem Founded.makeLink (founded : t.Founded) (h : t.makeLink path target = .ok t') : t'.Founded := by
  obtain ⟨place, looked, rfl⟩ := exists_of_makeLink h
  obtain ⟨here, lies, -⟩ := found_of_lookUp founded looked
  exact founded.count.create lies here.symm

theorem exists_of_makeDirectory (h : t.makeDirectory path = .ok t') :
    ∃ place, t.lookUp .keep path = .ok ⟨place, none⟩ ∧ t' = t.count.create place (.directory t.count.now) := by
  unfold Tree.makeDirectory at h
  cases reached : t.reach .keep path with
  | error why => rw [reached] at h; cases h
  | ok found =>
    rw [reached] at h
    simp only [bind, Except.bind] at h
    split at h <;> cases h
    rename_i none
    exact ⟨found.place, none ▸ lookUp_of_reach reached, rfl⟩

theorem Founded.makeDirectory (founded : t.Founded) (h : t.makeDirectory path = .ok t') : t'.Founded := by
  obtain ⟨place, looked, rfl⟩ := exists_of_makeDirectory h
  obtain ⟨here, lies, -⟩ := found_of_lookUp founded looked
  exact founded.count.create lies here.symm

theorem Founded.delete (founded : t.Founded) (h : t.delete path = .ok t') : t'.Founded := by
  unfold Tree.delete at h
  obtain ⟨found, h⟩ := exists_found h
  split at h <;> cases h
  exact (founded.count.prune _).markDirectory _

theorem kept_founded : Kept Founded where
  write _ _ _ _ founded := founded.write
  touch _ _ _ _ founded := founded.touch
  makeLink _ _ _ _ founded := founded.makeLink
  makeDirectory _ _ _ founded := founded.makeDirectory
  delete _ _ _ founded := founded.delete

theorem Founded.edit {e : Edit} {outcome : Except Unchanged Unit} (founded : t.Founded)
    (made : e.apply t = (outcome, t')) : t'.Founded := by
  simpa [made] using kept_founded.apply founded e

theorem Founded.makeDirectories {outcome : Except Unchanged Unit} (founded : t.Founded)
    (made : t.makeDirectories path = (outcome, t')) : t'.Founded := by
  simpa [made] using keeps_makeDirectories kept_founded.makeDirectory founded path

theorem surrogate?_of_write (written : t.write path content = .ok t') : t'.surrogate? = t.surrogate? :=
  (kept_surrogate? t.surrogate?).write _ _ _ _ rfl written

theorem surrogate?_of_edit {e : Edit} {outcome : Except Unchanged Unit} (made : e.apply t = (outcome, t')) :
    t'.surrogate? = t.surrogate? := by
  simpa [made] using (kept_surrogate? t.surrogate?).apply rfl e

/-! ## Where files come from -/

/-- Every file of the second tree is one of the first. -/
def Inherits (t t' : Tree) : Prop :=
  ∀ place content stamp, t'.node? place = some (.file content stamp) → t.node? place = some (.file content stamp)

theorem Inherits.of_sameBut (same : SameBut place t t')
    (noFile : ∀ content stamp, t'.node? place ≠ some (.file content stamp)) : Inherits t t' := by
  intro other content stamp file
  have elsewhere : other ≠ place := fun e => noFile content stamp (e ▸ file)
  exact (same.file_iff elsewhere).1 file

theorem inherits_makeDirectory (h : t.makeDirectory path = .ok t') : Inherits t t' := by
  obtain ⟨place, -, rfl⟩ := exists_of_makeDirectory h
  exact .of_sameBut (sameBut_create t.count place _) fun content stamp => by simp

theorem inherits_makeLink (h : t.makeLink path target = .ok t') : Inherits t t' := by
  obtain ⟨place, -, rfl⟩ := exists_of_makeLink h
  exact .of_sameBut (sameBut_create t.count place _) fun content stamp => by simp

theorem inherits_delete (h : t.delete path = .ok t') : Inherits t t' := by
  unfold Tree.delete at h
  obtain ⟨found, h⟩ := exists_found h
  split at h <;> cases h
  intro place content stamp file
  have pruned : (t.count.prune found.place).node? place = some (.file content stamp) := by
    rcases markDirectory_cases (t.count.prune found.place) found.place.dropLast place with same | ⟨_, _, -, after⟩
    · rw [← same]
      exact file
    · rw [file] at after
      cases after
  by_cases gone : found.place <+: place
  · rw [node?_prune gone] at pruned
    split at pruned <;> cases pruned
  · rw [node?_prune_of_not gone] at pruned
    exact pruned

theorem inherits_makeDirectories (t : Tree) (path : Path) : Inherits t (t.makeDirectories path).2 :=
  keeps_makeDirectories (p := Inherits t)
    (fun _ _ _ before made place content stamp file =>
      before _ _ _ (inherits_makeDirectory made place content stamp file))
    (fun _ _ _ file => file) path

/-- Directories are made where there is no file, so that all files stay. -/
theorem file_iff_makeDirectories (founded : t.Founded) (path : Path) :
    (t.makeDirectories path).2.node? place = some (.file content stamp) ↔
      t.node? place = some (.file content stamp) := by
  suffices kept : (t.makeDirectories path).2.Founded ∧ Inherits (t.makeDirectories path).2 t from
    ⟨inherits_makeDirectories t path _ _ _, kept.2 _ _ _⟩
  refine keeps_makeDirectories (p := fun now => now.Founded ∧ Inherits now t) ?_ ⟨founded, fun _ _ _ file => file⟩ path
  intro before after path kept made
  refine ⟨kept.1.makeDirectory made, fun place content stamp file => ?_⟩
  have old := kept.2 _ _ _ file
  obtain ⟨fresh, looked, rfl⟩ := exists_of_makeDirectory made
  obtain ⟨free, -⟩ := found_of_lookUp kept.1 looked
  have elsewhere : place ≠ fresh := by
    rintro rfl
    rw [← free] at old
    cases old
  exact ((sameBut_create before.count fresh _).file_iff elsewhere).2 old

/-- A file after a write is an old one, or the one that was written. -/
theorem file_of_write (founded : t.Founded) (h : t.write path bytes = .ok t')
    (file : t'.node? place = some (.file content stamp)) :
    t.node? place = some (.file content stamp) ∨ ∃ node, t'.status path = .ok (place, node) := by
  obtain ⟨written, found, same⟩ := status_of_write founded h
  by_cases e : place = written
  · exact .inr ⟨_, e ▸ found⟩
  · exact .inl ((same.file_iff e).1 file)

/-- A file whose time was set is found with this time, and all others are old. -/
theorem file_of_touch {time : Int} (founded : t.Founded) (h : t.touch path time = .ok t')
    (file : t'.node? place = some (.file content stamp)) :
    (t.node? place = some (.file content stamp) ∧ ∀ node, t.status path ≠ .ok (place, node)) ∨
      (stamp = .set time ∧ ∃ node, t'.status path = .ok (place, node)) := by
  unfold Tree.touch at h
  split at h
  · cases h
  split at h
  · cases h
  split at h
  · rename_i touched old before found
    cases h
    obtain ⟨here, -⟩ := status_spec founded found
    have free : t.isDirectoryAt touched = false := by rw [isDirectoryAt, here]
    have found' := status_of_file founded (by simp) (lookUp_of_status found) (sameBut_put t touched _) free
      (node?_put_self t touched (.file old (.set time)))
    by_cases e : place = touched
    · subst e
      rw [node?_put_self] at file
      cases file
      exact .inr ⟨rfl, _, found'⟩
    · refine .inl ⟨((sameBut_put t touched _).file_iff e).1 file, fun node other => ?_⟩
      rw [found] at other
      cases other
      exact e rfl
  · rename_i touched node noFile found
    cases h
    have inherits : Inherits t (t.put touched (.directory (.set time))) :=
      .of_sameBut (sameBut_put t touched _) fun content stamp => by simp
    refine .inl ⟨inherits _ _ _ file, fun node' other => ?_⟩
    rw [found] at other
    cases other
    rw [node?_put_self] at file
    cases file
  · cases h

end Tree

open Menu.Tree

/-- The time that an edit sets, and the path under which it does so. -/
def Edit.sets? : Edit → Option (Path × Int)
  | .write path _ time => some (path, time)
  | .touch path time => some (path, time)
  | _ => none

theorem Attempt.exists_of_andThen {done : Attempt} {change : Tree → Except Unchanged Tree} {t : Tree}
    (h : done.andThen change = (.ok (), t)) : ∃ before, done = (.ok (), before) ∧ change before = .ok t := by
  obtain ⟨outcome, before⟩ := done
  cases outcome with
  | error why => cases h
  | ok _ =>
    unfold andThen at h
    dsimp only at h
    cases made : change before with
    | error why => rw [made] at h; cases h
    | ok after => rw [made] at h; cases h; exact ⟨before, rfl, made⟩

/-- A file after an edit is an old one, or its time is the one that the edit sets, and it is found under the path that
the edit names. -/
theorem Edit.file_of_apply {t t' : Tree} {edit : Edit} {place : Place} {content : List UInt8} {stamp : Stamp}
    (founded : t.Founded) (h : edit.apply t = (.ok (), t')) (file : t'.node? place = some (.file content stamp)) :
    t.node? place = some (.file content stamp) ∨
      ∃ path time node, edit.sets? = some (path, time) ∧ stamp = .set time ∧
        t'.status path = .ok (place, node) := by
  cases edit with
  | write path bytes time =>
    obtain ⟨t₂, made, touched⟩ := Attempt.exists_of_andThen h
    obtain ⟨t₁, directories, written⟩ := Attempt.exists_of_andThen made
    have inherits : Inherits t t₁ := by simpa [directories] using inherits_makeDirectories t path.parent
    have founded₁ : t₁.Founded := founded.makeDirectories directories
    have founded₂ : t₂.Founded := founded₁.write written
    rcases file_of_touch founded₂ touched file with ⟨old, untouched⟩ | ⟨e, node, found⟩
    · rcases file_of_write founded₁ written old with old | ⟨node, found⟩
      · exact .inl (inherits _ _ _ old)
      · exact absurd found (untouched node)
    · exact .inr ⟨path, time, node, rfl, e, found⟩
  | delete path =>
    have h : Attempt.andThen (.ok (), t) (·.delete path) = (.ok (), t') := h
    obtain ⟨_, ⟨⟩, deleted⟩ := Attempt.exists_of_andThen h
    exact .inl (inherits_delete deleted _ _ _ file)
  | makeDirectory path =>
    have inherits := inherits_makeDirectories t path
    rw [show t.makeDirectories path = (.ok (), t') from h] at inherits
    exact .inl (inherits _ _ _ file)
  | link path target =>
    obtain ⟨t₁, directories, linked⟩ := Attempt.exists_of_andThen h
    have inherits : Inherits t t₁ := by simpa [directories] using inherits_makeDirectories t path.parent
    exact .inl (inherits _ _ _ (inherits_makeLink linked _ _ _ file))
  | touch path time =>
    have h : Attempt.andThen (.ok (), t) (·.touch path time) = (.ok (), t') := h
    obtain ⟨_, ⟨⟩, touched⟩ := Attempt.exists_of_andThen h
    rcases file_of_touch founded touched file with ⟨old, -⟩ | ⟨e, node, found⟩
    · exact .inl old
    · exact .inr ⟨path, time, node, rfl, e, found⟩

/-! ## Changes that are made -/

namespace Tree

variable {t : Tree} {place : Place} {name : String}

theorem isFile_of_straight {content : List UInt8} {stamp : Stamp} (straight : t.Straight place)
    (here : t.node? place = some (.file content stamp)) : t.isFile (Path.ofPlace place) = .ok true := by
  have clean : t.takesPath (Path.ofPlace place) = true := taken_of_canonical (canonical_of_straight straight)
  rw [isFile, clean, status_of_straight straight here]
  rfl

theorem makeDirectories_of_straight (straight : t.Straight place) (here : t.isDirectoryAt place = true)
    (clean : t.takesPath (Path.ofPlace place) = true) : t.makeDirectories (Path.ofPlace place) = (.ok (), t) := by
  obtain ⟨stamp, there⟩ := isDirectoryAt_iff.1 here
  have taken : t.makeDirectory (Path.ofPlace place) = .error (.fault (.refused .taken (Path.ofPlace place))) := by
    rw [makeDirectory, reach, clean, lookUp_of_straight .keep straight, there]
    rfl
  have found : t.isDirectory (Path.ofPlace place) = .ok true := by
    rw [isDirectory, clean, status_of_straight straight there]
    rfl
  rw [makeDirectories, taken]
  simp only [orDirectory, found]

theorem write_of_missing (straight : t.Straight place) (here : t.isDirectoryAt place = true)
    (proper : t.Proper place name) (missing : t.node? (place ++ [name]) = none) (content : List UInt8) :
    t.write (Path.ofPlace (place ++ [name])) content =
      .ok (t.count.create (place ++ [name]) (.file content t.count.now)) := by
  rw [write, reach, proper.clean, lookUp_of_missing .create straight here proper missing]
  rfl

theorem touch_of_status {path : Path} {content : List UInt8} {stamp : Stamp} {time : Int}
    (clean : t.takesPath path = true) (settable : isTime time = true)
    (found : t.status path = .ok (place, .file content stamp)) :
    t.touch path time = .ok (t.put place (.file content (.set time))) := by
  rw [touch, clean, settable, found]
  rfl

/-- What is missing has no time. -/
theorem stamp_of_missing (straight : t.Straight place) (here : t.isDirectoryAt place = true)
    (proper : t.Proper place name) (missing : t.node? (place ++ [name]) = none) :
    t.stamp? (Path.ofPlace (place ++ [name])) = none := by
  rw [stamp?, status, lookUp_of_missing .follow straight here proper missing]
  rfl

end Tree

/-- A file that is missing is written, and is found with the time that was set. -/
theorem Edit.write_of_missing {t : Tree} {place : Place} {name : String} {time : Int} (founded : t.Founded)
    (straight : t.Straight place) (here : t.isDirectoryAt place = true)
    (clean : t.takesPath (Path.ofPlace place) = true) (proper : t.Proper place name)
    (missing : t.node? (place ++ [name]) = none) (content : List UInt8) (settable : isTime time = true) :
    (write (Path.ofPlace (place ++ [name])) content time).apply t =
      (.ok (), (t.count.create (place ++ [name]) (.file content t.count.now)).put (place ++ [name])
        (.file content (.set time))) := by
  have above : (Path.ofPlace (place ++ [name])).parent = Path.ofPlace place := by simp [Path.parent, Path.ofPlace]
  have made := Tree.write_of_missing straight here proper missing content
  have found := status_of_file founded (by simp) (lookUp_of_missing .create straight here proper missing)
    (sameBut_create t.count _ _) (by rw [isDirectoryAt, missing])
    (node?_create_self t.count _ (.file content t.count.now))
  have touched := touch_of_status
    ((congrFun (takesPath_of_surrogate? (t.count.surrogate?_create _ _)) _).trans proper.clean) settable found
  rw [Edit.apply, above, makeDirectories_of_straight straight here clean]
  simp only [Attempt.andThen, made, touched]

end Menu
