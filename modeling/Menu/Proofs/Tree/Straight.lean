import Menu.Tree.Edit

/-!
# Canonical paths stay as they are

A walk along a canonical path meets neither a link nor a dot, so that it leads straight to its end.

* `Tree.Straight`: the places to which a walk leads straight.
* `Tree.straight_of_walk`: the places to which any walk leads.
* `Tree.canonical_of_canonical`: a canonical path is its own canonical form.
* `Tree.status_of_straight`: the system finds there what stands there.
-/

namespace Menu.Tree

variable {t : Tree} {following : List Place} {place last : Place} {name : String} {names : List String}
  {node : Node} {path file : Path}

/-- A place with names that are no dots, and with entries under them that are found and are no links. -/
def Straight (t : Tree) (place : Place) : Prop :=
  ∀ above name, above ++ [name] <+: place →
    (name ≠ "" ∧ name ≠ "." ∧ name ≠ "..") ∧
      ∃ node, t.entry above name = .ok node ∧ ∀ target, node ≠ .link target

theorem Straight.root : t.Straight [] := by
  simp [Straight]

theorem Straight.of_prefix (straight : t.Straight place) (start : last <+: place) : t.Straight last :=
  fun above name here => straight above name (here.trans start)

theorem Straight.append (straight : t.Straight place) (named : name ≠ "" ∧ name ≠ "." ∧ name ≠ "..")
    (here : t.entry place name = .ok node) (noLink : ∀ target, node ≠ .link target) :
    t.Straight (place ++ [name]) := by
  intro above other start
  rcases List.prefix_concat_iff.1 start with same | start
  · obtain ⟨rfl, own⟩ := List.append_inj' same rfl
    cases own
    exact ⟨named, node, here, noLink⟩
  · exact straight above other start

theorem straight_of_walk (straight : t.Straight place) (h : t.walk following place names = .ok last) :
    t.Straight last := by
  fun_induction walk t following place names generalizing last with
  | case1 => cases h; exact straight
  | case2 _ _ _ _ _ ih => exact ih straight h
  | case3 _ _ _ _ ih => exact ih (straight.of_prefix (List.dropLast_prefix _)) h
  | case4 => cases h
  | case5 => cases h
  | case6 => cases h
  | case7 _ _ _ _ _ _ target _ _ _ inner ihTarget ih =>
    refine ih (ihTarget ?_ inner) h
    unfold linkStart
    split
    · exact straight
    · exact .root
  | case8 _ _ name _ spelled other node noLink found ih =>
    have named : name ≠ "" ∧ name ≠ "." ∧ name ≠ ".." :=
      ⟨fun e => spelled (.inl e), fun e => spelled (.inr e), other⟩
    exact ih (straight.append named found noLink) h

/-- A walk along the names of such a place leads to it. -/
theorem walk_of_straight (straight : t.Straight (place ++ names)) :
    t.walk following place names = .ok (place ++ names) := by
  induction names generalizing place with
  | nil => rw [walk, List.append_nil]
  | cons name rest ih =>
    have step : place ++ name :: rest = place ++ [name] ++ rest := List.append_cons place name rest
    rw [step] at straight ⊢
    obtain ⟨named, node, here, noLink⟩ := straight place name (List.prefix_append _ _)
    rw [walk_of_entry named here noLink]
    exact ih straight

theorem straight_of_canonical (h : t.canonical path = .ok file) :
    ∃ place, file = Path.ofPlace place ∧ t.Straight place := by
  unfold canonical at h
  cases walked : t.walk [] [] path.names with
  | error why => rw [walked] at h; cases h
  | ok last =>
    rw [walked] at h
    cases h
    exact ⟨last, rfl, straight_of_walk .root walked⟩

theorem canonical_of_straight (straight : t.Straight place) :
    t.canonical (Path.ofPlace place) = .ok (Path.ofPlace place) := by
  have whole : t.Straight ([] ++ place) := straight
  rw [canonical, Path.ofPlace, walk_of_straight whole]
  rfl

/-- A canonical path is its own canonical form. -/
theorem canonical_of_canonical (h : t.canonical path = .ok file) : t.canonical file = .ok file := by
  obtain ⟨place, rfl, straight⟩ := straight_of_canonical h
  exact canonical_of_straight straight

/-! ## What the system finds there -/

/-- What makes an entry be found. -/
theorem entry_iff :
    t.entry place name = .ok node ↔
      t.takes name = true ∧ isTooLong (Path.ofPlace (place ++ [name])) = false ∧ t.isDirectoryAt place = true ∧
        ¬ maxNameBytes < name.utf8ByteSize ∧ t.node? (place ++ [name]) = some node := by
  unfold entry
  dsimp only
  constructor
  · intro h
    repeat' split at h
    all_goals simp_all
  · rintro ⟨clean, short, above, brief, here⟩
    rw [if_neg (by simp [clean]), if_neg (by simp [short]), if_neg (by simp [above]), if_neg brief, here]

/-- The system goes straight on along such a place, whatever it is to find from there, if that is more than slashes. -/
theorem lookUpFrom_append (how : LastLink) (links : Nat) (straight : t.Straight (place ++ names)) {rest : List String}
    (more : rest = [] ∨ ∃ name ∈ rest, name ≠ "") :
    t.lookUpFrom how links place (names ++ rest) = t.lookUpFrom how links (place ++ names) rest := by
  induction names generalizing place with
  | nil => rw [List.nil_append, List.append_nil]
  | cons name names ih =>
    have step : place ++ name :: names = place ++ [name] ++ names := List.append_cons place name names
    rw [step] at straight ⊢
    obtain ⟨named, node, here, noLink⟩ := straight place name (by simp)
    obtain ⟨-, -, above, brief, found⟩ := entry_iff.1 here
    have ends : ¬ (how = .create ∧ names ++ rest ≠ [] ∧ (names ++ rest).all (· = "") = true) := by
      rintro ⟨-, onward, blank⟩
      rw [List.all_eq_true] at blank
      cases names with
      | nil =>
        rcases more with rfl | ⟨other, mem, spelled⟩
        · exact onward rfl
        · exact spelled (by simpa using blank other mem)
      | cons other others =>
        have spelled := (straight (place ++ [name]) other (by simp)).1.1
        exact spelled (by simpa using blank other (by simp))
    rw [List.cons_append, lookUpFrom, if_neg (by simp [above]), if_neg (not_or.2 ⟨named.1, named.2.1⟩),
      if_neg named.2.2, if_neg ends, if_neg brief, found]
    cases node with
    | link target => exact absurd rfl (noLink target)
    | _ => exact ih straight

theorem lookUpFrom_of_straight (how : LastLink) (links : Nat) (straight : t.Straight (place ++ names)) :
    t.lookUpFrom how links place names = .ok ⟨place ++ names, t.node? (place ++ names)⟩ := by
  have found := lookUpFrom_append how links straight (.inl rfl)
  rw [List.append_nil] at found
  rw [found, lookUpFrom]

theorem Straight.short (straight : t.Straight place) : isTooLong (Path.ofPlace place) = false := by
  rcases place.eq_nil_or_concat with rfl | ⟨above, name, e⟩
  · decide +kernel
  · rw [List.concat_eq_append] at e
    subst e
    obtain ⟨-, node, here, -⟩ := straight above name (List.prefix_refl _)
    exact (entry_iff.1 here).2.1

theorem lookUp_of_straight (how : LastLink) (straight : t.Straight place) :
    t.lookUp how (Path.ofPlace place) = .ok ⟨place, t.node? place⟩ := by
  have whole : t.Straight ([] ++ place) := straight
  rw [lookUp, straight.short]
  exact lookUpFrom_of_straight how maxLinks whole

/-- The system finds at a straight place what stands there. -/
theorem status_of_straight (straight : t.Straight place) (here : t.node? place = some node) :
    t.status (Path.ofPlace place) = .ok (place, node) := by
  rw [status, lookUp_of_straight .follow straight]
  simp only [here, bind, Except.bind]

theorem read_of_straight {content : List UInt8} {stamp : Stamp} (straight : t.Straight place)
    (here : t.node? place = some (.file content stamp)) : t.read (Path.ofPlace place) = .ok content := by
  rw [read, status_of_straight straight here]

/-- What is read at a straight place: the file that stands there, or nothing, since there is a directory. -/
theorem read_of_straight_cases (straight : t.Straight place) :
    (∃ content stamp, t.node? place = some (.file content stamp) ∧ t.read (Path.ofPlace place) = .ok content) ∨
      t.read (Path.ofPlace place) = .error (.refused .isDirectory (Path.ofPlace place)) := by
  obtain ⟨node, here⟩ : ∃ node, t.node? place = some node := by
    rcases place.eq_nil_or_concat with rfl | ⟨above, name, e⟩
    · exact ⟨_, if_pos rfl⟩
    · rw [List.concat_eq_append] at e
      subst e
      obtain ⟨-, node, here, -⟩ := straight above name (List.prefix_refl _)
      exact ⟨node, entry_eq_ok here⟩
  have found := status_of_straight straight here
  unfold read
  rw [found]
  cases node with
  | file content stamp => exact .inl ⟨content, stamp, here, rfl⟩
  | _ => exact .inr rfl

/-! ## What is missing there -/

/-- A name under which there may be an entry in the directory at a place. -/
structure Proper (t : Tree) (place : Place) (name : String) : Prop where
  named : name ≠ "" ∧ name ≠ "." ∧ name ≠ ".."
  clean : t.takesPath (Path.ofPlace (place ++ [name])) = true
  short : isTooLong (Path.ofPlace (place ++ [name])) = false
  brief : ¬ maxNameBytes < name.utf8ByteSize

theorem Proper.taken (proper : t.Proper place name) : t.takes name = true :=
  List.all_eq_true.1 proper.clean name (by simp [Path.ofPlace])

theorem entry_of_node (here : t.isDirectoryAt place = true) (proper : t.Proper place name)
    (there : t.node? (place ++ [name]) = some node) : t.entry place name = .ok node :=
  entry_iff.2 ⟨proper.taken, proper.short, here, proper.brief, there⟩

theorem lookUp_of_missing (how : LastLink) (straight : t.Straight place) (here : t.isDirectoryAt place = true)
    (proper : t.Proper place name) (missing : t.node? (place ++ [name]) = none) :
    t.lookUp how (Path.ofPlace (place ++ [name])) = .ok ⟨place ++ [name], none⟩ := by
  have whole : t.Straight ([] ++ place) := straight
  obtain ⟨⟨named, noDot, noDots⟩, -, short, brief⟩ := proper
  rw [lookUp, short]
  refine (lookUpFrom_append how maxLinks whole (.inr ⟨name, by simp, named⟩)).trans ?_
  rw [List.nil_append, lookUpFrom, if_neg (by simp [here]), if_neg (not_or.2 ⟨named, noDot⟩), if_neg noDots,
    if_neg (by simp), if_neg brief, missing]
  exact if_pos rfl

/-! ## What is too long -/

/-- A name that is too long is refused wherever it is looked up. -/
theorem lookUp_of_long (how : LastLink) (straight : t.Straight place) (here : t.isDirectoryAt place = true)
    (named : name ≠ "" ∧ name ≠ "." ∧ name ≠ "..") (long : maxNameBytes < name.utf8ByteSize) :
    t.lookUp how (Path.ofPlace (place ++ [name])) = .error .nameTooLong := by
  have whole : t.Straight ([] ++ place) := straight
  rw [lookUp]
  split
  · rfl
  refine (lookUpFrom_append how maxLinks whole (.inr ⟨name, by simp, named.1⟩)).trans ?_
  rw [List.nil_append, lookUpFrom, if_neg (by simp [here]), if_neg (not_or.2 ⟨named.1, named.2.1⟩), if_neg named.2.2,
    if_neg (by simp), if_pos long]

theorem entry_of_long (here : t.isDirectoryAt place = true) (taken : t.takes name = true)
    (long : maxNameBytes < name.utf8ByteSize) :
    t.entry place name = .error (.refused .nameTooLong (Path.ofPlace (place ++ [name]))) := by
  simp only [entry, taken, here, long, Bool.not_true, Bool.false_eq_true, if_false, if_true, ite_self]

theorem isFile_of_long (straight : t.Straight place) (here : t.isDirectoryAt place = true)
    (named : name ≠ "" ∧ name ≠ "." ∧ name ≠ "..") (long : maxNameBytes < name.utf8ByteSize)
    (clean : t.takesPath (Path.ofPlace (place ++ [name])) = true) :
    t.isFile (Path.ofPlace (place ++ [name])) = .error (.refused .nameTooLong (Path.ofPlace (place ++ [name]))) := by
  rw [isFile, clean, status, lookUp_of_long .follow straight here named long]
  rfl

end Menu.Tree
