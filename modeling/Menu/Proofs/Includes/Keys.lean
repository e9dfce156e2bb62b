import Menu.Proofs.Includes.Sources
import Menu.Proofs.Tree.Spellings

/-!
# One key for each file

A build knows a file by its canonical path: this is what it looks up when it asks whether the file was taken in
before, and what a view is built from anew.  The canonical path is a key that does not depend on how a target spells
the file, on the directory it is seen from, or on how often it was resolved.

* `Site.resolve_text`: the text of a canonical path is resolved to this path from everywhere.
* `View.reload_eq_read`: a view that is built anew is the view that it was.
* `Site.keys_settled`: both, and that each file has one key under all its spellings.
-/

namespace Menu

namespace Site

variable {s : Site} {target : String} {path file : Path} {place : Place}

/-- What a target stands for is a spelling. -/
theorem exists_spelling (h : s.expand? target = some path) : ∃ spelling : Spelling, spelling.toPath = path := by
  unfold expand? at h
  split at h
  · cases h; exact ⟨Path.spelling _, rfl⟩
  · split at h
    · cases h; exact ⟨Path.spelling _, rfl⟩
    · rename_i rest _ _ _
      obtain ⟨home, -, rfl⟩ := Option.map_eq_some_iff.1 h
      exact ⟨⟨_, fun _ => Path.slash_not_mem_of_mem_join (b := Path.spelling (String.ofList rest))⟩, rfl⟩

/-- The text of a place stands for this place, and not for one in the home directory. -/
theorem expand?_text (spelled : Path.ofText (Path.ofPlace place).text = .ofPlace place) :
    s.expand? (Path.ofPlace place).text = some (.ofPlace place) := by
  have rooted : afterTilde? (Path.ofPlace place).text.toList = none := by
    rw [Path.toList_text_ofPlace]
    rfl
  rw [expand?, rooted, spelled]

/-- The text of a canonical path is resolved to this path from everywhere. -/
theorem resolve_text {directory : Spelling} (h : s.resolve target directory.toPath = .ok file) (elsewhere : Path) :
    s.resolve file.text elsewhere = .ok file := by
  obtain ⟨path, expanded, canonical⟩ := resolve_ok_iff.1 h
  obtain ⟨spelling, rfl⟩ := exists_spelling expanded
  obtain ⟨place, rfl, straight⟩ := Tree.straight_of_canonical canonical
  have unslashed : ∀ name ∈ place, '/' ∉ name.toList :=
    Tree.unslashed_of_canonical (fun _ mem => Path.slash_not_mem_of_mem_join mem) canonical
  have spelled : Path.ofText (Path.ofPlace place).text = .ofPlace place :=
    Path.ofText_text (fun name mem => straight.named mem) unslashed
  refine resolve_ok_iff.2 ⟨_, expand?_text spelled, ?_⟩
  rw [Path.join_of_anchor (by simp [Path.ofPlace])]
  exact Tree.canonical_of_straight straight

end Site

/-- A view that is built anew on the same site is the view that it was, and all that is seen of it is the same. -/
theorem View.reload_eq_read {s : Site} {path : Path} {view : View} (built : (read s path).1 = .ok view) :
    view.reload s = read s path := by
  obtain ⟨root, stream, events, last, opened, leads, ended, rfl⟩ := read_ok_iff.1 built
  obtain ⟨canonical, given⟩ := Site.openDocument_ok_iff.1 opened
  have again : s.openDocument root = .ok (root, stream) :=
    Site.openDocument_ok_iff.2 ⟨Tree.canonical_of_canonical canonical, given⟩
  rw [read_of_leads opened leads ended]
  exact read_of_leads again leads ended

/-- **Each file has one key.**  Whatever a target is spelled like, and wherever it is seen from, the text of its
canonical path is resolved to this path from everywhere, and if the system finds anything under the spelling, the
canonical path is the place where it is found.  What a path leads to from another depends on the canonical form of
that one alone.  So a view that is built anew on the same site is the view that it was. -/
theorem Site.keys_settled (s : Site) :
    (∀ target (directory : Spelling) file, s.resolve target directory.toPath = .ok file →
      (∀ elsewhere, s.resolve file.text elsewhere = .ok file) ∧
      ∀ path place node, s.expand? target = some path →
        s.tree.status (directory.toPath.join path) = .ok (place, node) → file = .ofPlace place) ∧
    (∀ a p, s.tree.canonical a = .ok p → ∀ b, s.tree.canonical (a.join b) = s.tree.canonical (p.join b)) ∧
    ∀ path view, (View.read s path).1 = .ok view → view.reload s = View.read s path := by
  refine ⟨fun target directory file resolved => ⟨resolve_text resolved, ?_⟩,
    fun a p h b => Tree.canonical_join h b, fun path view built => View.reload_eq_read built⟩
  intro path place node expanded found
  obtain ⟨path', expanded', canonical⟩ := resolve_ok_iff.1 resolved
  cases expanded.symm.trans expanded'
  exact Tree.place_of_status canonical found

/-- A site whose home directory is a link to the directory of a document, which includes another file from there. -/
def Site.linked : Site :=
  { Site.holding [("menu", ["#-import ~/.//more", "own"]), ("more", ["included"])] with
    tree := { entries := [(["d"], .directory (.set 0)), (["d", "menu"], .file [] (.set 0)),
      (["d", "more"], .file [] (.set 0)), (["l"], .link "/d/.")] }
    home? := some ⟨⟨.root, ["l"]⟩, by decide +kernel⟩ }

theorem Site.entries_linked :
    linked.tree.entry [] "l" = .ok (.link "/d/.") ∧ linked.tree.entry [] "d" = .ok (.directory (.set 0)) ∧
      linked.tree.entry ["d"] "menu" = .ok (.file [] (.set 0)) ∧
      linked.tree.entry ["d"] "more" = .ok (.file [] (.set 0)) := by
  decide +kernel

/-- The link leads to the directory. -/
theorem Site.walk_linked (rest : List String) :
    linked.tree.walk [] [] ("l" :: rest) = linked.tree.walk [] ["d"] rest := by
  obtain ⟨link, folder, -, -⟩ := entries_linked
  have cut : Path.pieces "/d/." = ["", "d", "."] := by decide +kernel
  have start : Tree.linkStart [] "/d/." = [] := by decide +kernel
  have target : linked.tree.walk [["l"]] [] ["", "d", "."] = .ok ["d"] := by
    rw [Tree.walk, if_pos (.inl rfl), Tree.walk_of_entry (by decide) folder (by simp), Tree.walk, if_pos (.inr rfl),
      Tree.walk]
    rfl
  rw [Tree.walk_of_link (by decide) (by decide) link, if_neg List.not_mem_nil, cut, start,
    List.nil_append, target]

/-- A file of the directory is found under the link. -/
theorem Site.canonical_linked {name : String} (named : name ≠ "" ∧ name ≠ "." ∧ name ≠ "..")
    (entry : linked.tree.entry ["d"] name = .ok (.file [] (.set 0))) :
    linked.tree.canonical ⟨.root, ["l", name]⟩ = .ok (.ofPlace ["d", name]) := by
  rw [Tree.canonical, walk_linked, Tree.walk_of_entry named entry (by simp), Tree.walk]
  rfl

/-- The system finds it there, too. -/
theorem Site.status_linked :
    linked.tree.status ⟨.root, ["l", "more"]⟩ = .ok (["d", "more"], .file [] (.set 0)) := by
  have nodes : linked.tree.node? ["l"] = some (.link "/d/.") ∧ linked.tree.node? ["d"] = some (.directory (.set 0)) ∧
      linked.tree.node? ["d", "more"] = some (.file [] (.set 0)) ∧ linked.tree.isDirectoryAt [] ∧
      linked.tree.isDirectoryAt ["d"] := by
    decide +kernel
  have short : Tree.isTooLong ⟨.root, ["l", "more"]⟩ = false ∧ ∀ name ∈ ["l", "d", "more"],
      ¬ Tree.maxNameBytes < name.utf8ByteSize := by
    decide +kernel
  have target : Path.pieces "/d/." = ["", "d", "."] ∧ Path.anchorOf "/d/.".toList = .root := by
    decide +kernel
  refine Tree.status_of_lookUp ?_
  rw [Tree.lookUp, short.1]
  simp [Tree.lookUpFrom, Tree.maxLinks, Tree.linkStart, Path.ofText, nodes, short.2, target]

/-- A document that includes a file, spelled with the home directory, a link, a dot and a slash too many: it has the
key of its place, and the document is built anew with the line of the other. -/
theorem Site.keys_settled_of_link :
    ∃ file view,
      Site.linked.resolve "~/.//more" ⟨.root, ["d"]⟩ = .ok file ∧
      Site.linked.resolve file.text ⟨.here, []⟩ = .ok file ∧
      Site.linked.tree.status ⟨.root, ["l", "more"]⟩ = .ok (["d", "more"], .file [] (.set 0)) ∧
      file = .ofPlace ["d", "more"] ∧
      Site.linked.tree.canonical (Path.join ⟨.root, ["l"]⟩ ⟨.here, ["menu"]⟩) =
        Site.linked.tree.canonical (Path.join ⟨.root, ["d"]⟩ ⟨.here, ["menu"]⟩) ∧
      (View.read .linked ⟨.root, ["l", "menu"]⟩).1 = .ok view ∧
      view.sources = [.ofPlace ["d", "menu"], file] ∧ view.entries.map Entry.text = ["included", "own"] ∧
      view.reload .linked = View.read .linked ⟨.root, ["l", "menu"]⟩ := by
  obtain ⟨-, -, menu, more⟩ := entries_linked
  have expanded : Site.linked.expand? "~/.//more" = some ⟨.root, ["l", "more"]⟩ := by decide +kernel
  have folder : Site.linked.tree.canonical ⟨.root, ["l"]⟩ = .ok ⟨.root, ["d"]⟩ := by
    rw [Tree.canonical, walk_linked, Tree.walk]
    rfl
  have resolved : Site.linked.resolve "~/.//more" ⟨.root, ["d"]⟩ = .ok (.ofPlace ["d", "more"]) :=
    resolve_ok_iff.2 ⟨_, expanded, canonical_linked (by decide) more⟩
  have opened : Site.linked.openDocument ⟨.root, ["l", "menu"]⟩ =
      .ok (.ofPlace ["d", "menu"], .ofLines ["#-import ~/.//more", "own"]) :=
    openDocument_ok_iff.2 ⟨canonical_linked (by decide) menu, rfl⟩
  have entered : (Build.start (.ofPlace ["d", "menu"]) (.ofLines ["#-import ~/.//more", "own"])).step .linked = _ :=
    Build.step_of_opened rfl rfl resolved (by decide +kernel) rfl
  have built := View.read_of_leads opened
    (.step trivial entered (.step trivial rfl (.step trivial rfl (.step trivial rfl (.step trivial rfl (.refl _))))))
    rfl
  obtain ⟨targets, prefixes, anew⟩ := keys_settled .linked
  obtain ⟨fixed, key⟩ := targets "~/.//more" (Path.spelling "/d") _ resolved
  exact ⟨_, _, resolved, fixed _, status_linked, key _ _ _ expanded status_linked, prefixes _ _ folder _,
    congrArg Prod.fst built, rfl, rfl, anew _ _ (congrArg Prod.fst built)⟩

end Menu
