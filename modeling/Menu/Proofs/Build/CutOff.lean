import Menu.Proofs.Build.Whole
import Menu.Proofs.Context.Unread

/-!
# Documents cut off behind their end

No file is read on behind a line that ends it, whatever blocks are open in it then and however it came to be open.
So a document has the same view, and fails in the same way, if any of its files are cut off behind such a line.

* `Build.step_alike`: two builds with like files do the same, and have like files afterwards.
* `Build.run_alike`: so they end with the same, and all that is seen of them is the same.
* `read_of_cutOff`: the view of a document of which files are cut off.
-/

namespace Menu

namespace Build

variable {site site' : Site} {b b' : Build} {c c' : Context} {below below' : List Context}

/-- Builds that share the same and have the same files open, but for what stands behind a line that ends one. -/
structure Alike (m : Markers) (b b' : Build) : Prop where
  stack : List.Forall₂ (Context.Alike m) b.stack b'.stack
  shared : b'.shared = b.shared

/-! ## Steps -/

/-- What is read in a file comes to the same in like files. -/
theorem reaction_alike (sites : site.Alike site') (alike : c.Alike site.markers c') (shared : Shared)
    (same : below'.length = below.length) :
    Agree (Reaction.Alike site.markers)
      (reactionTo site shared (c.readOn site.markers) below (c.reader.read site.markers).1)
      (reactionTo site' shared (c'.readOn site'.markers) below' (c'.reader.read site'.markers).1) := by
  obtain ⟨given, stream, after, still⟩ := alike.read
  rw [sites.markers, given, after, reactionTo_of_length same]
  cases read : (c.reader.read site.markers).1 with
  | ok item =>
    obtain ⟨position, d⟩ := item
    rw [reactionTo, reactionTo]
    rcases still with alike | ⟨_, ended⟩
    · exact Context.react_alike sites alike _ shared position _
    · rw [read] at ended
      cases ended
      rw [Scopes.apply_close, Scopes.apply_close]
      exact Context.close_alike _ stream shared _
  | error why =>
    cases why with
    | closed => exact .error _
    | fault why =>
      rw [reactionTo, reactionTo]
      split
      · exact .error _
      · exact .ok ⟨.inl rfl, rfl, .leave, rfl⟩

theorem settle_alike {m : Markers} {r r' : Reaction} (rest : List.Forall₂ (Context.Alike m) below below')
    (alike : r.Alike m r') : (settle below r).Alike m (settle below' r') := by
  obtain ⟨context, shared, move, -⟩ := alike
  unfold settle
  generalize r.move = moves at context move
  generalize r'.move = moves' at move
  cases move with
  | stay => exact ⟨.cons (context.resolve_left nofun) rest, shared⟩
  | leave => exact ⟨rest, shared⟩
  | enter child => exact ⟨.cons child (.cons (context.resolve_left nofun) rest), shared⟩

theorem step_alike (sites : site.Alike site') (alike : b.Alike site.markers b') :
    Agree (Alike site.markers) (b.step site).1 (b'.step site').1 ∧ (b'.step site').2 = (b.step site).2 := by
  obtain ⟨stack, shared⟩ := b
  obtain ⟨stack', shared'⟩ := b'
  obtain ⟨files, same⟩ := alike
  cases same
  cases files with
  | nil => exact ⟨.ok ⟨.nil, rfl⟩, rfl⟩
  | @cons c c' below below' top rest =>
    have reacted := reaction_alike sites top shared rest.length_eq.symm
    have seen : reading c' = reading c := by
      obtain ⟨stream, -, rfl⟩ := top
      rfl
    rw [step_cons, step_cons]
    generalize reactionTo site shared (c.readOn site.markers) below _ = answer at reacted
    generalize reactionTo site' shared (c'.readOn site'.markers) below' _ = answer' at reacted
    cases reacted with
    | error why => exact ⟨.error why, seen⟩
    | ok alike => exact ⟨.ok (settle_alike rest alike), congrArg₂ _ seen alike.events⟩

/-! ## Runs -/

theorem Alike.empty_iff {m : Markers} (alike : b.Alike m b') : b'.stack = [] ↔ b.stack = [] := by
  rw [← List.length_eq_zero_iff, ← List.length_eq_zero_iff, alike.stack.length_eq]

theorem Alike.closing {m : Markers} (alike : b.Alike m b') : b'.closing = b.closing := by
  have files := alike.stack
  unfold Build.closing
  generalize b.stack = stack at files
  generalize b'.stack = stack' at files
  induction files with
  | nil => rfl
  | cons top _ ih =>
    obtain ⟨stream, -, rfl⟩ := top
    simp only [List.reverse_cons, List.flatMap_append, ih]
    rfl

/-- Like builds end with the same, and all that is seen of them is the same. -/
theorem run_alike (sites : site.Alike site') (alike : b.Alike site.markers b') (ends : Ends site b)
    (ends' : Ends site' b') :
    Agree (Alike site.markers) (b.run site ends).1 (b'.run site' ends').1 ∧
      (b'.run site' ends').2 = (b.run site ends).2 := by
  induction (show Acc (Follows site) b from ends) generalizing b' with
  | intro b _ ih =>
    by_cases empty : b.stack = []
    · rw [run_of_nil ends empty, run_of_nil ends' (alike.empty_iff.2 empty)]
      exact ⟨.ok alike, rfl⟩
    · have more : b'.stack ≠ [] := fun none => empty (alike.empty_iff.1 none)
      obtain ⟨next, seen⟩ := step_alike sites alike
      generalize taken : b.step site = answer at next seen
      generalize taken' : b'.step site' = answer' at next seen
      obtain ⟨outcome, events⟩ := answer
      obtain ⟨outcome', events'⟩ := answer'
      cases seen
      cases next with
      | error why =>
        rw [run_of_error ends empty taken, run_of_error ends' more taken', alike.closing]
        exact ⟨.error why, rfl⟩
      | @ok next next' alike =>
        have follows : Follows site next b := ⟨empty, site.openFile, by rw [taken]⟩
        obtain ⟨done, shown⟩ := ih next follows alike (ends.next empty taken) (ends'.next more taken')
        rw [run_of_step ends empty taken, run_of_step ends' more taken', shown]
        exact ⟨done, rfl⟩

theorem start_alike {m : Markers} {stream stream' : Stream} (alike : stream.Alike m stream') (root : Path) :
    (start root stream).Alike m (start root stream') :=
  ⟨.cons ⟨stream', alike, rfl⟩ .nil, rfl⟩

end Build

/-- A document has the same view on like sites, or fails for the same reason, and the same is seen of it. -/
theorem View.read_alike {site site' : Site} (sites : site.Alike site') (path : Path) :
    View.read site' path = View.read site path := by
  have opened := sites.openDocument path
  unfold View.read
  generalize site.openDocument path = answer at opened
  generalize site'.openDocument path = answer' at opened
  cases opened with
  | error why => rfl
  | @ok document document' alike =>
    obtain ⟨file, stream⟩ := document
    obtain ⟨file', stream'⟩ := document'
    obtain ⟨same, alike⟩ := alike
    cases same
    obtain ⟨done, seen⟩ := Build.run_alike sites (Build.start_alike alike file) (Build.ends_start file stream)
      (Build.ends_start file stream')
    dsimp only
    generalize (Build.start file stream).run site (Build.ends_start file stream) = ran at done seen ⊢
    generalize (Build.start file stream').run site' (Build.ends_start file stream') = ran' at done seen ⊢
    obtain ⟨outcome, events⟩ := ran
    obtain ⟨outcome', events'⟩ := ran'
    cases seen
    cases done with
    | error why => rfl
    | ok alike => simp only [alike.shared]

/-! ## Files cut off -/

/-- Sites of which the second has some of the files cut off behind the first line that ends them. -/
structure Site.CutOff (site site' : Site) : Prop where
  home : site'.home? = site.home?
  markers : site'.markers = site.markers
  canonical : ∀ path, site'.tree.canonical path = site.tree.canonical path
  openFile : ∀ path,
    Agree (fun stream stream' => stream' = stream ∨ stream' = stream.cutOff site.markers) (site.openFile path)
      (site'.openFile path)

theorem Site.CutOff.alike {site site' : Site} (cut : site.CutOff site') : site.Alike site' := by
  refine ⟨cut.home, cut.markers, cut.canonical, fun path => ?_⟩
  have opened := cut.openFile path
  generalize site.openFile path = answer at opened
  generalize site'.openFile path = answer' at opened
  cases opened with
  | error why => exact .error why
  | ok same =>
    rcases same with rfl | rfl
    · exact .ok (.same _)
    · exact .ok (Stream.alike_cutOff site.markers _)

/-- The lines of a file in an encoding. -/
def Text.Encoding.lines (e : Text.Encoding) (content : List UInt8) : List String :=
  (linesOf (unifyBreaks (e.decode content))).map String.ofList

/-- The same file in an encoding, or the file cut off behind the first line that ends it. -/
def Markers.CutOff (m : Markers) (encoding : String) (content content' : List UInt8) : Prop :=
  content' = content ∨ ∀ e, Text.Encoding.ofName? encoding = some e →
    e.lines content' = upThrough (fun line => (m.parse line).isClose) (e.lines content)

theorem Stream.cutOff_ofLines (m : Markers) (lines : List String) :
    (ofLines lines).cutOff m = ofLines (upThrough (fun line => (m.parse line).isClose) lines) := by
  have same : ∀ lines : List String, upThrough m.ends (lines.map .ok) =
      (upThrough (fun line => (m.parse line).isClose) lines).map .ok := by
    intro lines
    induction lines with
    | nil => rfl
    | cons line rest ih =>
      rw [List.map_cons, upThrough, upThrough, Markers.ends]
      split
      · rfl
      · rw [List.map_cons, ih]
  unfold cutOff ofLines
  rcases upThrough_cases m.ends (lines.map .ok) with ⟨none, unchanged⟩ | ⟨some, -⟩
  · rw [if_neg (by simp [none]), ← same, unchanged]
  · rw [if_pos some, same]

theorem stream_of_openIn_cutOff {m : Markers} {encoding : String} {t t' : Tree} (cut : t.Alike (m.CutOff encoding) t')
    (path : Path) :
    Agree (fun stream stream' => stream' = stream ∨ stream' = stream.cutOff m) (openIn t encoding path)
      (openIn t' encoding path) := by
  have found := Tree.read_alike cut path
  unfold openIn
  split
  · exact .error _
  · generalize t.read path = answer at found
    generalize t'.read path = answer' at found
    cases found with
    | error why => exact .error _
    | ok same =>
      dsimp only
      cases named : Text.Encoding.ofName? encoding with
      | none => exact .error _
      | some e =>
        rcases same with rfl | cut
        · exact .ok (.inl rfl)
        · refine .ok (.inr ?_)
          rw [Stream.ofText, Stream.ofText, Stream.cutOff_ofLines]
          exact congrArg Stream.ofLines (cut e named)

theorem openIn_cutOff {m : Markers} {encoding : String} {home? : Option Spelling} {t t' : Tree}
    (cut : t.Alike (m.CutOff encoding) t') :
    Site.CutOff ⟨t, home?, m, openIn t encoding⟩ ⟨t', home?, m, openIn t' encoding⟩ :=
  ⟨rfl, rfl, Tree.canonical_alike cut, stream_of_openIn_cutOff cut⟩

/-- **Nothing behind the end of a file matters.**  If files are cut off behind the first line that ends them, a
document comes to the same view, or fails for the same reason, and all that is seen of its build is the same.  This
is so for a tree whose files are texts, and for files that may fail when they are opened or read. -/
theorem View.read_of_cutOff :
    (∀ site site' : Site, site.CutOff site' → ∀ path, View.read site' path = View.read site path) ∧
    ∀ (m : Markers) (encoding : String) (home? : Option Spelling) (t t' : Tree), t.Alike (m.CutOff encoding) t' →
      ∀ path, View.read ⟨t', home?, m, openIn t' encoding⟩ path = View.read ⟨t, home?, m, openIn t encoding⟩ path :=
  ⟨fun _ _ cut => View.read_alike cut.alike, fun _ _ _ _ _ cut => View.read_alike (openIn_cutOff cut).alike⟩

/-- A tree with these files in its root directory, each with its text in ASCII. -/
def Tree.holding (files : List (String × String)) : Tree where
  entries := files.map fun file => ([file.1], .file (file.2.toList.map fun c => UInt8.ofNat c.toNat) (.set 0))

/-- A document with a line behind its end, and without it. -/
theorem View.read_of_cutOff_document :
    ∃ t t' view, t = Tree.holding [("menu", "x\n#-close\ny")] ∧ t' = Tree.holding [("menu", "x\n#-close")] ∧
      t.Alike (Markers.CutOff {} "ascii") t' ∧
      (View.read ⟨t, none, {}, openIn t "ascii"⟩ ⟨.root, ["menu"]⟩).1 = .ok view ∧
      (View.read ⟨t', none, {}, openIn t' "ascii"⟩ ⟨.root, ["menu"]⟩).1 = .ok view ∧
      view.entries.map Entry.text = ["x"] := by
  have named : Text.Encoding.ofName? "ascii" = some .ascii := by decide +kernel
  have cut : (Tree.holding [("menu", "x\n#-close\ny")]).Alike (Markers.CutOff {} "ascii")
      (Tree.holding [("menu", "x\n#-close")]) := by
    refine ⟨.cons ⟨rfl, .file _ _ (.inr fun e own => ?_)⟩ .nil, rfl⟩
    rw [named] at own
    cases own
    decide +kernel
  have found : (Tree.holding [("menu", "x\n#-close\ny")]).canonical ⟨.root, ["menu"]⟩ = .ok ⟨.root, ["menu"]⟩ := by
    have entry : (Tree.holding [("menu", "x\n#-close\ny")]).entry [] "menu" = .ok (.file _ _) := rfl
    rw [Tree.canonical, Tree.walk_of_entry (by decide) entry (by simp), Tree.walk]
    rfl
  have content : (Tree.holding [("menu", "x\n#-close\ny")]).read ⟨.root, ["menu"]⟩ =
      .ok ("x\n#-close\ny".toList.map fun c => UInt8.ofNat c.toNat) := by
    rw [Tree.read, Tree.status, Tree.lookUp, if_neg (by decide +kernel)]
    simp [Tree.lookUpFrom]
    rfl
  have opened : openIn (Tree.holding [("menu", "x\n#-close\ny")]) "ascii" ⟨.root, ["menu"]⟩ =
      .ok (.ofLines ["x", "#-close", "y"]) := by
    rw [openIn, if_neg (by decide +kernel), content, named]
    rfl
  have document : Site.openDocument ⟨Tree.holding [("menu", "x\n#-close\ny")], none, {},
      openIn (Tree.holding [("menu", "x\n#-close\ny")]) "ascii"⟩ ⟨.root, ["menu"]⟩ =
      .ok (⟨.root, ["menu"]⟩, .ofLines ["x", "#-close", "y"]) := by
    rw [Site.openDocument, found]
    simp only [opened]
  have leads : Build.Leads ⟨Tree.holding [("menu", "x\n#-close\ny")], none, {},
      openIn (Tree.holding [("menu", "x\n#-close\ny")]) "ascii"⟩
      (Build.start ⟨.root, ["menu"]⟩ (.ofLines ["x", "#-close", "y"])) _ ⟨[], _⟩ :=
    .step trivial rfl (.single trivial rfl)
  have built := View.read_ok_iff.2 ⟨_, _, _, _, document, leads, rfl, rfl⟩
  refine ⟨_, _, _, rfl, rfl, cut, built, ?_, rfl⟩
  rw [View.read_of_cutOff.2 {} "ascii" none _ _ cut]
  exact built

end Menu
