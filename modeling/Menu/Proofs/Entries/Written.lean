import Menu.Proofs.Blocks.Choice
import Menu.Proofs.Build.Whole
import Menu.Proofs.Context.Commands
import Menu.Proofs.Directive.Quoted
import Menu.Proofs.Text.Utf8
import Menu.Proofs.Tree.Straight

/-!
# Entries that are written down

Any entries can be written down as a document, and are read back from it.  A draft of an entry has the arguments of
its command in the order in which they are written; the arguments before the text and those behind it may be mixed.
All texts are written in quotes, so that they may consist of anything but line breaks.

* `Draft.lines` and `Draft.document`: how drafts are written.
* `parse_line`: what their lines mean.
* `lines_drafts`: what they come to on a page.
* `View.read_of_document`: what a document of drafts comes to.
-/

namespace Menu

/-! ## Writing -/

/-- A text that stands on one line. -/
def OneLine (s : String) : Prop :=
  '\n' ∉ s.toList ∧ '\r' ∉ s.toList

instance (s : String) : Decidable (OneLine s) :=
  inferInstanceAs (Decidable (_ ∧ _))

/-- An entry to write down. -/
structure Draft where
  text : String
  command : Template
  /-- The arguments of the command in the order in which they are written. -/
  order : List Argument
  before_eq : order.filterMap Argument.before? = command.before
  after_eq : order.filterMap Argument.after? = command.after
  oneLine : ∀ s ∈ text :: (command.before ++ command.after), OneLine s

/-- A line with a keyword and a payload in quotes. -/
def quotedLine (word payload : String) : String :=
  String.ofList ('#' :: '-' :: (word.toList ++ ' ' :: quotedPayload payload))

/-- The line that gives an argument. -/
def Argument.line : Argument → String
  | before arg => quotedLine "pre" arg
  | after arg => quotedLine "suf" arg

namespace Draft

/-- The lines of an entry, its text in the last one. -/
def lines (d : Draft) : List String :=
  "#-clean" :: d.order.map Argument.line ++ [quotedLine "text" d.text]

/-- The document with these entries. -/
def document (drafts : List Draft) : String :=
  String.ofList ((drafts.flatMap lines).flatMap fun line => line.toList ++ ['\n'])

/-- The entries that drafts stand for in a file, behind a number of lines: each comes from the last of its lines. -/
def entries (file : Path) (position : Int) : List Draft → List Entry
  | [] => []
  | d :: rest =>
    ⟨d.text, file, position + d.lines.length, .normal, d.command⟩ :: entries file (position + d.lines.length) rest

theorem command_eq (d : Draft) : d.command = .ofArguments d.order := by
  rw [Template.ofArguments, d.before_eq, d.after_eq]

end Draft

/-! ## Lines -/

theorem parse_quotedLine {word : String} (whole : word.toList.all (!Text.isBlank ·) = true) (some : word ≠ "")
    (payload : String) : Markers.parse {} (quotedLine word payload) = .ofKeyword word (.some payload) := by
  have letters : word.toList ≠ [] := fun e => some (String.toList_eq_nil_iff.1 e)
  have solid : ∀ c ∈ word.toList, Text.isBlank c = false := by simpa using whole
  rw [Markers.parse, quotedLine, String.toList_ofList]
  have read := Markers.parse_quoted {} solid letters payload
  rw [String.ofList_toList] at read
  exact read

/-- The directive that gives an argument. -/
def Argument.directive : Argument → Directive
  | before arg => .before arg
  | after arg => .after arg

/-- The line of an argument gives the argument. -/
theorem parse_argument (a : Argument) : Markers.parse {} a.line = a.directive := by
  cases a with
  | before arg =>
    have read : Markers.parse {} (quotedLine "pre" arg) = .before arg := parse_quotedLine (by decide) (by decide) arg
    exact read
  | after arg =>
    have read : Markers.parse {} (quotedLine "suf" arg) = .after arg := parse_quotedLine (by decide) (by decide) arg
    exact read

theorem parse_text (text : String) : Markers.parse {} (quotedLine "text" text) = .text text :=
  parse_quotedLine (by decide) (by decide) text

theorem parse_clean : Markers.parse {} "#-clean" = .clean := rfl

theorem Draft.isPlain_lines (d : Draft) : ∀ line ∈ d.lines, (Markers.parse {} line).isPlain = true := by
  rw [lines]
  refine List.forall_mem_append.2 ⟨List.forall_mem_cons.2 ⟨rfl, fun line mem => ?_⟩, List.forall_mem_singleton.2 ?_⟩
  · obtain ⟨a, -, rfl⟩ := List.mem_map.1 mem
    rw [parse_argument]
    cases a <;> rfl
  · rw [parse_text]
    rfl

/-! ## The page of drafts -/

namespace Page

variable {site : Site} {shared : Shared} {c : Context} {withhold : Bool} {p : Page}

theorem lines_append (position : Int) (xs ys : List String) :
    p.lines site shared c withhold position (xs ++ ys) =
      (p.lines site shared c withhold position xs).lines site shared c withhold (position + xs.length) ys := by
  induction xs generalizing p position with
  | nil => simp [lines]
  | cons x xs ih =>
    rw [List.cons_append, lines, lines, ih, List.length_cons]
    congr 1
    push_cast
    omega

/-- The lines of arguments give them to the command of the page. -/
theorem lines_arguments (markers : site.markers = {}) (position : Int) {done : List Argument}
    (held : p.cells.Holds p.cell) (command : p.cells.get p.cell = .ofArguments done) (args : List Argument) :
    ∃ cells, p.lines site shared c withhold position (args.map Argument.line) = { p with cells } ∧
      cells.get p.cell = .ofArguments (done ++ args) := by
  induction args generalizing p position done with
  | nil => exact ⟨p.cells, rfl, by rw [command, List.append_nil]⟩
  | cons a args ih =>
    have given : p.perform site shared c withhold (position + 1) (site.markers.parse a.line) =
        { p with cells := p.cells.modify p.cell a.addTo } := by
      rw [markers, parse_argument]
      cases a <;> rfl
    have holds : (p.cells.modify p.cell a.addTo).Holds p.cell := by
      unfold Pool.Holds Pool.modify
      rw [List.length_modify]
      exact held
    have now : (p.cells.modify p.cell a.addTo).get p.cell = .ofArguments (done ++ [a]) := by
      rw [Pool.get_modify_self _ held, command, Template.ofArguments_concat]
    obtain ⟨cells, rest, last⟩ := ih (p := { p with cells := p.cells.modify p.cell a.addTo }) (position + 1) holds now
    refine ⟨cells, ?_, ?_⟩
    · rw [List.map_cons, lines, given, rest]
    · rw [last, List.append_assoc, List.singleton_append]

/-- The page after `#-clean`. -/
def cleaned (p : Page) : Page :=
  { p with cells := (p.cells.add {}).1, cell := (p.cells.add {}).2 }

theorem holds_cleaned (p : Page) : p.cleaned.cells.Holds p.cleaned.cell := by
  simp [cleaned, Pool.Holds, Pool.add]

variable (shared c withhold p) in
/-- The lines of a draft add its entry. -/
theorem lines_draft (markers : site.markers = {}) (position : Int) (d : Draft) :
    ∃ cells cell, p.lines site shared c withhold position d.lines =
      { p with
        cells, cell
        entries := p.entries ++ [⟨d.text, c.path, position + d.lines.length, .normal, d.command⟩] } := by
  have whole : d.lines = "#-clean" :: (d.order.map Argument.line ++ [quotedLine "text" d.text]) := by
    simp [Draft.lines]
  have clean : p.perform site shared c withhold (position + 1) (site.markers.parse "#-clean") = p.cleaned := by
    rw [markers, parse_clean]
    rfl
  have empty : p.cleaned.cells.get p.cleaned.cell = .ofArguments [] := Pool.get_add_self _ _
  obtain ⟨cells, given, command⟩ : ∃ cells,
      p.cleaned.lines site shared c withhold (position + 1) (d.order.map Argument.line) = { p.cleaned with cells } ∧
        cells.get p.cleaned.cell = .ofArguments ([] ++ d.order) :=
    lines_arguments markers (position + 1) p.holds_cleaned empty d.order
  have number : position + 1 + (d.order.length : Int) + 1 = position + d.lines.length := by
    rw [whole, List.length_cons, List.length_append, List.length_map, List.length_singleton]
    push_cast
    omega
  refine ⟨cells, p.cleaned.cell, ?_⟩
  rw [whole, lines, clean, lines_append, given, List.length_map, lines, lines, markers, parse_text, number, ← whole,
    d.command_eq, ← List.nil_append d.order, ← command]
  rfl

variable (shared c withhold p) in
/-- The lines of drafts add their entries. -/
theorem lines_drafts (markers : site.markers = {}) (position : Int) (drafts : List Draft) :
    ∃ cells cell, p.lines site shared c withhold position (drafts.flatMap Draft.lines) =
      { p with cells, cell, entries := p.entries ++ Draft.entries c.path position drafts } := by
  induction drafts generalizing p position with
  | nil => exact ⟨p.cells, p.cell, by simp [lines, Draft.entries]⟩
  | cons d rest ih =>
    obtain ⟨cells, cell, first⟩ := lines_draft shared c withhold p markers position d
    obtain ⟨cells', cell', others⟩ := ih
      { p with
        cells, cell
        entries := p.entries ++ [⟨d.text, c.path, position + d.lines.length, .normal, d.command⟩] }
      (position + d.lines.length)
    refine ⟨cells', cell', ?_⟩
    rw [List.flatMap_cons, lines_append, first, others, Draft.entries, List.append_assoc, List.singleton_append]

end Page

/-! ## The document of drafts -/

namespace Text

/-- Lines without line feeds are the lines of the text that has them one after the other. -/
theorem linesOf_flatMap {lines : List (List Char)} (whole : ∀ line ∈ lines, '\n' ∉ line) :
    linesOf (lines.flatMap (· ++ ['\n'])) = lines := by
  induction lines with
  | nil => rfl
  | cons line rest ih =>
    obtain ⟨first, others⟩ := List.forall_mem_cons.1 whole
    rw [List.flatMap_cons, List.append_assoc, List.singleton_append, linesOf_append_break line _ first, ih others]

theorem unifyBreaks_of_not_mem {cs : List Char} (plain : '\r' ∉ cs) : unifyBreaks cs = cs := by
  fun_induction unifyBreaks cs with
  | case1 => rfl
  | case2 => simp at plain
  | case3 c rest _ ih =>
    obtain ⟨first, others⟩ := not_or.1 fun h => plain (List.mem_cons.2 h)
    rw [ih others, if_neg fun e => first e.symm]

end Text

theorem oneLine_quotedLine {word payload : String} (first : OneLine word) (second : OneLine payload) :
    OneLine (quotedLine word payload) := by
  unfold OneLine quotedLine quotedPayload at *
  simp_all

namespace Draft

theorem oneLine_lines (d : Draft) : ∀ line ∈ d.lines, OneLine line := by
  obtain ⟨text, arguments⟩ := List.forall_mem_cons.1 d.oneLine
  obtain ⟨before, after⟩ := List.forall_mem_append.1 arguments
  rw [lines]
  refine List.forall_mem_append.2 ⟨List.forall_mem_cons.2 ⟨by decide, fun line mem => ?_⟩,
    List.forall_mem_singleton.2 (oneLine_quotedLine (by decide) text)⟩
  obtain ⟨a, ordered, rfl⟩ := List.mem_map.1 mem
  cases a with
  | before arg =>
    refine oneLine_quotedLine (by decide) (before arg ?_)
    rw [← d.before_eq]
    exact List.mem_filterMap.2 ⟨_, ordered, rfl⟩
  | after arg =>
    refine oneLine_quotedLine (by decide) (after arg ?_)
    rw [← d.after_eq]
    exact List.mem_filterMap.2 ⟨_, ordered, rfl⟩

/-- A document of drafts is opened as their lines. -/
theorem stream_document (drafts : List Draft) :
    Stream.ofText (Text.unifyBreaks (document drafts).toList) = .ofLines (drafts.flatMap lines) := by
  have oneLine : ∀ line ∈ (drafts.flatMap lines).map String.toList, '\n' ∉ line ∧ '\r' ∉ line := by
    intro line mem
    obtain ⟨s, written, rfl⟩ := List.mem_map.1 mem
    obtain ⟨d, -, own⟩ := List.mem_flatMap.1 written
    exact d.oneLine_lines s own
  have whole : (document drafts).toList = ((drafts.flatMap lines).map String.toList).flatMap (· ++ ['\n']) := by
    rw [document, String.toList_ofList, List.flatMap_map]
  have plain : '\r' ∉ (document drafts).toList := by
    rw [whole]
    intro mem
    obtain ⟨line, written, held⟩ := List.mem_flatMap.1 mem
    rcases List.mem_append.1 held with held | held
    · exact (oneLine line written).2 held
    · exact absurd (List.mem_singleton.1 held) (by decide)
  rw [Text.unifyBreaks_of_not_mem plain, Stream.ofText, whole,
    Text.linesOf_flatMap fun line mem => (oneLine line mem).1, List.map_map]
  congr 1
  exact (List.map_congr_left fun _ _ => String.ofList_toList).trans (List.map_id _)

end Draft

namespace Build

variable {site : Site} {c : Context} {below : List Context} {shared : Shared} {root : Path}

/-- The end of a file that has no watch. -/
theorem step_at_end (site : Site) (below : List Context) (shared : Shared)
    (stream : c.reader.stream = ⟨[], none⟩) (unclosed : c.reader.closed = false) (idle : c.reader.pending = [])
    (before : c.reader.atEnd = false) (asleep : c.watch = {}) :
    ∃ events, step site ⟨c :: below, shared⟩ = (.ok ⟨below, shared⟩, events) ∧ entriesOf events = [] := by
  obtain ⟨path, number, isRoot, ⟨reads, position, pending, atEnd, closed⟩, cell, lineage, scopes, watch⟩ := c
  cases stream
  cases unclosed
  cases idle
  cases before
  cases asleep
  refine ⟨_, step_of_react rfl (by rw [Scopes.apply_close]; rfl), ?_⟩
  rfl

/-- A document of drafts is read to its end, and shows their entries. -/
theorem leads_of_drafts (markers : site.markers = {}) (root : Path) (drafts : List Draft) :
    ∃ events last, Leads site (start root (.ofLines (drafts.flatMap Draft.lines))) events last ∧ last.stack = [] ∧
      last.shared.title = none ∧ last.shared.sources = [root] ∧
      entriesOf events = Draft.entries root 0 drafts := by
  let c : Context :=
    ⟨root, 0, true, { stream := .ofLines (drafts.flatMap Draft.lines) }, 0, 0, [], {}⟩
  let shared := (start root (.ofLines (drafts.flatMap Draft.lines))).shared
  let begun : Milestone := ⟨0, [], false, c.page shared⟩
  have simple : ∀ line ∈ drafts.flatMap Draft.lines, Simple site c.directory (site.markers.parse line) := by
    intro line mem
    obtain ⟨d, -, own⟩ := List.mem_flatMap.1 mem
    rw [markers]
    exact .plain (d.isPlain_lines line own)
  have reads : Reads site c [] shared (drafts.flatMap Draft.lines) begun (after site shared c begun _) :=
    reads_lines Scopes.lets_nil fun line mem => .inl (simple line mem)
  obtain ⟨cells, cell, page⟩ := Page.lines_drafts shared c false (c.page shared) markers 0 drafts
  obtain ⟨seen, leads, shown⟩ := reads.leads c.reader [] rfl rfl ⟨rfl, rfl, (List.append_nil _).symm⟩
  have written : (after site shared c begun (drafts.flatMap Draft.lines)).page =
      { c.page shared with cells, cell, entries := Draft.entries root 0 drafts } := page
  rw [written] at shown
  obtain ⟨events, closes, quiet⟩ := step_at_end (c := (after site shared c begun (drafts.flatMap Draft.lines)).context c
    (c.reader.past (drafts.flatMap Draft.lines) [])) site []
    ((after site shared c begun (drafts.flatMap Draft.lines)).shared shared) rfl rfl rfl rfl rfl
  refine ⟨seen ++ events, _, leads.trans (.single trivial closes), rfl, ?_, rfl, ?_⟩
  · show (after site shared c begun (drafts.flatMap Draft.lines)).page.title = none
    rw [written]
    rfl
  · rw [entriesOf_append, quiet, List.append_nil]
    exact shown.symm.trans (List.nil_append _)

end Build

/-! ## What is read back -/

namespace Draft

/-- What an entry of a document has of the draft that it was written from. -/
structure ReadAs (document : List String) (file : Path) (d : Draft) (e : Entry) : Prop where
  text : e.text = d.text
  source : e.source = file
  kind : e.kind = .normal
  command : e.command = d.command
  positive : 0 < e.position
  line : document[e.position.toNat - 1]? = some (quotedLine "text" d.text)
  invocation : e.invocation? =
    if d.command.before = [] ∧ d.command.after = [] then none
    else some ⟨d.command.before ++ [d.text] ++ d.command.after, e.position, file⟩

theorem readAs (before after : List String) (file : Path) (d : Draft) :
    d.ReadAs (before ++ (d.lines ++ after)) file
      ⟨d.text, file, (before.length + d.lines.length : Nat), .normal, d.command⟩ where
  text := rfl
  source := rfl
  kind := rfl
  command := rfl
  positive := by
    have some : 0 < d.lines.length := by simp [lines]
    exact Int.natCast_pos.2 (Nat.add_pos_right before.length some)
  line := by
    have split : before ++ (d.lines ++ after) =
        (before ++ "#-clean" :: d.order.map Argument.line) ++ quotedLine "text" d.text :: after := by
      simp [lines]
    have number : (before.length + d.lines.length : Nat) - 1 =
        (before ++ "#-clean" :: d.order.map Argument.line).length := by
      simp [lines]
    show (before ++ (d.lines ++ after))[((before.length + d.lines.length : Nat) : Int).toNat - 1]? = _
    rw [Int.toNat_natCast, number, split, List.getElem?_append_right (Nat.le_refl _), Nat.sub_self]
    rfl
  invocation := by
    obtain ⟨text, ⟨first, last⟩, order, before_eq, after_eq, oneLine⟩ := d
    cases first <;> cases last <;> simp [Entry.invocation?, Entry.hasCommand, Template.isEmpty, Template.args]

theorem readAs_entries (before : List String) (file : Path) (drafts : List Draft) :
    List.Forall₂ (ReadAs (before ++ drafts.flatMap lines) file) drafts (entries file before.length drafts) := by
  induction drafts generalizing before with
  | nil => exact .nil
  | cons d rest ih =>
    have onward := ih (before ++ d.lines)
    rw [List.append_assoc, List.length_append] at onward
    rw [List.flatMap_cons, entries]
    refine .cons ?_ ?_
    · exact_mod_cast readAs before (rest.flatMap lines) file d
    · exact_mod_cast onward

end Draft

namespace View

/-- **Any entries can be written down and read back.**  A document of drafts comes to one entry for each draft, in
their order: with its text, with the number of the line that has its text, and with a command that has its arguments
before the text and behind it, or with none if there are no arguments.  The texts may be empty or blank, and may hold
quotes and markers.  This is so for every site that opens the document, and for a tree that has it in UTF-8. -/
theorem read_of_document (drafts : List Draft) :
    (∀ (site : Site) (path root : Path), site.markers = {} →
      site.openDocument path = .ok (root, .ofText (Text.unifyBreaks (Draft.document drafts).toList)) →
      (read site path).1 = .ok ⟨root, root.text, Draft.entries root 0 drafts, [root]⟩) ∧
    (∀ (tree : Tree) (home? : Option Spelling) (path root : Path), tree.canonical path = .ok root →
      tree.read root = .ok (Draft.document drafts).toUTF8.data.toList →
      (read ⟨tree, home?, {}, openIn tree "utf-8"⟩ path).1 =
        .ok ⟨root, root.text, Draft.entries root 0 drafts, [root]⟩) ∧
    ∀ root, List.Forall₂ (Draft.ReadAs (drafts.flatMap Draft.lines) root) drafts (Draft.entries root 0 drafts) := by
  have sites : ∀ (site : Site) (path root : Path), site.markers = {} →
      site.openDocument path = .ok (root, .ofText (Text.unifyBreaks (Draft.document drafts).toList)) →
      (read site path).1 = .ok ⟨root, root.text, Draft.entries root 0 drafts, [root]⟩ := by
    intro site path root markers opened
    rw [Draft.stream_document] at opened
    obtain ⟨events, last, leads, ended, title, sources, shown⟩ := Build.leads_of_drafts markers root drafts
    refine read_ok_iff.2 ⟨root, _, events, last, opened, leads, ended, ?_⟩
    rw [ofBuild, title, sources, shown]
    rfl
  refine ⟨sites, fun tree home? path root found content => sites _ path root rfl ?_,
    fun root => Draft.readAs_entries [] root drafts⟩
  have opened : openIn tree "utf-8" root = .ok (.ofText (Text.unifyBreaks (Draft.document drafts).toList)) := by
    have named : Text.Encoding.ofName? "utf-8" = some .utf8 := by decide +kernel
    rw [openIn, if_neg (by decide), content, named]
    simp only [Text.decode_toUTF8]
  rw [Site.openDocument]
  simp only [found, opened]

/-- Texts with quotes, blanks and markers at their ends, and an empty one. -/
theorem read_of_document_of_quotes :
    ∃ (drafts : List Draft) (tree : Tree),
      drafts.flatMap Draft.lines =
        ["#-clean", "#-pre \"\"", "#-suf \" \"", "#-pre \"\"a\"\"", "#-text \"#-close \"", "#-clean", "#-text \"\""] ∧
      (read ⟨tree, none, {}, openIn tree "utf-8"⟩ ⟨.root, ["menu"]⟩).1 =
        .ok ⟨⟨.root, ["menu"]⟩, "/menu",
          [⟨"#-close ", ⟨.root, ["menu"]⟩, 5, .normal, ⟨["", "\"a\""], [" "]⟩⟩, ⟨"", ⟨.root, ["menu"]⟩, 7, .normal, {}⟩],
          [⟨.root, ["menu"]⟩]⟩ := by
  let first : Draft := ⟨"#-close ", ⟨["", "\"a\""], [" "]⟩, [.before "", .after " ", .before "\"a\""], rfl, rfl, by decide⟩
  let second : Draft := ⟨"", {}, [], rfl, rfl, by decide⟩
  let tree : Tree := { entries := [(["menu"], .file (Draft.document [first, second]).toUTF8.data.toList (.set 0))] }
  have here : tree.entry [] "menu" = .ok (.file (Draft.document [first, second]).toUTF8.data.toList (.set 0)) := rfl
  have straight : tree.Straight ["menu"] := Tree.Straight.root.append (by decide) here (by simp)
  obtain ⟨-, trees, -⟩ := read_of_document [first, second]
  refine ⟨[first, second], tree, by decide +kernel, ?_⟩
  exact trees tree none _ _ (Tree.canonical_of_straight straight) (Tree.read_of_straight straight rfl)

end View

end Menu
