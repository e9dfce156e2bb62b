import Menu.Proofs.Blocks.Hidden
import Menu.Proofs.Blocks.Turn

/-!
# Choosing by the warnings

The lines of `watch` … `then` … `else` … `end` come to one of two things.  The first lines are read with their
warnings withheld.  If there were none, the lines after `then` are read and those after `else` are passed over; if
there were some, it is the other way round, and `display-warnings` shows them.

`Page` is what simple lines come to, said without blocks and watches: a title, a command, entries, and the warnings
that were withheld.  `Page.choose` puts the parts together.

* `Reads`: lines that take a file from one milestone to the next, to be put together with `Reads.append`.
* `reads_lines`: simple lines, in blocks that let them pass.
* `reads_watch`, `reads_then`, `reads_hidden`, `reads_else`, `reads_end`: the lines around them.
* `block_chooses`: all the lines of the block.
-/

namespace Menu

/-! ## What simple lines come to -/

/-- Lines that are read with their warnings withheld, and two branches. -/
structure Block where
  watchLine : String
  watched : List String
  thenLine : String
  /-- The branch to take if there is no warning. -/
  taken : List String
  elseLine : String
  otherwise : List String
  endLine : String

/-- The lines of a block, one after the other. -/
def Block.lines (b : Block) : List String :=
  [b.watchLine] ++ b.watched ++ [b.thenLine] ++ b.taken ++ [b.elseLine] ++ b.otherwise ++ [b.endLine]

/-- What lines come to that are read one after the other. -/
structure Page where
  title : Option String
  cells : Pool Template
  /-- The command that the next lines carry. -/
  cell : Handle
  /-- The warnings that were withheld. -/
  withheld : List String := []
  entries : List Entry := []

/-- What there is before any line of a file is read. -/
def Context.page (c : Context) (shared : Shared) : Page where
  title := shared.title
  cells := shared.cells
  cell := c.cell

/-- What is wrong with the target of an inclusion, in words; nothing if it was taken in before. -/
def Context.complaint? (site : Site) (shared : Shared) (c : Context) (how : Inclusion) (target : String) :
    Option String :=
  let told (why : BadTarget) := "could not " ++ how.word ++ " " ++ target ++ ": " ++ why.text
  match site.resolve target c.directory with
  | .error (.bad why) => some (told why)
  | .error (.stop _) => none
  | .ok file =>
    if shared.alreadyTaken c.lineage how file then none
    else match site.openTarget file with
      | .error (.bad why) => some (told why)
      | _ => none

namespace Page

section

variable (site : Site) (shared : Shared) (c : Context) (withhold : Bool) (position : Int)

/-- One more entry. -/
def add (p : Page) (e : Entry) : Page :=
  { p with entries := p.entries ++ [e] }

/-- One more warning. -/
def warn (p : Page) (text : String) : Page :=
  if withhold then { p with withheld := p.withheld ++ [text] } else p.add (c.warningEntry position text)

/-- One more line, read at a position. -/
def perform (p : Page) : Directive → Page
  | .empty => p.add ⟨"", c.path, position, .normal, {}⟩
  | .text text => p.add ⟨text, c.path, position, .normal, p.cells.get p.cell⟩
  | .subtitle text => p.add ⟨text, c.path, position, .title, {}⟩
  | .title text => if c.isRoot then { p with title := some text } else p
  | .clean => { p with cells := (p.cells.add {}).1, cell := (p.cells.add {}).2 }
  | .before arg => { p with cells := p.cells.modify p.cell (·.addBefore arg) }
  | .after arg => { p with cells := p.cells.modify p.cell (·.addAfter arg) }
  | .warning text => p.warn c withhold position text
  | .inclusion how target => ((c.complaint? site shared how target).map (p.warn c withhold position)).getD p
  | .displayWarnings => { p with entries := p.entries ++ p.withheld.map (c.warningEntry position) }
  | _ => p

/-- More lines, the first one after a position. -/
def lines (position : Int) (p : Page) : List String → Page
  | [] => p
  | line :: rest =>
    lines (position + 1) (p.perform site shared c withhold (position + 1) (site.markers.parse line)) rest

/-- More lines, those of a block and of the branch that is chosen by their warnings. -/
def choose (p : Page) (block : Block) : Page :=
  let first := p.lines site shared c true (position + 1) block.watched
  let position := position + 1 + block.watched.length + 1
  if first.withheld = [] then first.lines site shared c false position block.taken
  else first.lines site shared c false (position + block.taken.length + 1) block.otherwise

end

end Page

/-! ## Simple lines -/

/-- Whether a directive has nothing to do with blocks, watches and other files. -/
def Directive.isPlain : Directive → Bool
  | .empty => true
  | .text _ => true
  | .subtitle _ => true
  | .title _ => true
  | .comment _ => true
  | .clean => true
  | .before _ => true
  | .after _ => true
  | .warning _ => true
  | _ => false

/-- A target that is not found, or not opened. -/
def Site.Bars (site : Site) (target : String) (directory : Path) : Prop :=
  (∃ why, site.resolve target directory = .error (.bad why)) ∨
    ∃ file why, site.resolve target directory = .ok file ∧ site.openTarget file = .error (.bad why)

/-- What a simple line may mean: the worst is the inclusion of a file that is not opened. -/
inductive Simple (site : Site) (directory : Path) : Directive → Prop
  | plain {d : Directive} : d.isPlain = true → Simple site directory d
  | barred (how : Inclusion) {target : String} :
    site.Bars target directory → Simple site directory (.inclusion how target)

/-- A block, in a file of a directory, whose lines are what their names say, and simple in between. -/
structure Block.Spelled (site : Site) (directory : Path) (b : Block) : Prop where
  watchLine : site.markers.parse b.watchLine = .watch
  watched : ∀ line ∈ b.watched, Simple site directory (site.markers.parse line)
  thenLine : site.markers.parse b.thenLine = .thenBlock
  taken : ∀ line ∈ b.taken, Simple site directory (site.markers.parse line)
  elseLine : site.markers.parse b.elseLine = .elseBlock
  otherwise : ∀ line ∈ b.otherwise,
    Simple site directory (site.markers.parse line) ∨ site.markers.parse line = .displayWarnings
  endLine : site.markers.parse b.endLine = .endBlock false

/-- Blocks that let simple lines pass. -/
def Scopes.Lets (scopes : Scopes) : Prop :=
  ∀ site directory d, Simple site directory d → scopes.apply d = d

namespace Scopes

theorem lets_nil : Lets [] := fun _ _ _ _ => rfl

theorem lets_thenBlock : Lets [⟨.thenBlock [], false⟩] := by
  rintro site directory d (plain | barred)
  · cases d <;> first | rfl | cases plain
  · rfl

theorem lets_elseBlock {ws : List String} (some : ws ≠ []) : Lets [⟨.elseBlock ws, false⟩] := by
  have filled : ws.isEmpty = false := by simpa using some
  rintro site directory d (plain | barred)
  · cases d <;> first | simp [Rule.apply, filled]; done | cases plain
  · simp [Rule.apply, filled]

theorem apply_displayWarnings {ws : List String} (some : ws ≠ []) :
    apply [⟨.elseBlock ws, false⟩] .displayWarnings = .multiple (ws.map .warning) := by
  have filled : ws.isEmpty = false := by simpa using some
  simp [Rule.apply, filled]

end Scopes

namespace Reader

variable {r : Reader} {xs ys : List String} {rest : List (Except Fault String)}

theorem Ahead.first (ahead : r.Ahead (xs ++ ys) rest) : r.Ahead xs (ys.map .ok ++ rest) :=
  ⟨ahead.unclosed, ahead.before, by rw [ahead.reads, List.map_append, List.append_assoc]⟩

theorem Ahead.second (ahead : r.Ahead (xs ++ ys) rest) : (r.past xs (ys.map .ok ++ rest)).Ahead ys rest :=
  ⟨ahead.unclosed, ahead.before, rfl⟩

theorem past_append (r : Reader) (xs ys : List String) (rest : List (Except Fault String)) :
    (r.past xs (ys.map .ok ++ rest)).past ys rest = r.past (xs ++ ys) rest := by
  simp only [past, List.length_append]
  congr 1
  omega

end Reader

namespace Page

variable {site : Site} {shared : Shared} {c : Context} {position : Int} {p : Page}

/-- Nothing is withheld of lines whose warnings are shown. -/
theorem withheld_perform (d : Directive) : (p.perform site shared c false position d).withheld = p.withheld := by
  cases d with
  | inclusion how target =>
    rw [perform]
    cases c.complaint? site shared how target <;> rfl
  | title text =>
    rw [perform]
    split <;> rfl
  | _ => rfl

theorem foldl_warn (ws : List String) :
    ws.foldl (fun p w => p.warn c false position w) p =
      { p with entries := p.entries ++ ws.map (c.warningEntry position) } := by
  induction ws generalizing p with
  | nil => simp
  | cons w ws ih =>
    rw [List.foldl_cons, ih]
    simp [warn, add]

end Page

/-! ## Milestones -/

/-- How far a file has come. -/
structure Milestone where
  position : Int
  scopes : Scopes
  /-- Whether the watch runs. -/
  withhold : Bool
  page : Page

namespace Milestone

/-- The file at a milestone. -/
def context (s : Milestone) (c : Context) (reader : Reader) : Context :=
  { c with
    reader
    scopes := s.scopes
    cell := s.page.cell
    watch := if s.withhold then ⟨true, s.page.withheld⟩ else {} }

/-- What is shared at a milestone. -/
def shared (s : Milestone) (shared : Shared) : Shared :=
  { shared with title := s.page.title, cells := s.page.cells }

/-- The build at a milestone of the file on top. -/
def build (s : Milestone) (c : Context) (below : List Context) (shared : Shared) (reader : Reader) : Build :=
  ⟨s.context c reader :: below, s.shared shared⟩

end Milestone

namespace Build

variable {site : Site} {c : Context} {below : List Context} {shared : Shared} {s s' s'' : Milestone}
  {line : String} {lines more : List String}

/-- Lines that take a file from one milestone to another. -/
structure Reads (site : Site) (c : Context) (below : List Context) (shared : Shared) (lines : List String)
    (s s' : Milestone) : Prop where
  position : s'.position = s.position + lines.length
  leads : ∀ (reader : Reader) (rest : List (Except Fault String)),
    reader.pending = [] → reader.position = s.position → reader.Ahead lines rest →
    ∃ events,
      Leads site (s.build c below shared reader) events (s'.build c below shared (reader.past lines rest)) ∧
      s'.page.entries = s.page.entries ++ entriesOf events

theorem Reads.nil : Reads site c below shared [] s s where
  position := by simp
  leads reader rest _ _ ahead := by
    rw [Reader.past_nil ahead]
    exact ⟨[], .refl _, by simp⟩

theorem Reads.append (first : Reads site c below shared lines s s')
    (second : Reads site c below shared more s' s'') :
    Reads site c below shared (lines ++ more) s s'' where
  position := by
    rw [second.position, first.position, List.length_append]
    omega
  leads reader rest pending position ahead := by
    obtain ⟨early, leads, shown⟩ := first.leads reader _ pending position ahead.first
    have moved : (reader.past lines (more.map .ok ++ rest)).position = s'.position := by
      rw [first.position, ← position]
      rfl
    obtain ⟨late, leads', shown'⟩ :=
      second.leads (reader.past lines (more.map .ok ++ rest)) rest pending moved ahead.second
    rw [Reader.past_append] at leads'
    refine ⟨early ++ late, leads.trans leads', ?_⟩
    rw [shown', shown, entriesOf_append, List.append_assoc]

/-- A line after which the file reads again what it is given to. -/
theorem Reads.of_line (position : s'.position = s.position + 1)
    (h : ∀ reader : Reader, reader.pending = [] → ∃ r events,
      (s.context c reader).react site (below.length + 1) (s.shared shared) (s.position + 1)
          (s.scopes.apply (site.markers.parse line)) = .ok r ∧
        r.move = .stay ∧ Leads site ⟨r.context :: below, r.shared⟩ events (s'.build c below shared reader) ∧
        s'.page.entries = s.page.entries ++ entriesOf (r.events ++ events)) :
    Reads site c below shared [line] s s' where
  position := position
  leads reader rest pending at_ ahead := by
    obtain ⟨r, events, reacted, stays, leads, shown⟩ := h (reader.past [line] rest) pending
    have read : reader.read site.markers =
        (.ok (s.position + 1, site.markers.parse line), reader.past [line] rest) := by
      rw [Reader.read_of_ahead pending ahead, at_]
      rfl
    have readOn : (s.context c reader).readOn site.markers = s.context c (reader.past [line] rest) := by
      rw [Context.readOn, show (s.context c reader).reader = reader from rfl, read]
      rfl
    have taken : step site ⟨s.context c reader :: below, s.shared shared⟩ = _ :=
      step_of_react (congrArg Prod.fst read) (by rw [readOn]; exact reacted)
    rw [settle, stays] at taken
    refine ⟨_, .step trivial taken leads, ?_⟩
    rw [shown, List.append_assoc, entriesOf_append (reading _), entriesOf_reading, List.nil_append]

theorem Reads.of_react (position : s'.position = s.position + 1)
    (h : ∀ reader : Reader, ∃ events,
      (s.context c reader).react site (below.length + 1) (s.shared shared) (s.position + 1)
          (s.scopes.apply (site.markers.parse line)) =
        .ok ⟨s'.context c reader, s'.shared shared, .stay, events⟩ ∧
        s'.page.entries = s.page.entries ++ entriesOf events) :
    Reads site c below shared [line] s s' :=
  .of_line position fun reader _ => by
    obtain ⟨events, reacted, shown⟩ := h reader
    exact ⟨_, [], reacted, rfl, .refl _, by rw [shown, List.append_nil]⟩

/-! ## Simple lines in blocks that let them pass -/

/-- The milestone after lines that are simple. -/
def after (site : Site) (shared : Shared) (c : Context) (s : Milestone) (lines : List String) : Milestone :=
  { s with
    position := s.position + lines.length
    page := s.page.lines site shared c s.withhold s.position lines }

theorem react_of_plain {d : Directive} (depth : Nat) (plain : d.isPlain = true) (position : Int)
    (reader : Reader) :
    ∃ events,
      (s.context c reader).react site depth (s.shared shared) position d =
        .ok ⟨{ s with page := s.page.perform site shared c s.withhold position d }.context c reader,
          { s with page := s.page.perform site shared c s.withhold position d }.shared shared, .stay, events⟩ ∧
      (s.page.perform site shared c s.withhold position d).entries = s.page.entries ++ entriesOf events := by
  cases d with
  | warning text =>
    obtain ⟨at_, scopes, withhold, page⟩ := s
    cases withhold with
    | true => exact ⟨[], rfl, (List.append_nil _).symm⟩
    | false => exact ⟨_, rfl, rfl⟩
  | title text =>
    obtain ⟨path, stream, isRoot, reader', cell, lineage, scopes, watch⟩ := c
    cases isRoot with
    | true => exact ⟨[], rfl, (List.append_nil _).symm⟩
    | false => exact ⟨_, rfl, (List.append_nil _).symm⟩
  | empty => exact ⟨_, rfl, rfl⟩
  | text text => exact ⟨_, rfl, rfl⟩
  | subtitle text => exact ⟨_, rfl, rfl⟩
  | comment text => exact ⟨[], rfl, (List.append_nil _).symm⟩
  | clean => exact ⟨[], rfl, (List.append_nil _).symm⟩
  | before arg => exact ⟨[], rfl, (List.append_nil _).symm⟩
  | after arg => exact ⟨[], rfl, (List.append_nil _).symm⟩
  | _ => cases plain

/-- Warnings that a file is given to read again are withheld or shown. -/
theorem leads_of_warnings (lets : s.scopes.Lets) (position : Int) (ws : List String) {reader : Reader}
    (pending : reader.pending = []) (last : Page)
    (last_eq : last = ws.foldl (fun p w => p.warn c s.withhold position w) s.page) :
    ∃ events,
      Leads site ⟨(s.context c reader).given position (ws.map .warning) :: below, s.shared shared⟩ events
        ({ s with page := last }.build c below shared reader) ∧
      last.entries = s.page.entries ++ entriesOf events := by
  subst last_eq
  induction ws generalizing s with
  | nil =>
    rw [List.map_nil, Context.given_nil (c := s.context c reader) position pending]
    exact ⟨[], .refl _, by simp⟩
  | cons w ws ih =>
    let again : Reader := { reader with pending := (ws.map .warning).map (position, ·) }
    obtain ⟨events, reacted, shown⟩ : ∃ events,
        (s.context c again).react site (below.length + 1) (s.shared shared) position (.warning w) =
          .ok ⟨{ s with page := s.page.warn c s.withhold position w }.context c again,
            { s with page := s.page.warn c s.withhold position w }.shared shared, .stay, events⟩ ∧
        (s.page.warn c s.withhold position w).entries = s.page.entries ++ entriesOf events :=
      react_of_plain _ rfl position again
    have once : Rereads site ⟨(s.context c reader).given position (.warning w :: ws.map .warning) :: below,
        s.shared shared⟩ _ _ :=
      rereads_of_react (r := ⟨_, _, .stay, events⟩) rfl (by
        rw [show (s.context c reader).scopes = s.scopes from rfl, lets site c.directory _ (.plain rfl)]
        exact reacted)
    obtain ⟨later, leads, rest⟩ := ih (s := { s with page := s.page.warn c s.withhold position w }) lets
    refine ⟨events ++ later, once.leads.trans leads, ?_⟩
    rw [List.foldl_cons, rest, entriesOf_append, ← List.append_assoc]
    exact congrArg (· ++ entriesOf later) shown

theorem reads_plain (lets : s.scopes.Lets) (plain : (site.markers.parse line).isPlain = true) :
    Reads site c below shared [line] s (after site shared c s [line]) :=
  .of_react rfl fun reader => by
    rw [lets site c.directory _ (.plain plain)]
    exact react_of_plain _ plain _ reader

/-- What is given to read again to a file that has nothing else to. -/
theorem pushBack_eq_given {c : Context} (pending : c.reader.pending = []) (position : Int) (ds : List Directive) :
    { c with reader := c.reader.pushBack position ds } = c.given position ds := by
  rw [Context.given, Reader.pushBack, pending, List.append_nil]

/-- A line that gives warnings to read again. -/
theorem reads_again (lets : s.scopes.Lets) (ws : List String)
    (page : (after site shared c s [line]).page =
      ws.foldl (fun p w => p.warn c s.withhold (s.position + 1) w) s.page)
    (given : ∀ reader, ∃ events,
      (s.context c reader).react site (below.length + 1) (s.shared shared) (s.position + 1)
          (s.scopes.apply (site.markers.parse line)) =
        .ok ⟨{ s.context c reader with reader := reader.pushBack (s.position + 1) (ws.map .warning) },
          s.shared shared, .stay, events⟩ ∧
        entriesOf events = []) : Reads site c below shared [line] s (after site shared c s [line]) := by
  refine .of_line rfl fun reader pending => ?_
  obtain ⟨early, reacted, quiet⟩ := given reader
  obtain ⟨events, leads, shown⟩ : ∃ events,
      Leads site ⟨(s.context c reader).given (s.position + 1) (ws.map .warning) :: below, s.shared shared⟩ events
        ((after site shared c s [line]).build c below shared reader) ∧
      (after site shared c s [line]).page.entries = s.page.entries ++ entriesOf events :=
    leads_of_warnings lets (s.position + 1) ws pending _ page
  refine ⟨_, events, reacted, rfl, ?_, ?_⟩
  · rw [← pushBack_eq_given (c := s.context c reader) pending] at leads
    exact leads
  · rw [entriesOf_append, quiet]
    exact shown

/-- A complaint about an inclusion is read again as a warning. -/
theorem reads_rejected (lets : s.scopes.Lets) {how : Inclusion} {target : String} {why : BadTarget}
    (parsed : site.markers.parse line = .inclusion how target)
    (applied : s.scopes.apply (.inclusion how target) = .inclusion how target)
    (told : c.complaint? site shared how target =
      some ("could not " ++ how.word ++ " " ++ target ++ ": " ++ why.text))
    (rejected : ∀ reader, (s.context c reader).includeFile site (below.length + 1) (s.shared shared)
        (s.position + 1) how target =
      .ok ((s.context c reader).reject (s.shared shared) (s.position + 1) how target why)) :
    Reads site c below shared [line] s (after site shared c s [line]) := by
  refine reads_again lets ["could not " ++ how.word ++ " " ++ target ++ ": " ++ why.text] ?_ fun reader => ?_
  · rw [after, Page.lines, Page.lines, parsed, Page.perform, told]
    rfl
  · rw [parsed, applied]
    exact ⟨_, rejected reader, rfl⟩

/-- The inclusion of a file that is not opened comes to a warning, or to nothing if it was taken in before. -/
theorem reads_barred (lets : s.scopes.Lets) {how : Inclusion} {target : String}
    (bars : site.Bars target c.directory) (parsed : site.markers.parse line = .inclusion how target) :
    Reads site c below shared [line] s (after site shared c s [line]) := by
  have applied : s.scopes.apply (.inclusion how target) = .inclusion how target :=
    lets site c.directory _ (.barred how bars)
  rcases bars with ⟨why, resolved⟩ | ⟨file, why, resolved, opened⟩
  · refine reads_rejected lets parsed applied ?_ fun reader =>
      Context.includeFile_of_unresolved resolved
    rw [Context.complaint?, resolved]
  · cases old : shared.alreadyTaken c.lineage how file with
    | false =>
      have fresh : (s.shared shared).alreadyTaken c.lineage how file = false := by
        cases how <;> exact old
      refine reads_rejected lets parsed applied ?_ fun reader =>
        Context.includeFile_of_unopened resolved fresh opened
      simp only [Context.complaint?, resolved, old, opened, Bool.false_eq_true, if_false]
    | true =>
      have taken : (s.shared shared).alreadyTaken c.lineage how file = true := by
        cases how <;> exact old
      have same : after site shared c s [line] = { s with position := s.position + 1 } := by
        rw [after, Page.lines, Page.lines, parsed, Page.perform]
        simp only [Context.complaint?, resolved, old, if_true]
        rfl
      rw [same]
      refine .of_react rfl fun reader => ⟨((s.context c reader).skip (s.shared shared) how file).events, ?_, ?_⟩
      · rw [parsed, applied]
        exact Context.includeFile_of_taken (c := s.context c reader) resolved taken
      · cases how <;> exact (List.append_nil _).symm

theorem reads_displayWarnings (lets : s.scopes.Lets) (parsed : site.markers.parse line = .displayWarnings)
    (shows : s.withhold = false)
    (applied : s.scopes.apply .displayWarnings = .multiple (s.page.withheld.map .warning)) :
    Reads site c below shared [line] s (after site shared c s [line]) := by
  refine reads_again lets s.page.withheld ?_ fun reader => ?_
  · rw [shows, Page.foldl_warn, after, Page.lines, Page.lines, parsed]
    rfl
  · rw [parsed, applied]
    exact ⟨_, rfl, rfl⟩

/-- Simple lines, with `display-warnings` among them where the warnings are shown. -/
theorem reads_lines (lets : s.scopes.Lets)
    (simple : ∀ line ∈ lines, Simple site c.directory (site.markers.parse line) ∨
      site.markers.parse line = .displayWarnings ∧ s.withhold = false ∧
        s.scopes.apply .displayWarnings = .multiple (s.page.withheld.map .warning)) :
    Reads site c below shared lines s (after site shared c s lines) := by
  induction lines generalizing s with
  | nil =>
    have same : after site shared c s [] = s := by
      simp [after, Page.lines]
    rw [same]
    exact .nil
  | cons line lines ih =>
    obtain ⟨first, others⟩ := List.forall_mem_cons.1 simple
    have one : Reads site c below shared [line] s (after site shared c s [line]) := by
      rcases first with simple | ⟨parsed, shows, applied⟩
      · generalize parsed : site.markers.parse line = d at simple
        cases simple with
        | plain plain => exact reads_plain lets (by rw [parsed]; exact plain)
        | barred how bars => exact reads_barred lets bars parsed
      · exact reads_displayWarnings lets parsed shows applied
    have rest := ih (s := after site shared c s [line]) lets fun other mem => by
      rcases others other mem with simple | ⟨parsed, shows, applied⟩
      · exact .inl simple
      · -- where warnings are shown, the line before has left those that were withheld as they were
        have kept : (after site shared c s [line]).page.withheld = s.page.withheld := by
          rw [after, shows]
          exact Page.withheld_perform _
        refine .inr ⟨parsed, shows, ?_⟩
        rw [kept]
        exact applied
    have same : after site shared c (after site shared c s [line]) lines =
        after site shared c s (line :: lines) := by
      simp only [after, Page.lines, List.length_cons, List.length_nil]
      congr 1
      omega
    rw [← same]
    exact one.append rest

/-! ## The lines around them -/

variable {position : Int} {p : Page} {ws : List String}

theorem reads_watch (parsed : site.markers.parse line = .watch) (none : p.withheld = []) :
    Reads site c below shared [line] ⟨position, [], false, p⟩ ⟨position + 1, [], true, p⟩ :=
  .of_react rfl fun reader => by
    rw [parsed]
    refine ⟨[], ?_, (List.append_nil _).symm⟩
    simp only [Milestone.context, if_true, none]
    rfl

theorem reads_then (parsed : site.markers.parse line = .thenBlock) :
    Reads site c below shared [line] ⟨position, [], true, p⟩
      ⟨position + 1, [⟨.thenBlock p.withheld, false⟩], false, p⟩ :=
  .of_react rfl fun reader => by
    rw [parsed]
    exact ⟨[], rfl, (List.append_nil _).symm⟩

theorem reads_end {scope : Scope} (parsed : site.markers.parse line = .endBlock false)
    (regular : Scopes.Regular [scope]) :
    Reads site c below shared [line] ⟨position, [scope], false, p⟩ ⟨position + 1, [], false, p⟩ :=
  .of_react rfl fun reader => by
    have own : scope.automatic = false := (regular.manual scope List.mem_cons_self).1
    rw [parsed, Scopes.apply_endBlock regular]
    refine ⟨[], ?_, (List.append_nil _).symm⟩
    rw [Context.react, Context.endBlock]
    simp only [Milestone.context, own, if_true]
    rfl

/-- A `then` block turned around in a file with no other block: it ends, a watch hears its warnings again, and
the `else` stops the watch. -/
theorem leads_of_turned {file : Context} {shared : Shared} (scopes : file.scopes = [⟨.thenBlock ws, false⟩])
    (sleeping : file.watch = ⟨false, []⟩) (drained : file.reader.pending = []) :
    Leads site ⟨file.given position (Rule.turned ws) :: below, shared⟩ []
      ⟨file.within [⟨.elseBlock ws, false⟩] :: below, shared⟩ := by
  have clear : Scopes.Clear [] := by simp [Scopes.Clear]
  have regular : Scopes.Regular [⟨.thenBlock ws, false⟩] := Scopes.Regular.nil.push clear (by simp)
  have heard : Rereads site ⟨file.given position (Rule.turned ws) :: below, shared⟩ []
      ⟨((file.within []).watching ws).given position [.elseBlock] :: below, shared⟩ :=
    rereads_turned regular scopes (by rw [sleeping])
  have stopped : Rereads site ⟨((file.within []).watching ws).given position [.elseBlock] :: below, shared⟩ []
      ⟨(file.within [⟨.elseBlock ws, false⟩]).given position [] :: below, shared⟩ :=
    rereads_elseBlock clear rfl sleeping
  rw [Context.given_nil (c := file.within [⟨.elseBlock ws, false⟩]) position drained] at stopped
  exact (heard.trans stopped).leads

/-- The `else` turns the block around. -/
theorem reads_else (parsed : site.markers.parse line = .elseBlock) :
    Reads site c below shared [line] ⟨position, [⟨.thenBlock ws, false⟩], false, p⟩
      ⟨position + 1, [⟨.elseBlock ws, false⟩], false, p⟩ := by
  refine .of_line rfl fun reader pending => ?_
  let now : Milestone := ⟨position, [⟨.thenBlock ws, false⟩], false, p⟩
  have applied : Scopes.apply [⟨.thenBlock ws, false⟩] .elseBlock = Rule.turn ws :=
    Scopes.apply_elseBlock_of_then (by simp [Scopes.Clear]) ws false
  have reacted : (now.context c reader).react site (below.length + 1) (now.shared shared) (position + 1)
      (Rule.turn ws) =
        .ok ⟨(now.context c reader).given (position + 1) (Rule.turned ws), now.shared shared, .stay, []⟩ := by
    rw [← react_turn, Context.given_nil (c := now.context c reader) _ pending]
  have turned : Leads site ⟨(now.context c reader).given (position + 1) (Rule.turned ws) :: below,
      now.shared shared⟩ []
      ⟨(now.context c reader).within [⟨.elseBlock ws, false⟩] :: below, now.shared shared⟩ :=
    leads_of_turned rfl rfl pending
  refine ⟨⟨_, _, .stay, []⟩, [], ?_, rfl, turned, (List.append_nil _).symm⟩
  rw [parsed, applied]
  exact reacted

/-- Simple lines, and `display-warnings`, are passed over in a block that is suppressed. -/
theorem reads_hidden {scope : Scope} (regular : Scopes.Regular [scope]) (blocks : scope.rule.blocks = true)
    (simple : ∀ line ∈ lines, Simple site c.directory (site.markers.parse line) ∨
      site.markers.parse line = .displayWarnings) :
    Reads site c below shared lines ⟨position, [scope], false, p⟩
      ⟨position + lines.length, [scope], false, p⟩ where
  position := rfl
  leads reader rest pending _ ahead := by
    have other : ∀ d, Simple site c.directory d ∨ d = .displayWarnings →
        (d ≠ .elseBlock ∧ d ≠ .close) ∧ d ≠ .endBlock false := by
      rintro d ((plain | barred) | rfl)
      · cases d <;> first | simp; done | cases plain
      · simp
      · simp
    have passed : Leads site (Milestone.build ⟨position, [scope], false, p⟩ c below shared reader) _ _ :=
      leads_of_hidden regular blocks rfl pending ahead (fun line mem => (other _ (simple line mem)).1)
        fun line mem => (other _ (simple line mem)).2
    exact ⟨_, passed, by simp [entriesOf, Event.entry?]⟩

/-! ## The block as a whole -/

variable {path : Path} {stream : Stream} {origins : List Origin} {rest : List (Except Fault String)}
  {block : Block}

theorem reads_block (none : p.withheld = []) (spelled : block.Spelled site c.directory) :
    ∃ last, Reads site c below shared block.lines ⟨position, [], false, p⟩
      ⟨last, [], false, p.choose site shared c position block⟩ := by
  obtain ⟨first, first_eq⟩ : ∃ first, first = p.lines site shared c true (position + 1) block.watched := ⟨_, rfl⟩
  have regular : ∀ rule, rule ≠ .literal → Scopes.Regular [⟨rule, false⟩] := fun rule other =>
    Scopes.Regular.nil.push (by simp [Scopes.Clear]) other
  have watched : Reads site c below shared ([block.watchLine] ++ block.watched) ⟨position, [], false, p⟩
      ⟨position + 1 + block.watched.length, [], true, first⟩ := by
    rw [first_eq]
    exact (reads_watch spelled.watchLine none).append
      (reads_lines Scopes.lets_nil fun line mem => .inl (spelled.watched line mem))
  have chosen := watched.append (reads_then spelled.thenLine)
  simp only [Page.choose, ← first_eq]
  by_cases quiet : first.withheld = []
  · -- the branch after `then` is read, and the one after `else` is suppressed
    rw [if_pos quiet]
    rw [quiet] at chosen
    have taken := chosen.append (reads_lines Scopes.lets_thenBlock fun line mem => .inl (spelled.taken line mem))
    have turned := taken.append (reads_else spelled.elseLine)
    have skipped := turned.append (reads_hidden (regular _ (by simp)) rfl spelled.otherwise)
    exact ⟨_, skipped.append (reads_end spelled.endLine (regular _ (by simp)))⟩
  · -- the branch after `then` is suppressed, and the one after `else` is read
    rw [if_neg quiet]
    have skipped := chosen.append (reads_hidden (regular _ (by simp)) (by simpa [Rule.blocks] using quiet)
      fun line mem => .inl (spelled.taken line mem))
    have turned := skipped.append (reads_else spelled.elseLine)
    have taken := turned.append (reads_lines (Scopes.lets_elseBlock quiet) fun line mem =>
      (spelled.otherwise line mem).imp_right fun parsed => ⟨parsed, rfl, Scopes.apply_displayWarnings quiet⟩)
    exact ⟨_, taken.append (reads_end spelled.endLine (regular _ (by simp)))⟩

/-- A file with no block open and no watch running is at the milestone before its next line. -/
theorem build_eq (scopes : c.scopes = []) (sleeping : c.watch = {}) :
    Milestone.build ⟨position, [], false, c.page shared⟩ c below shared c.reader = ⟨c :: below, shared⟩ := by
  obtain ⟨path, stream, isRoot, reader, cell, lineage, opened, watch⟩ := c
  cases scopes
  cases sleeping
  rfl

theorem watch_of_underway (reached : Underway site.markers path stream origins ⟨c :: below, shared⟩)
    (scopes : c.scopes = []) (asleep : c.watch.running = false) : c.watch = {} := by
  obtain ⟨o, _, top, -, rfl⟩ := List.forall₂_cons_right_iff.1 (fits_of_underway reached)
  refine (top.other fun lines => ?_).watch_eq asleep
  have literal := (top.lines lines).scopes
  rw [scopes] at literal
  cases literal

variable (site) (block) in
/-- **Which branch is read is chosen by the warnings before it.**  The lines after `watch` are read with their
warnings withheld.  If there were none, the lines after `then` are read and the others leave no trace; if there
were some, those after `else` are read, where `display-warnings` shows what was withheld.  In the end no block is
open and the watch does not run. -/
theorem block_chooses (reached : Underway site.markers path stream origins ⟨c :: below, shared⟩)
    (scopes : c.scopes = []) (asleep : c.watch.running = false) (pending : c.reader.pending = [])
    (ahead : c.reader.Ahead block.lines rest) (spelled : block.Spelled site c.directory) :
    let page := (c.page shared).choose site shared c c.reader.position block
    ∃ events,
      Leads site ⟨c :: below, shared⟩ events
        ⟨{ c with
            reader := c.reader.past block.lines rest
            cell := page.cell
            scopes := []
            watch := {} } :: below,
          { shared with title := page.title, cells := page.cells }⟩ ∧
      entriesOf events = page.entries := by
  intro page
  obtain ⟨last, reads⟩ : ∃ last, Reads site c below shared block.lines
      ⟨c.reader.position, [], false, c.page shared⟩ ⟨last, [], false, page⟩ := reads_block rfl spelled
  obtain ⟨events, leads, shown⟩ := reads.leads c.reader rest pending rfl ahead
  rw [build_eq scopes (watch_of_underway reached scopes asleep)] at leads
  exact ⟨events, leads, shown.symm⟩

/-- A misspelled line is a warning that is withheld, and shown in the branch that it chooses. -/
theorem block_chooses_misspelled :
    ∃ events last,
      Leads .bare
        (start ⟨.root, ["menu"]⟩
          (.ofLines ["#-watch", "a", "#-frob", "#-then", "b", "#-else", "#-display-warnings", "c", "#-end"]))
        events last ∧
      (entriesOf events).map Entry.text = ["a", "frob is not a directive", "c"] := by
  have plain : ∀ line d, Site.bare.markers.parse line = d → d.isPlain = true →
      Simple .bare ⟨.root, []⟩ (Site.bare.markers.parse line) := fun line d parsed plain => parsed ▸ .plain plain
  have spelled : Block.Spelled .bare ⟨.root, []⟩
      ⟨"#-watch", ["a", "#-frob"], "#-then", ["b"], "#-else", ["#-display-warnings", "c"], "#-end"⟩ := by
    refine ⟨rfl, List.forall_mem_cons.2 ⟨plain _ _ rfl rfl, ?_⟩, rfl, ?_, rfl,
      List.forall_mem_cons.2 ⟨.inr rfl, ?_⟩, rfl⟩
    · exact List.forall_mem_singleton.2 (plain _ _ rfl rfl)
    · exact List.forall_mem_singleton.2 (plain _ _ rfl rfl)
    · exact List.forall_mem_singleton.2 (.inl (plain _ _ rfl rfl))
  have begun : Underway Site.bare.markers ⟨.root, ["menu"]⟩
      (.ofLines ["#-watch", "a", "#-frob", "#-then", "b", "#-else", "#-display-warnings", "c", "#-end"])
      [.document] _ := .start
  obtain ⟨events, leads, shown⟩ := block_chooses .bare _ begun rfl rfl rfl ⟨rfl, rfl, rfl⟩ spelled
  refine ⟨events, _, leads, ?_⟩
  rw [shown]
  rfl

end Build

end Menu
