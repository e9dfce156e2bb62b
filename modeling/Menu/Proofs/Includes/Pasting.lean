import Menu.Proofs.Build.Positions
import Menu.Proofs.Includes.Once

/-!
# Sourcing is pasting

A file that is sourced is read as if its lines stood in the place of the inclusion.  Its own context begins with no
blocks and no watch, as the file that sources it has none there, and the two have one command and one title.  Only
where a line comes from tells the two readings apart, if nothing of the file has a meaning of its own there: no
inclusion, no end of the file and no fresh command.

The file that is read for itself is the guest, and the file that its lines are pasted into the host.
`Context.hosting` is the host as far as it has read the lines of the guest, so that each step of the guest is a step
of the host as well.

* `Context.Guest.read` and `Context.react_hosting`: a read and a directive, in the guest and in the host.
* `Build.step_hosting`: a step in both.
* `Build.leads_hosting`: all steps, to the end of the guest.
* `source_eq_pasting`: an inclusion by `source`, and the lines of its file in its place.
-/

namespace Menu

/-- Whether a directive means the same wherever it stands. -/
def Directive.isPortable : Directive → Bool
  | .clean => false
  | .close => false
  | .inclusion _ _ => false
  | _ => true

theorem Directive.IsAgain.isPortable {d : Directive} (again : d.IsAgain) : d.isPortable = true := by
  cases again <;> rfl

/-- What portable directives come to in the open blocks is portable. -/
theorem Scopes.isPortable_apply (scopes : Scopes) {d : Directive} (portable : d.isPortable = true) :
    (scopes.apply d).isPortable = true := by
  have yields := yields_apply scopes d
  generalize scopes.apply d = out at yields
  cases yields with
  | same => exact portable
  | nothing => rfl
  | others => rfl

/-! ## Hosts and guests -/

/-- What is shared with the host, of which the guest has changed only the commands and the title. -/
def Shared.hosting (host guest : Shared) : Shared :=
  { host with cells := guest.cells, title := guest.title }

/-- An entry of the guest as the host shows it. -/
def Entry.hosted (host : Context) (e : Entry) : Entry :=
  { e with source := host.path, position := host.reader.position + e.position }

namespace Context

/-- The host as far as the lines of the guest are read: what is left of the guest is read first, and the blocks and
the watch are those of the guest. -/
def hosting (host guest : Context) : Context :=
  { host with
    reader := {
      stream :=
        { host.reader.stream with reads := guest.reader.stream.reads ++ host.reader.stream.reads }
      position := host.reader.position + guest.reader.position
      pending := guest.reader.pending.map fun item => (host.reader.position + item.1, item.2)
      closed := host.reader.closed }
    scopes := guest.scopes
    watch := guest.watch }

/-- Whether something of a file is left to read. -/
def Unfinished (c : Context) : Prop :=
  c.reader.pending ≠ [] ∨ c.reader.stream.reads ≠ []

/-- A guest of which a number of lines in all is read in the host, too. -/
structure Guest (host : Context) (m : Markers) (count : Nat) (guest : Context) : Prop where
  isRoot : guest.isRoot = host.isRoot
  cell : guest.cell = host.cell
  portable : ∀ item ∈ guest.reader.stream.reads, ∃ line, item = .ok line ∧ (m.parse line).isPortable = true
  sound : guest.reader.stream.broken = none ∧ guest.reader.closed = false
  more : guest.reader.atEnd = false
  position : guest.reader.position + guest.reader.stream.reads.length = count

variable {m : Markers} {count : Nat} {site : Site} {depth : Nat} {shared base : Shared} {host guest : Context}
  {position : Int} {d : Directive} {r : Reaction}

/-- A guest of which nothing is left comes to its end. -/
theorem Guest.read_end (fits : host.Guest m count guest) (done : ¬ guest.Unfinished) :
    (guest.reader.read m).1 = .ok (count, .close) := by
  obtain ⟨drained, none⟩ := not_or.1 done
  rw [not_not] at drained none
  have counted : guest.reader.position = count := by simpa [none] using fits.position
  rw [Reader.read, drained]
  simp [fits.more, Stream.next, fits.sound, none, counted]

/-- What is read in the guest is read in the host as well. -/
theorem Guest.read (fits : host.Guest m count guest) (opened : host.reader.closed = false)
    (again : ∀ item ∈ guest.reader.pending, item.2.IsAgain)
    (more : guest.Unfinished) :
    ∃ position d, (guest.reader.read m).1 = .ok (position, d) ∧ d.isPortable = true ∧
      ((host.hosting guest).reader.read m).1 = .ok (host.reader.position + position, d) ∧
      (host.hosting guest).readOn m = host.hosting (guest.readOn m) ∧ host.Guest m count (guest.readOn m) := by
  obtain ⟨path, number, isRoot, ⟨⟨reads, broken⟩, at_, pending, atEnd, closed⟩, cell, lineage, scopes, watch⟩ := guest
  obtain ⟨root, command, portable, ⟨sound, open_⟩, notEnd, counted⟩ := fits
  dsimp only at root command portable sound open_ notEnd counted again more
  subst sound open_ notEnd
  cases pending with
  | cons item rest =>
    obtain ⟨position, d⟩ := item
    exact ⟨position, d, rfl, (again _ List.mem_cons_self).isPortable, rfl, rfl, root, command, portable, ⟨rfl, rfl⟩,
      rfl, counted⟩
  | nil =>
    cases reads with
    | nil => exact absurd more (not_or.2 ⟨not_not.2 rfl, not_not.2 rfl⟩)
    | cons item rest =>
      obtain ⟨line, rfl, meant⟩ := portable item List.mem_cons_self
      have read : Reader.read m
          { stream := { host.reader.stream with reads := .ok line :: rest ++ host.reader.stream.reads }
            position := host.reader.position + at_
            closed := host.reader.closed } =
          (.ok (host.reader.position + at_ + 1, m.parse line),
            { stream := { host.reader.stream with reads := rest ++ host.reader.stream.reads }
              position := host.reader.position + at_ + 1
              closed := host.reader.closed }) := by
        simp [Reader.read, Stream.next, opened]
      rw [Int.add_assoc] at read
      refine ⟨at_ + 1, m.parse line, rfl, meant, congrArg Prod.fst read, ?_, root, command,
        fun item mem => portable item (List.mem_cons_of_mem _ mem), ⟨rfl, rfl⟩, rfl, ?_⟩
      · exact congrArg (fun answer => { host with reader := answer.2, scopes, watch }) read
      · rw [← counted, List.length_cons]
        show at_ + 1 + (rest.length : Int) = _
        omega

/-! ## Reactions -/

/-- The same reaction in the guest, `r`, and in the host, `r'`; both files stay on top. -/
structure Hosted (m : Markers) (count : Nat) (host : Context) (base : Shared) (r r' : Reaction) : Prop where
  stays : r.move = .stay
  stays' : r'.move = .stay
  context : r'.context = host.hosting r.context
  shared : r'.shared = base.hosting r.shared
  entries : entriesOf r'.events = (entriesOf r.events).map (Entry.hosted host)
  fits : host.Guest m count r.context

theorem endBlock_hosting (fits : host.Guest m count guest) (base shared : Shared) (position : Int) (automatic : Bool) :
    Hosted m count host base (guest.endBlock shared position automatic)
      ((host.hosting guest).endBlock (base.hosting shared) (host.reader.position + position) automatic) := by
  have same : (host.hosting guest).scopes = guest.scopes := rfl
  simp only [endBlock, same]
  obtain ⟨isRoot, cell, portable, sound, more, counted⟩ := fits
  repeat' split
  all_goals exact ⟨rfl, rfl, rfl, rfl, rfl, isRoot, cell, portable, sound, more, counted⟩

theorem resolveWatch_hosting (fits : host.Guest m count guest) (base shared : Shared) (position : Int)
    (rule : List String → Rule) (complaint : String) :
    Hosted m count host base (guest.resolveWatch shared position rule complaint)
      ((host.hosting guest).resolveWatch (base.hosting shared) (host.reader.position + position) rule complaint) := by
  have same : (host.hosting guest).watch.stop? = guest.watch.stop? := rfl
  simp only [resolveWatch, same]
  obtain ⟨isRoot, cell, portable, sound, more, counted⟩ := fits
  split
  all_goals exact ⟨rfl, rfl, rfl, rfl, rfl, isRoot, cell, portable, sound, more, counted⟩

/-- A directive does the same in the guest and in the host. -/
theorem react_hosting (site : Site) (depth depth' : Nat) (base shared : Shared) (fits : host.Guest m count guest)
    (position : Int) (portable : d.isPortable = true) :
    ∃ r r', guest.react site depth shared position d = .ok r ∧
      (host.hosting guest).react site depth' (base.hosting shared) (host.reader.position + position) d = .ok r' ∧
      Hosted m count host base r r' := by
  have ⟨isRoot, cell, portableLines, sound, more, counted⟩ := fits
  cases d with
  | clean => cases portable
  | close => cases portable
  | inclusion => cases portable
  | endBlock automatic => exact ⟨_, _, rfl, rfl, endBlock_hosting fits base shared position automatic⟩
  | thenBlock => exact ⟨_, _, rfl, rfl, resolveWatch_hosting fits base shared position _ _⟩
  | elseBlock => exact ⟨_, _, rfl, rfl, resolveWatch_hosting fits base shared position _ _⟩
  | before arg =>
    refine ⟨_, _, rfl, rfl, rfl, rfl, rfl, ?_, rfl, fits⟩
    rw [cell]
    rfl
  | after arg =>
    refine ⟨_, _, rfl, rfl, rfl, rfl, rfl, ?_, rfl, fits⟩
    rw [cell]
    rfl
  | text text =>
    refine ⟨_, _, rfl, rfl, rfl, rfl, rfl, rfl, ?_, fits⟩
    rw [cell]
    rfl
  | title text =>
    have same : (host.hosting guest).isRoot = guest.isRoot := isRoot.symm
    rw [react, react, same]
    cases guest.isRoot with
    | true => exact ⟨_, _, rfl, rfl, rfl, rfl, rfl, rfl, rfl, fits⟩
    | false => exact ⟨_, _, rfl, rfl, rfl, rfl, rfl, rfl, rfl, fits⟩
  | warning text =>
    have same : (host.hosting guest).watch.running = guest.watch.running := rfl
    rw [react, react, same]
    split
    · exact ⟨_, _, rfl, rfl, rfl, rfl, rfl, rfl, rfl, isRoot, cell, portableLines, sound, more, counted⟩
    · exact ⟨_, _, rfl, rfl, rfl, rfl, rfl, rfl, rfl, fits⟩
  | watch =>
    have same : (host.hosting guest).watch.start? = guest.watch.start? := rfl
    rw [react, react, same]
    split
    · exact ⟨_, _, rfl, rfl, rfl, rfl, rfl, rfl, rfl, isRoot, cell, portableLines, sound, more, counted⟩
    · exact ⟨_, _, rfl, rfl, rfl, rfl, rfl, rfl, rfl, fits⟩
  | multiple ds =>
    refine ⟨_, _, rfl, rfl, rfl, rfl, ?_, rfl, rfl, isRoot, cell, portableLines, sound, more, counted⟩
    simp [hosting, Reader.pushBack]
  | _ => exact ⟨_, _, rfl, rfl, rfl, rfl, rfl, rfl, rfl, isRoot, cell, portableLines, sound, more, counted⟩

end Context

/-! ## Steps -/

namespace Build

variable {count n : Nat} {site : Site} {shared : Shared} {host guest : Context}

/-- A step of the guest, and the same step of the host. -/
theorem step_hosting (opened : host.reader.closed = false) (orderly : guest.Orderly shared)
    (fits : host.Guest site.markers count guest)
    (more : guest.Unfinished) (around below : List Context) (base : Shared) :
    ∃ next s seen seen', step site ⟨guest :: around, shared⟩ = (.ok ⟨next :: around, s⟩, seen) ∧
      step site ⟨host.hosting guest :: below, base.hosting shared⟩ =
        (.ok ⟨host.hosting next :: below, base.hosting s⟩, seen') ∧
      entriesOf seen' = (entriesOf seen).map (Entry.hosted host) ∧ next.stream = guest.stream ∧ next.Orderly s ∧
      host.Guest site.markers count next ∧
      (next.linesLeft < guest.linesLeft ∨ next.linesLeft = guest.linesLeft ∧ next.cost < guest.cost) := by
  have again : ∀ item ∈ guest.reader.pending, item.2.IsAgain := fun item mem =>
    orderly.replay.isAgain _ (List.mem_map_of_mem mem)
  obtain ⟨position, d, read, portable, read', after, fits⟩ := fits.read opened again more
  obtain ⟨r, r', h, h', hosted⟩ := Context.react_hosting site (around.length + 1) (below.length + 1) base shared fits
    position (Scopes.isPortable_apply guest.scopes portable)
  have reaction : reactionTo site shared (guest.readOn site.markers) around (guest.reader.read site.markers).1 =
      .ok r := by rw [read]; exact h
  have stays : r.move ≠ .leave := by simp [hosted.stays]
  have taken : step site ⟨guest :: around, shared⟩ = _ := step_of_react read h
  have taken' : step site ⟨host.hosting guest :: below, base.hosting shared⟩ = _ :=
    step_of_react read' (by rw [after]; exact h')
  rw [settle, hosted.stays] at taken
  rw [settle, hosted.stays', hosted.context, hosted.shared] at taken'
  refine ⟨_, _, _, _, taken, taken', ?_, (same_of_reaction reaction).1.stream,
    orderly_of_reaction orderly reaction stays, hosted.fits, ?_⟩
  · simp only [entriesOf_append, entriesOf_reading, List.nil_append, hosted.entries]
  · cases advances_of_reaction orderly.toRegular orderly.held reaction with
    | leaves moves => exact absurd moves stays
    | stays _ _ _ _ less => exact less
    | enters child moves =>
      rw [hosted.stays] at moves
      cases moves

/-- The guest is read to its end, and the host reads the same. -/
theorem leads_hosting (host : Context) (opened : host.reader.closed = false) (guest : Context) (shared : Shared)
    (number : guest.stream = n) (orderly : guest.Orderly shared) (fits : host.Guest site.markers count guest)
    (around below : List Context) (base : Shared) :
    ∃ last s seen seen',
      LeadsWhile site (fun c => c.stream = n ∧ c.Unfinished) ⟨guest :: around, shared⟩ seen ⟨last :: around, s⟩ ∧
      Leads site ⟨host.hosting guest :: below, base.hosting shared⟩ seen'
        ⟨host.hosting last :: below, base.hosting s⟩ ∧
      entriesOf seen' = (entriesOf seen).map (Entry.hosted host) ∧ last.Orderly s ∧
      host.Guest site.markers count last ∧ ¬ last.Unfinished := by
  -- what is read again may grow while no line is read, so the lines that are left count first and its cost second
  by_cases more : guest.Unfinished
  · obtain ⟨next, s, seen, seen', taken, taken', same, still, orderly, fits, less⟩ :=
      step_hosting opened orderly fits more around below base
    obtain ⟨last, t, later, later', leads, leads', same', ended⟩ :=
      leads_hosting host opened next s (still.trans number) orderly fits around below base
    refine ⟨last, t, _, _, .step ⟨number, more⟩ taken leads, .step trivial taken' leads', ?_, ended⟩
    rw [entriesOf_append, entriesOf_append, same, same', List.map_append]
  · exact ⟨guest, shared, [], [], .refl _, .refl _, rfl, orderly, fits, more⟩
termination_by (guest.linesLeft, guest.cost)
decreasing_by
  simp only [Prod.lex_def]
  exact less

end Build

/-! ## Sourcing and pasting -/

namespace Context

/-- A file with these lines in the place of the next one. -/
def withLines (c : Context) (lines : List String) : Context :=
  { c with
    reader :=
      { c.reader with
        stream := { c.reader.stream with reads := lines.map .ok ++ c.reader.stream.reads.tail } } }

/-- A line that is read and is not the end of its file is taken out of the lines. -/
theorem readOn_of_line {m : Markers} {c : Context} {position : Int} {d : Directive} (drained : c.reader.pending = [])
    (read : (c.reader.read m).1 = .ok (position, d)) (open_ : d ≠ .close) :
    c.reader.closed = false ∧ c.reader.atEnd = false ∧
      c.readOn m = { c.withLines [] with
        reader := { (c.withLines []).reader with position := c.reader.position + 1 } } := by
  obtain ⟨path, number, isRoot, ⟨⟨reads, broken⟩, at_, pending, atEnd, closed⟩, cell, lineage, scopes, watch⟩ := c
  cases drained
  cases atEnd with
  | true => cases read; exact absurd rfl open_
  | false =>
    cases closed with
    | true => cases read
    | false =>
      cases reads with
      | nil =>
        cases broken with
        | none => cases read; exact absurd rfl open_
        | some why => cases read
      | cons item rest =>
        cases item with
        | error why => cases read
        | ok line => exact ⟨rfl, rfl, rfl⟩

end Context

namespace Build

variable {site : Site} {path file : Path} {stream : Stream} {origins : List Origin} {c : Context}
  {below : List Context} {shared : Shared} {target : String} {lines : List String}

/-- A file in which no block is open is read for more than its lines. -/
theorem orderly_of_unblocked {m : Markers} (reached : Underway m path stream origins ⟨c :: below, shared⟩)
    (scopes : c.scopes = []) : c.Orderly shared := by
  obtain ⟨o, _, top, -, rfl⟩ := List.forall₂_cons_right_iff.1 (fits_of_underway reached)
  refine top.other fun lines => ?_
  have literal := (top.lines lines).scopes
  rw [scopes] at literal
  cases literal

/-- A guest that is not read yet is its lines in the place of the inclusion. -/
theorem hosting_child (scopes : c.scopes = []) (watch : c.watch = ⟨false, []⟩) (drained : c.reader.pending = [])
    (more : c.reader.atEnd = false) (parent : Context) (lines : List String) :
    (c.withLines []).hosting (parent.child shared .sourcing file (.ofLines lines)).1 = c.withLines lines := by
  obtain ⟨_, _, _, ⟨_, _, _, _, _⟩, _, _, _, _⟩ := c
  cases scopes
  cases watch
  cases drained
  cases more
  simp [Context.hosting, Context.withLines, Context.child, Stream.ofLines]

/-- A guest that is read to its end, with no blocks and no watch left, has made the host read its lines. -/
theorem hosting_last {m : Markers} {after last : Context} (scopes : c.scopes = []) (watch : c.watch = ⟨false, []⟩)
    (drained : c.reader.pending = []) (more : c.reader.atEnd = false)
    (read : after = { c.withLines [] with
      reader := { (c.withLines []).reader with position := c.reader.position + 1 } })
    (fits : (c.withLines []).Guest m lines.length last) (done : ¬ last.Unfinished) (closed : last.scopes = [])
    (sleeping : last.watch = ⟨false, []⟩) :
    (c.withLines []).hosting last =
      { after with reader := { after.reader with position := c.reader.position + lines.length } } := by
  obtain ⟨emptied, none⟩ := not_or.1 done
  rw [not_not] at emptied none
  have position : last.reader.position = lines.length := by simpa [none] using fits.position
  subst read
  obtain ⟨_, _, _, ⟨_, _, _, _, _⟩, _, _, _, _⟩ := c
  cases scopes
  cases watch
  cases drained
  cases more
  simp [Context.hosting, Context.withLines, position, closed, sleeping, emptied, none]

variable (site) in
/-- **Sourcing is pasting.**  A file is sourced from where no block is open, no watch runs and nothing is left to read
again, for the first time in the lineage, and its lines are portable.  If no block is open at its end and no watch runs,
the lines shown are those that are shown if the lines of the file stand in the place of the inclusion: they have the
same texts, kinds and commands, in the same order.  What is shared is the same afterwards as far as the commands and
the title go, and the file that sourced the other one stands at the same place but for the count of its lines. -/
theorem source_eq_pasting (reached : Underway site.markers path stream origins ⟨c :: below, shared⟩)
    (scopes : c.scopes = []) (asleep : c.watch.running = false) (drained : c.reader.pending = [])
    (dispatched : dispatched? site.markers ⟨c :: below, shared⟩ = some (.inclusion .sourcing target))
    (resolved : site.resolve target c.directory = .ok file) (new : file ∉ shared.lineages.get c.lineage)
    (opened : site.openTarget file = .ok (.ofLines lines))
    (portable : ∀ line ∈ lines, (site.markers.parse line).isPortable = true) :
    ∃ child entered last s seen events,
      step site ⟨c :: below, shared⟩ = (.ok ⟨child :: c.readOn site.markers :: below, entered⟩, seen) ∧
      entriesOf seen = [] ∧ child.path = file ∧
      LeadsWhile site (fun f => f.stream = child.stream ∧ f.Unfinished)
        ⟨child :: c.readOn site.markers :: below, entered⟩ events ⟨last :: c.readOn site.markers :: below, s⟩ ∧
      ¬ last.Unfinished ∧ (last.reader.read site.markers).1 = .ok (lines.length, .close) ∧
      (last.scopes = [] → last.watch.running = false →
        ∃ left pasted,
          step site ⟨last :: c.readOn site.markers :: below, s⟩ = (.ok ⟨c.readOn site.markers :: below, s⟩, left) ∧
          entriesOf left = [] ∧
          Leads site ⟨c.withLines lines :: below, shared⟩ pasted
            ⟨{ c.readOn site.markers with
                reader :=
                  { (c.readOn site.markers).reader with position := c.reader.position + lines.length } } :: below,
              { shared with cells := s.cells, title := s.title }⟩ ∧
          entriesOf pasted = (entriesOf events).map fun e =>
            { e with source := c.path, position := c.reader.position + e.position }) := by
  obtain ⟨position, d, read, applied⟩ := exists_read_of_dispatched dispatched
  have written : d ≠ .close := by
    rintro rfl
    rw [Scopes.apply_close] at applied
    cases applied
  obtain ⟨open_, more, after⟩ := Context.readOn_of_line drained read written
  have watch : c.watch = ⟨false, []⟩ := (orderly_of_unblocked reached scopes).watch_eq asleep
  have fresh : shared.alreadyTaken c.lineage .sourcing file = false := decide_eq_false new
  have pushed : step site ⟨c :: below, shared⟩ = _ := step_of_opened read applied resolved fresh opened
  have orderly := orderly_of_unblocked (reached.step site rfl (List.cons_ne_nil _ _) pushed) rfl
  have fits : (c.withLines []).Guest site.markers lines.length
      ((c.readOn site.markers).child shared .sourcing file (.ofLines lines)).1 := by
    refine ⟨rfl, rfl, fun item mem => ?_, ⟨rfl, rfl⟩, rfl, ?_⟩
    · obtain ⟨line, written, rfl⟩ := List.mem_map.1 mem
      exact ⟨line, rfl, portable line written⟩
    · simp [Context.child, Stream.ofLines]
  obtain ⟨last, s, events, pasted, leads, leads', same, orderly, fits, done⟩ :=
    leads_hosting (c.withLines []) open_ _ _ rfl orderly fits (c.readOn site.markers :: below) below shared
  have ended := fits.read_end done
  have quiet : entriesOf (reading c ++ ((c.readOn site.markers).enter shared (below.length + 1) .sourcing file
      (.ofLines lines)).events) = [] := by
    rw [entriesOf_append, entriesOf_reading]
    rfl
  refine ⟨_, _, last, s, _, events, pushed, quiet, rfl, leads, done, ended, fun closed sleeping => ?_⟩
  have left : step site ⟨last :: c.readOn site.markers :: below, s⟩ = _ :=
    step_of_react ended (by rw [Scopes.apply_close]; rfl)
  have silent : entriesOf ((last.readOn site.markers).leaving ((c.readOn site.markers :: below).length + 1)) = [] :=
    Context.entriesOf_leaving_asleep sleeping
  rw [hosting_child scopes watch drained more,
    hosting_last scopes watch drained more after fits done closed (orderly.watch_eq sleeping)] at leads'
  refine ⟨_, pasted, left, ?_, leads', same⟩
  rw [entriesOf_append, entriesOf_reading]
  exact silent

/-- A file that gives the document a title and a line. -/
theorem source_eq_pasting_of_title :
    ∃ c child entered shared s last events pasted,
      Underway {} ⟨.root, ["menu"]⟩ (.ofLines ["#-source a", "end"]) [.document] ⟨[c], shared⟩ ∧
      LeadsWhile (.holding [("menu", ["#-source a", "end"]), ("a", ["#-title T", "x"])])
        (fun f => f.stream = child.stream ∧ f.Unfinished) ⟨[child, c.readOn {}], entered⟩ events
        ⟨[last, c.readOn {}], s⟩ ∧
      Leads (.holding [("menu", ["#-source a", "end"]), ("a", ["#-title T", "x"])])
        ⟨[c.withLines ["#-title T", "x"]], shared⟩ pasted
        ⟨[{ c.readOn {} with reader := { (c.readOn {}).reader with position := 2 } }],
          { shared with cells := s.cells, title := s.title }⟩ ∧
      s.title = some "T" ∧ entriesOf events = [⟨"x", ⟨.root, ["a"]⟩, 2, .normal, {}⟩] ∧
      entriesOf pasted = [⟨"x", ⟨.root, ["menu"]⟩, 2, .normal, {}⟩] := by
  have resolved : (Site.holding [("menu", ["#-source a", "end"]), ("a", ["#-title T", "x"])]).resolve "a" ⟨.root, []⟩ =
      .ok ⟨.root, ["a"]⟩ := Site.resolve_holding (by decide) (by decide +kernel) rfl rfl
  have begun : Underway {} ⟨.root, ["menu"]⟩ (.ofLines ["#-source a", "end"]) [.document]
      ⟨[⟨⟨.root, ["menu"]⟩, 0, true, { stream := .ofLines ["#-source a", "end"] }, 0, 0, [], {}⟩],
        ⟨⟨[{}]⟩, ⟨[[⟨.root, ["menu"]⟩]]⟩, [⟨.root, ["menu"]⟩], [⟨.root, ["menu"]⟩], none, 1⟩⟩ := .start
  have opens : step (.holding [("menu", ["#-source a", "end"]), ("a", ["#-title T", "x"])])
      ⟨[⟨⟨.root, ["menu"]⟩, 0, true, { stream := .ofLines ["#-source a", "end"] }, 0, 0, [], {}⟩],
        ⟨⟨[{}]⟩, ⟨[[⟨.root, ["menu"]⟩]]⟩, [⟨.root, ["menu"]⟩], [⟨.root, ["menu"]⟩], none, 1⟩⟩ = _ :=
    step_of_opened rfl rfl resolved (by decide +kernel) rfl
  have ran : LeadsWhile (.holding [("menu", ["#-source a", "end"]), ("a", ["#-title T", "x"])])
      (fun f => f.stream = 1 ∧ f.Unfinished)
      ⟨[⟨⟨.root, ["a"]⟩, 1, true, { stream := .ofLines ["#-title T", "x"] }, 0, 0, [], {}⟩,
          ⟨⟨.root, ["menu"]⟩, 0, true, { stream := .ofLines ["end"], position := 1 }, 0, 0, [], {}⟩],
        ⟨⟨[{}]⟩, ⟨[[⟨.root, ["a"]⟩, ⟨.root, ["menu"]⟩]]⟩, [⟨.root, ["menu"]⟩], [⟨.root, ["menu"]⟩, ⟨.root, ["a"]⟩],
          none, 2⟩⟩ _ ⟨_ :: _, _⟩ :=
    .step ⟨rfl, .inr nofun⟩ rfl (.single ⟨rfl, .inr nofun⟩ rfl)
  obtain ⟨child, entered, last, s, seen, events, pushed, -, -, leads, done, -, pasting⟩ :=
    source_eq_pasting (.holding [("menu", ["#-source a", "end"]), ("a", ["#-title T", "x"])]) begun rfl rfl rfl rfl
      resolved (by decide +kernel) rfl (by decide +kernel)
  rw [opens] at pushed
  cases pushed
  obtain ⟨later, same, rest⟩ := ran.split leads fun f top more => by
    cases top
    exact done more.2
  obtain ⟨rfl, e⟩ := rest.eq_of_stopped fun f top more => by
    cases top
    exact more.2.elim (absurd rfl) (absurd rfl)
  cases e
  obtain ⟨-, pasted, -, -, reads, shown⟩ := pasting rfl rfl
  have entries : entriesOf events = [⟨"x", ⟨.root, ["a"]⟩, 2, .normal, {}⟩] := by
    rw [same]
    rfl
  exact ⟨_, _, _, _, _, _, events, pasted, begun, leads, reads, rfl, entries, by rw [shown, entries]; rfl⟩

end Build

end Menu
