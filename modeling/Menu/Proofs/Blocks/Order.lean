import Mathlib.Data.List.Forall2
import Menu.Proofs.Build.Underway

/-!
# The open blocks of a file on its way

A file that was opened by `lines` has one block, which is no line's and ends with the file.  In every other
file each open block was begun by a line, and only the innermost one may suppress anything; while one does,
the watch of the file is asleep.  `Context.Ordered` says so of a file, and `Fits` adds what it rests on: what
the file is given to read again is a replay, and a watch that is asleep holds no warnings.

* `Scopes.apply_of_blocks`: what a suppressed block makes of the directives in it.
* `fits_of_underway`: the invariant, by one step (`fits_of_step`) and along the steps from the start.
* `step_of_endBlock`: a line that ends a block ends the innermost one, or is complained about once.
* `ordered_of_underway`: the open blocks of all files of a build on its way, and the ends of blocks in them.
-/

namespace Menu

/-! ## Suppressed blocks -/

namespace Scopes

/-- A suppressed block lets the end of the file and its own end pass, turns an `else` around or not, and makes
nothing of all else. -/
theorem apply_of_blocks {s : Scope} {outer : Scopes} (regular : Regular (s :: outer))
    (blocks : s.rule.blocks = true) (d : Directive) :
    d = .close ∨ (∃ automatic, d = .endBlock automatic) ∨
      (d = .elseBlock ∧ ∃ ws, apply (s :: outer) d = Rule.turn ws) ∨ apply (s :: outer) d = .noop := by
  have clear : Clear outer := regular.clear
  obtain ⟨rule, automatic⟩ := s
  rw [apply_cons]
  by_cases structural : d = .close ∨ ∃ automatic, d = .endBlock automatic
  · exact structural.imp_right .inl
  · have hidden : d.isStructural true = false := by
      cases d <;> simp_all [Directive.isStructural]
    refine .inr (.inr ?_)
    cases rule with
    | thenBlock ws =>
      have some : ws.isEmpty = false := by simpa [Rule.blocks] using blocks
      by_cases turned : d = .elseBlock
      · subst turned
        exact .inl ⟨rfl, ws, by simp only [Rule.apply, Rule.turn, applyOuter_multiple clear]⟩
      · refine .inr ?_
        have dropped : (Rule.thenBlock ws).apply true d = .noop := by
          cases d <;> simp_all [Rule.apply]
        rw [dropped, applyOuter_noop]
    | elseBlock ws =>
      have none : ws.isEmpty = true := by simpa [Rule.blocks] using blocks
      exact .inr (by simp [Rule.apply, none, hidden])
    | literal => exact absurd rfl (regular.manual _ List.mem_cons_self).2
    | ignoreWarnings => cases blocks
    | ignoreText => cases blocks

/-- Regular scopes suppress something only by the innermost one. -/
theorem Regular.clear_or_blocks {scopes : Scopes} (regular : Regular scopes) :
    Clear scopes ∨ ∃ s outer, scopes = s :: outer ∧ s.rule.blocks = true := by
  cases scopes with
  | nil => exact .inl (by simp [Clear])
  | cons s outer =>
    cases blocks : s.rule.blocks with
    | true => exact .inr ⟨s, outer, rfl, blocks⟩
    | false => exact .inl fun t m => (List.mem_cons.1 m).elim (fun e => e ▸ blocks) (regular.clear t)

/-- Nothing comes of a warning, or a warning. -/
theorem isQuiet_apply_warning {scopes : Scopes} (regular : Regular scopes) (text : String) :
    (apply scopes (.warning text)).isQuiet = true := by
  rcases apply_of_regular regular (.warning text) with e | e | ⟨_, _, _, _, e, _⟩ | ⟨e, _⟩
  · rw [e]; rfl
  · rw [e]; rfl
  · cases e
  · cases e

theorem Clear.not_blocks {scopes : Scopes} (clear : Clear scopes) :
    ¬ ∃ s ∈ scopes, s.rule.blocks = true := by
  rintro ⟨s, m, blocks⟩
  rw [clear s m] at blocks
  cases blocks

end Scopes

/-! ## One reaction -/

namespace Context

variable {site : Site} {depth : Nat} {shared : Shared} {c : Context} {position : Int} {d : Directive}
  {r : Reaction}

/-- The open blocks of a file that is read for more than its lines. -/
structure Ordered (c : Context) : Prop where
  regular : c.scopes.Regular
  asleep : (∃ s ∈ c.scopes, s.rule.blocks = true) → c.watch.running = false

/-- A watch begins to run only where nothing is suppressed, and only the watch being stopped begins a block
that is suppressed. -/
theorem asleep_of_react (ordered : c.Ordered)
    (h : c.react site depth shared position (c.scopes.apply d) = .ok r) :
    (∃ s ∈ r.context.scopes, s.rule.blocks = true) → r.context.watch.running = false := by
  intro suppressed
  rcases ordered.regular.clear_or_blocks with clear | ⟨s, outer, scopes, blocks⟩
  · rcases scopes_of_react h with e | ⟨_, -, e⟩ | ⟨-, e⟩ | ⟨-, e⟩ | ⟨-, watch, -⟩ | ⟨-, watch, -⟩
    · exact absurd (e ▸ suppressed) clear.not_blocks
    · have : Scopes.Clear c.scopes.tail := fun t m => clear t (List.mem_of_mem_tail m)
      exact absurd (e ▸ suppressed) this.not_blocks
    · have : Scopes.Clear r.context.scopes := by
        rw [e]; exact List.forall_mem_cons.2 ⟨rfl, clear⟩
      exact absurd suppressed this.not_blocks
    · have : Scopes.Clear r.context.scopes := by
        rw [e]; exact List.forall_mem_cons.2 ⟨rfl, clear⟩
      exact absurd suppressed this.not_blocks
    · rw [watch]
    · rw [watch]
  · have asleep : c.watch.running = false := ordered.asleep ⟨s, by simp [scopes], blocks⟩
    have quiet : c.scopes.apply d ≠ .watch := by
      rw [scopes]
      have regular : Scopes.Regular (s :: outer) := scopes ▸ ordered.regular
      rcases Scopes.apply_of_blocks regular blocks d with rfl | ⟨automatic, rfl⟩ | ⟨-, ws, e⟩ | e
      · simp
      · rw [Scopes.apply_endBlock regular]; simp
      · simp [e, Rule.turn]
      · simp [e]
    rcases watch_of_react h with e | ⟨running, -⟩ | ⟨-, watch, -⟩ | ⟨-, -, e⟩
    · rw [e]; exact asleep
    · rw [asleep] at running; cases running
    · exact absurd watch quiet
    · rw [e]

theorem warnings_of_react (empty : c.watch.running = false → c.watch.warnings = [])
    (h : c.react site depth shared position d = .ok r) :
    r.context.watch.running = false → r.context.watch.warnings = [] := by
  rcases watch_of_react h with e | ⟨running, _, -, e⟩ | ⟨-, -, e⟩ | ⟨-, -, e⟩
  · rw [e]; exact empty
  · rw [e, Watch.collect, running]; intro h; cases h
  · rw [e]; intro h; cases h
  · rw [e]; exact fun _ => rfl

/-- What is kept of a file that is read for more than its lines, with what is shared. -/
structure Orderly (shared : Shared) (c : Context) : Prop extends Ordered c where
  replay : Replay (c.reader.pending.map Prod.snd)
  empty : c.watch.running = false → c.watch.warnings = []
  held : shared.lineages.Holds c.lineage

theorem Orderly.toRegular (orderly : c.Orderly shared) : c.Regular :=
  ⟨orderly.regular, orderly.replay⟩

theorem Orderly.watch_eq (orderly : c.Orderly shared) (asleep : c.watch.running = false) :
    c.watch = ⟨false, []⟩ := by
  have none : c.watch.warnings = [] := orderly.empty asleep
  generalize c.watch = watch at asleep none
  obtain ⟨running, warnings⟩ := watch
  cases asleep
  cases none
  rfl

/-- What is kept of a file of an origin. -/
structure Fits (shared : Shared) (o : Origin) (c : Context) : Prop where
  lines : o = .included .lines → c.Literal
  other : o ≠ .included .lines → c.Orderly shared

theorem Fits.grows {o : Origin} {later : Shared} (grows : shared.Grows later) (fits : c.Fits shared o) :
    c.Fits later o :=
  ⟨fits.lines, fun other =>
    { fits.other other with held := (grows.lineages _ (fits.other other).held).1 }⟩

/-- A file fits its origin when it is opened. -/
theorem fits_child (how : Inclusion) (file : Path) (stream : Stream)
    (held : (c.child shared how file stream).2.lineages.Holds c.lineage) :
    (c.child shared how file stream).1.Fits (c.child shared how file stream).2 (.included how) := by
  have asleep : ∀ c : Context, c.scopes = [] →
      (∃ s ∈ c.scopes, s.rule.blocks = true) → c.watch.running = false := by
    rintro c e ⟨s, m, -⟩
    rw [e] at m
    cases m
  cases how with
  | importing =>
    exact ⟨nofun, fun _ =>
      ⟨⟨.nil, asleep _ rfl⟩, .nil, fun _ => rfl, holds_of_newLineage _ [file]⟩⟩
  | sourcing => exact ⟨nofun, fun _ => ⟨⟨.nil, asleep _ rfl⟩, .nil, fun _ => rfl, held⟩⟩
  | lines => exact ⟨fun _ => ⟨rfl, rfl⟩, fun other => absurd rfl other⟩

end Context

/-! ## One step and all steps -/

namespace Build

variable {m : Markers} {site : Site} {path : Path} {stream : Stream} {origins : List Origin} {b next : Build}
  {c : Context} {below : List Context} {shared : Shared} {r : Reaction} {events : List Event}

/-- A file that is read for more than its lines stays orderly. -/
theorem orderly_of_reaction (orderly : c.Orderly shared)
    (h : reactionTo site shared (c.readOn site.markers) below (c.reader.read site.markers).1 = .ok r)
    (stays : r.move ≠ .leave) : r.context.Orderly r.shared := by
  have kept : ∀ {r : Reaction}, r.context.lineage = c.lineage → shared.Grows r.shared →
      r.shared.lineages.Holds r.context.lineage := fun same grows =>
    same ▸ (grows.lineages _ orderly.held).1
  have regular : r.context.Regular ∧ r.shared.lineages.Holds r.context.lineage := by
    cases advances_of_reaction orderly.toRegular orderly.held h with
    | leaves leaves => exact absurd leaves stays
    | stays _ lineage grows regular => exact ⟨regular, kept lineage grows⟩
    | enters child _ lineage grows regular => exact ⟨regular, kept lineage grows⟩
  rcases reactionTo_cases h with ⟨position, d, -, h⟩ | ⟨why, -, rfl⟩
  · have ordered : (c.readOn site.markers).Ordered := ⟨orderly.regular, orderly.asleep⟩
    exact ⟨⟨regular.1.scopes, Context.asleep_of_react ordered h⟩, regular.1.replay,
      Context.warnings_of_react (c := c.readOn site.markers) orderly.empty h, regular.2⟩
  · exact absurd rfl stays

/-- One step keeps every open file fit for its origin. -/
theorem fits_of_step (fits : List.Forall₂ (Context.Fits b.shared) origins b.stack)
    (taken : b.step site = (.ok next, events)) :
    List.Forall₂ (Context.Fits next.shared) (originsAfter site.markers b next origins) next.stack := by
  obtain ⟨stack, shared⟩ := b
  cases stack with
  | nil =>
    cases taken
    simpa [originsAfter] using fits
  | cons c below =>
    obtain ⟨r, h, rfl, -⟩ := exists_reaction taken
    obtain ⟨o, origins, top, rest, rfl⟩ := List.forall₂_cons_right_iff.1 fits
    -- a file opened by `lines` is never orderly, since its block is no line's, and is followed by itself
    by_cases literal : o = .included .lines
    · obtain ⟨grows, moves | ⟨moves, literal', -⟩⟩ := literal_of_reaction (top.lines literal) h
      · rw [originsAfter_leave moves, settle, moves]
        exact rest.imp fun _ _ => .grows grows
      · rw [originsAfter_stay moves, settle, moves]
        exact .cons ⟨fun _ => literal', fun other => absurd literal other⟩
          (rest.imp fun _ _ => .grows grows)
    · have orderly : c.Orderly shared := top.other literal
      have kept : r.move ≠ .leave → r.context.Fits r.shared o := fun stays =>
        ⟨fun lines => absurd lines literal, fun _ => orderly_of_reaction orderly h stays⟩
      cases advances_of_reaction orderly.toRegular orderly.held h with
      | leaves moves grows =>
        rw [originsAfter_leave moves, settle, moves]
        exact rest.imp fun _ _ => .grows grows
      | stays moves _ grows =>
        rw [originsAfter_stay moves, settle, moves]
        exact .cons (kept (by simp [moves])) (rest.imp fun _ _ => .grows grows)
      | enters child moves _ grows _ _ _ =>
        obtain ⟨position, d, how, target, file, stream, read, inclusion, -, -, -, entered, rfl⟩ :=
          reaction_enter h moves
        rw [originsAfter_enter moves read inclusion, settle, moves]
        have shared_eq : r.shared = ((c.readOn site.markers).child shared how file stream).2 := by
          rw [entered]; rfl
        refine .cons ?_ (.cons (kept (by simp [moves])) (rest.imp fun _ _ => .grows grows))
        rw [shared_eq] at grows ⊢
        exact Context.fits_child how file stream (grows.lineages _ orderly.held).1

theorem fits_of_underway (reached : Underway m path stream origins b) :
    List.Forall₂ (Context.Fits b.shared) origins b.stack := by
  induction reached with
  | start =>
    refine .cons ⟨nofun, fun _ => ⟨⟨.nil, ?_⟩, .nil, fun _ => rfl, ?_⟩⟩ .nil
    · rintro ⟨s, m, -⟩
      cases m
    · exact Context.holds_of_newLineage _ [path]
  | step site _ same _ taken ih =>
    subst same
    exact fits_of_step ih taken

/-- The file on top is orderly unless it is read for its lines. -/
theorem orderly_of_scopes (reached : Underway m path stream origins ⟨c :: below, shared⟩)
    (other : c.scopes ≠ [⟨.literal, true⟩]) : c.Orderly shared := by
  obtain ⟨o, _, top, -, rfl⟩ := List.forall₂_cons_right_iff.1 (fits_of_underway reached)
  exact top.other fun lines => other (top.lines lines).scopes

theorem orderly_of_underway {s : Scope} {outer : Scopes}
    (reached : Underway m path stream origins ⟨c :: below, shared⟩) (scopes : c.scopes = s :: outer)
    (other : s.rule ≠ .literal) : c.Orderly shared := by
  refine orderly_of_scopes reached fun literal => ?_
  rw [scopes] at literal
  cases literal
  exact other rfl

/-! ## The ends of blocks -/

/-- What a file that is read for more than its lines is given to read is no end of a block that ends by
itself. -/
theorem manual_of_read (orderly : c.Orderly shared) {position : Int} {automatic : Bool} {reader : Reader}
    (read : c.reader.read m = (.ok (position, .endBlock automatic), reader)) : automatic = false := by
  rcases Reader.read_cases read with ⟨rest, pending, -⟩ | closed | ⟨-, -, -, written⟩
  · have replay : Replay (.endBlock automatic :: rest.map Prod.snd) := by
      have := orderly.replay
      rwa [pending] at this
    cases replay
    rfl
  · cases closed
  · simpa [Directive.isWritten] using written

/-- Nor is an end of a block that is carried out there. -/
theorem manual_of_dispatched (orderly : c.Orderly shared) {automatic : Bool}
    (dispatched : dispatched? m ⟨c :: below, shared⟩ = some (.endBlock automatic)) : automatic = false := by
  obtain ⟨position, d, read, applied⟩ := exists_read_of_dispatched dispatched
  have same : d = .endBlock automatic := Scopes.eq_of_apply applied nofun nofun
  subst same
  exact manual_of_read orderly (Prod.ext read rfl)

/-- An end of a block that is carried out is meant for the innermost block. -/
theorem automatic_of_dispatched {o : Origin} (fits : c.Fits shared o) {s : Scope} {outer : Scopes}
    {automatic : Bool} (scopes : c.scopes = s :: outer)
    (dispatched : dispatched? m ⟨c :: below, shared⟩ = some (.endBlock automatic)) :
    s.automatic = automatic := by
  by_cases literal : o = .included .lines
  · obtain ⟨position, d, -, applied⟩ := exists_read_of_dispatched dispatched
    rw [(fits.lines literal).scopes] at applied
    rcases Scopes.apply_literal d with e | e <;> rw [applied] at e <;> cases e
  · have orderly : c.Orderly shared := fits.other literal
    have regular : c.scopes.Regular := orderly.regular
    rw [manual_of_dispatched orderly dispatched]
    exact (regular.manual s (by simp [scopes])).1

/-- A line that ends a block ends the innermost one; if there is none, it is complained about. -/
theorem step_of_endBlock (orderly : c.Orderly shared) {position : Int} {automatic : Bool} {reader : Reader}
    (read : c.reader.read site.markers = (.ok (position, .endBlock automatic), reader)) :
    (∀ s outer, c.scopes = s :: outer →
        step site ⟨c :: below, shared⟩ =
          (.ok ⟨{ c with reader, scopes := outer } :: below, shared⟩, reading c)) ∧
      (c.scopes = [] →
        step site ⟨c :: below, shared⟩ =
          (.ok ⟨{ c with reader } :: below, shared⟩,
            reading c ++ c.warn position "end: there is no open block to close")) := by
  have regular : c.scopes.Regular := orderly.regular
  have manual : automatic = false := manual_of_read orderly read
  subst manual
  have reaction : reactionTo site shared (c.readOn site.markers) below (c.reader.read site.markers).1 =
      .ok ((c.readOn site.markers).endBlock shared position false) := by
    rw [read, reactionTo, show (c.readOn site.markers).scopes = c.scopes from rfl,
      Scopes.apply_endBlock regular, Context.react]
  rw [step_of_reaction reaction, Context.readOn, read]
  refine ⟨fun s outer scopes => ?_, fun scopes => ?_⟩
  · have own : s.automatic = false := (regular.manual s (by simp [scopes])).1
    simp only [Context.endBlock, scopes, own, if_true, settle, List.append_nil]
  · simp only [Context.endBlock, scopes, settle]
    rfl

variable (site) in
/-- **The open blocks of every file on its way.**  A file opened by `lines` has its one block, and the blocks
of every other file are in order.  So a line of such a file that ends a block ends the innermost one, or is
complained about by one warning if there is none, and no end of a block meets a block that it is not meant
for. -/
theorem ordered_of_underway (reached : Underway site.markers path stream origins b) :
    List.Forall₂
        (fun o c => if o = .included .lines then c.scopes = [⟨.literal, true⟩] else c.Ordered)
        origins b.stack ∧
      (∀ c below position automatic reader, b.stack = c :: below →
        origins.head? ≠ some (.included .lines) →
        c.reader.read site.markers = (.ok (position, .endBlock automatic), reader) →
        (∀ s outer, c.scopes = s :: outer →
          b.step site = (.ok ⟨{ c with reader, scopes := outer } :: below, b.shared⟩, reading c)) ∧
        (c.scopes = [] →
          b.step site =
            (.ok ⟨{ c with reader } :: below, b.shared⟩,
              reading c ++ c.warn position "end: there is no open block to close"))) ∧
      ∀ c below s outer automatic, b.stack = c :: below → c.scopes = s :: outer →
        b.dispatched? site.markers = some (.endBlock automatic) → s.automatic = automatic := by
  have fits := fits_of_underway reached
  obtain ⟨stack, shared⟩ := b
  refine ⟨fits.imp fun o c top => ?_, ?_, ?_⟩
  · split
    · exact (top.lines ‹_›).scopes
    · exact (top.other ‹_›).toOrdered
  · rintro c below position automatic reader rfl other read
    obtain ⟨o, origins, top, -, rfl⟩ := List.forall₂_cons_right_iff.1 fits
    have notLines : o ≠ .included .lines := by simpa using other
    exact step_of_endBlock (top.other notLines) read
  · rintro c below s outer automatic rfl scopes dispatched
    obtain ⟨o, origins, top, -, rfl⟩ := List.forall₂_cons_right_iff.1 fits
    exact automatic_of_dispatched top scopes dispatched

/-- The block of a document that begins with `#-ignore-text` ends at the next line, `#-end`. -/
theorem ordered_of_ignoreText :
    ∃ b events c,
      (start ⟨.root, ["menu"]⟩ (.ofLines ["#-ignore-text", "#-end"])).step .bare = (.ok b, events) ∧
      b.stack = [c] ∧ c.scopes = [⟨.ignoreText, false⟩] ∧ c.Ordered ∧
      ∃ reader, b.step .bare = (.ok ⟨[{ c with reader, scopes := [] }], b.shared⟩, [.read 0]) := by
  refine ⟨_, _, _, rfl, rfl, rfl, ?_⟩
  have first : Underway Site.bare.markers ⟨.root, ["menu"]⟩ (.ofLines ["#-ignore-text", "#-end"])
      [.document] _ := .start
  have second := first.step .bare rfl nofun rfl
  obtain ⟨files, ends, -⟩ := ordered_of_underway .bare second
  refine ⟨?_, _, (ends _ _ _ _ _ rfl nofun rfl).1 _ _ rfl⟩
  cases files with
  | cons top => exact top

end Build

end Menu
