import Menu.Proofs.Blocks.Order
import Menu.Proofs.Build.History
import Menu.Proofs.Context.Shown

/-!
# Positions

What a line comes to carries the number of the line, although it may be shown much later: an inclusion that fails,
`display-warnings` and an `else` give the file directives to read again, one after the other and one for the other,
before the next line is read.  All of them have the position of the line they come from.

The lines are counted by the history: `linesTaken` are the lines that were taken from a file so far, and
`contentsOf` is what the file was opened with.

* `Reader.gives_of_read`: what a read comes to, and what it does to the position.
* `again_of_underway`: the kinds of directives that are read again, among which there is no inclusion and no end of a
  file.  So another file is opened, and a file is left, only where nothing is left to read again.
* `positioned_of_recorded`: the position of a file is the number of its lines, and so is the position of what it is
  given to read again (`Positioned`, step by step).
* `positions_kept`: all of this about every build on its way, and the positions of what is shown.
-/

namespace Menu

/-! ## Reads -/

namespace Reader

/-- The line that the next read takes from the stream. -/
def line? (r : Reader) : Option String :=
  match r.pending, r.atEnd, r.closed, r.stream.next.1 with
  | [], false, false, .ok (some line) => some line
  | _, _, _, _ => none

/-- What a read comes to, with the reader after it. -/
inductive Gives (m : Markers) (r : Reader) : Except ReadFailure (Int × Directive) → Reader → Prop
  | again (item : Int × Directive) (rest : List (Int × Directive)) :
    r.pending = item :: rest → r.line? = none → Gives m r (.ok item) { r with pending := rest }
  | line (line : String) (stream : Stream) :
    r.pending = [] → r.line? = some line → r.stream.reads = .ok line :: stream.reads →
    Gives m r (.ok (r.position + 1, m.parse line)) { r with stream, position := r.position + 1 }
  | ended (reader : Reader) :
    r.pending = [] → r.line? = none → reader.position = r.position → reader.pending = [] →
    Gives m r (.ok (r.position, .close)) reader
  | failed (why : ReadFailure) (stream : Stream) :
    r.pending = [] → r.line? = none → Gives m r (.error why) { r with stream }

theorem gives_of_read (m : Markers) (r : Reader) : r.Gives m (r.read m).1 (r.read m).2 := by
  obtain ⟨stream, position, pending, atEnd, closed⟩ := r
  cases pending with
  | cons item rest => exact .again item rest rfl rfl
  | nil =>
    cases atEnd with
    | true => exact .ended _ rfl rfl rfl rfl
    | false =>
      cases closed with
      | true => exact .failed .closed stream rfl rfl
      | false =>
        generalize next : stream.next = answer
        obtain ⟨item, rest⟩ := answer
        have answered : stream.next.1 = item := congrArg Prod.fst next
        rw [read]
        simp only [Bool.false_eq_true, if_false, next]
        cases item with
        | error why => exact .failed (.fault why) rest rfl (by rw [line?, answered])
        | ok line? =>
          cases line? with
          | none => exact .ended _ rfl (by rw [Reader.line?, answered]) rfl rfl
          | some line =>
            refine .line line rest rfl (by rw [Reader.line?, answered]) ?_
            unfold Stream.next at next
            repeat' split at next
            all_goals cases next
            assumption

/-- A line that is taken stands first in the stream, whatever the markers make of it. -/
theorem reads_of_line? {r : Reader} {line : String} (taken : r.line? = some line) :
    ∃ rest, r.stream.reads = .ok line :: rest := by
  have gives := r.gives_of_read {}
  generalize (r.read {}).1 = answer at gives
  generalize (r.read {}).2 = reader at gives
  cases gives with
  | line other stream _ taken' reads =>
    cases taken.symm.trans taken'
    exact ⟨stream.reads, reads⟩
  | again _ _ _ none => cases taken.symm.trans none
  | ended _ _ none => cases taken.symm.trans none
  | failed _ _ _ none => cases taken.symm.trans none

theorem exists_gives {m : Markers} {r : Reader} {answer : Except ReadFailure (Int × Directive)}
    (read : (r.read m).1 = answer) : ∃ reader, (r.read m).2 = reader ∧ r.Gives m answer reader :=
  ⟨_, rfl, read ▸ r.gives_of_read m⟩

end Reader

/-! ## What is read again -/

/-- Whether a directive may be one that a file is given to read again. -/
inductive Directive.IsAgain : Directive → Prop
  | warning (text : String) : IsAgain (.warning text)
  | watch : IsAgain .watch
  | elseBlock : IsAgain .elseBlock
  | endBlock : IsAgain (.endBlock false)

theorem Replay.isAgain {ds : List Directive} (replay : Replay ds) : ∀ d ∈ ds, d.IsAgain := by
  induction replay with
  | nil => exact List.forall_mem_nil _
  | elseBlock => exact List.forall_mem_singleton.2 .elseBlock
  | warning text _ ih => exact List.forall_mem_cons.2 ⟨.warning text, ih⟩
  | watch _ ih => exact List.forall_mem_cons.2 ⟨.watch, ih⟩
  | endBlock _ ih => exact List.forall_mem_cons.2 ⟨.endBlock, ih⟩

namespace Build

variable {m : Markers} {site : Site} {path : Path} {stream : Stream} {origins : List Origin} {log : List Moment}
  {b next : Build} {c : Context} {below : List Context} {shared : Shared} {r : Reaction} {seen : List Event}
  {mo : Moment} {n : Nat}

theorem again_of_underway (reached : Underway m path stream origins b) :
    ∀ c ∈ b.stack, ∀ item ∈ c.reader.pending, item.2.IsAgain := by
  have fits := fits_of_underway reached
  clear reached
  generalize b.stack = stack at fits
  induction fits with
  | nil => exact List.forall_mem_nil _
  | @cons o c _ _ top _ ih =>
    refine List.forall_mem_cons.2 ⟨fun item mem => ?_, ih⟩
    by_cases lines : o = .included .lines
    · rw [(top.lines lines).pending] at mem
      exact absurd mem List.not_mem_nil
    · exact (top.other lines).replay.isAgain _ (List.mem_map_of_mem mem)

/-- An inclusion or the end of a file that is carried out was not read again, and nothing else is left to be. -/
theorem pending_of_apply {position : Int} {d out : Directive} (again : ∀ item ∈ c.reader.pending, item.2.IsAgain)
    (read : (c.reader.read m).1 = .ok (position, d)) (applied : c.scopes.apply d = out)
    (kind : out = .close ∨ ∃ how target, out = .inclusion how target) :
    c.reader.pending = [] ∧ (c.readOn m).reader.pending = [] := by
  have same : d = out := by
    rcases kind with rfl | ⟨how, target, rfl⟩ <;> exact Scopes.eq_of_apply applied (by simp) (by simp)
  obtain ⟨reader, after, gives⟩ := Reader.exists_gives read
  rw [Context.readOn, after]
  cases gives with
  | again _ rest pending =>
    have kept : d.IsAgain := again (position, d) (by simp [pending])
    rw [same] at kept
    rcases kind with rfl | ⟨how, target, rfl⟩ <;> cases kept
  | line line stream pending => exact ⟨pending, pending⟩
  | ended _ pending _ _ drained => exact ⟨pending, drained⟩

/-! ## Lines by the history -/

/-- The line that a step has taken from the file with a number. -/
def Moment.line? (n : Nat) (mo : Moment) : Option String :=
  match mo.before.stack with
  | [] => none
  | c :: _ => if c.stream = n then c.reader.line? else none

/-- The lines taken from the file with a number, the first one first. -/
def linesTaken (n : Nat) (log : List Moment) : List String :=
  (log.filterMap (Moment.line? n)).reverse

/-- What was shown in the steps of the file with a number, the first entry first. -/
def shownIn (n : Nat) : List Moment → List Entry
  | [] => []
  | mo :: earlier => shownIn n earlier ++ if mo.before.top? = some n then entriesOf mo.seen else []

theorem shownIn_top (c : Context) (below : List Context) (shared : Shared) (seen : List Event) (next : Build)
    (log : List Moment) :
    shownIn c.stream (⟨⟨c :: below, shared⟩, seen, next⟩ :: log) = shownIn c.stream log ++ entriesOf seen := by
  rw [shownIn]
  exact congrArg _ (if_pos rfl)

theorem shownIn_other (other : c.stream ≠ n) :
    shownIn n (⟨⟨c :: below, shared⟩, seen, next⟩ :: log) = shownIn n log := by
  have elsewhere : (⟨c :: below, shared⟩ : Build).top? ≠ some n := fun top => other (Option.some_inj.1 top)
  rw [shownIn, if_neg elsewhere, List.append_nil]

/-- The file with a number, if a step has just opened it. -/
def Moment.opened? (n : Nat) (mo : Moment) : Option Context :=
  mo.after.stack.head?.filter fun c => mo.before.shared.opened ≤ n && c.stream = n

/-- What the reads of the file with a number answer from its opening on; the document has the number 0. -/
def contentsOf (stream : Stream) (n : Nat) (log : List Moment) : List (Except Fault String) :=
  match log.findSome? (Moment.opened? n) with
  | some c => c.reader.stream.reads
  | none => stream.reads

theorem contentsOf_old (stream : Stream) (log : List Moment) (old : n < mo.before.shared.opened) :
    contentsOf stream n (mo :: log) = contentsOf stream n log := by
  have none : mo.opened? n = none := by
    simp [Moment.opened?, Nat.not_le.2 old]
  rw [contentsOf, contentsOf, List.findSome?_cons, none]

theorem contentsOf_new (stream : Stream) (log : List Moment) (top : mo.after.stack.head? = some c)
    (new : mo.before.shared.opened ≤ c.stream) :
    contentsOf stream c.stream (mo :: log) = c.reader.stream.reads := by
  have some : mo.opened? c.stream = some c := by simp [Moment.opened?, top, new]
  rw [contentsOf, List.findSome?_cons, some]

theorem linesTaken_cons (n : Nat) (mo : Moment) (log : List Moment) :
    linesTaken n (mo :: log) = linesTaken n log ++ (mo.line? n).toList := by
  unfold linesTaken
  cases taken : mo.line? n <;> simp [taken]

theorem linesTaken_top (c : Context) (below : List Context) (shared : Shared) (seen : List Event) (next : Build)
    (log : List Moment) :
    linesTaken c.stream (⟨⟨c :: below, shared⟩, seen, next⟩ :: log) =
      linesTaken c.stream log ++ c.reader.line?.toList := by
  rw [linesTaken_cons, Moment.line?]
  exact congrArg (fun line : Option String => _ ++ line.toList) (if_pos rfl)

theorem linesTaken_other (other : c.stream ≠ n) :
    linesTaken n (⟨⟨c :: below, shared⟩, seen, next⟩ :: log) = linesTaken n log := by
  rw [linesTaken_cons, Moment.line?]
  simp only [if_neg other, Option.toList_none, List.append_nil]

/-! ## One step -/

/-- Where a file is, of what it was opened with, that these lines were taken from. -/
structure Placed (contents : List (Except Fault String)) (lines : List String) (c : Context) : Prop where
  position : c.reader.position = lines.length
  tagged : ∀ item ∈ c.reader.pending, item.1 = c.reader.position
  contents_eq : contents = lines.map .ok ++ c.reader.stream.reads
  untouched : lines = [] → c.reader.pending = [] ∧ c.watch.running = false

variable {contents : List (Except Fault String)} {lines : List String}

/-- A file after a read, and where the directive stands that was read. -/
theorem placed_of_read (placed : Placed contents lines c) (m : Markers) :
    (c.readOn m).reader.position = (lines ++ c.reader.line?.toList).length ∧
      (∀ item ∈ (c.readOn m).reader.pending, item.1 = (c.readOn m).reader.position) ∧
      ∀ position d, (c.reader.read m).1 = .ok (position, d) → position = (c.readOn m).reader.position := by
  obtain ⟨position, tagged, -, -⟩ := placed
  have gives := c.reader.gives_of_read m
  unfold Context.readOn
  generalize (c.reader.read m).1 = answer at gives
  generalize (c.reader.read m).2 = reader at gives
  cases gives with
  | again item rest pending none =>
    rw [pending] at tagged
    obtain ⟨first, others⟩ := List.forall_mem_cons.1 tagged
    refine ⟨by simpa [none] using position, others, fun _ _ e => ?_⟩
    cases e
    exact first
  | line line stream pending taken =>
    refine ⟨by simp [taken, position], by simp [pending], fun _ _ e => ?_⟩
    cases e
    rfl
  | ended reader pending none same drained =>
    refine ⟨by simpa [none, same] using position, by simp [drained], fun _ _ e => ?_⟩
    cases e
    exact same.symm
  | failed why stream pending none =>
    exact ⟨by simpa [none] using position, by simp [pending], fun _ _ e => by cases e⟩

/-- The line that is taken is the next one of the file. -/
theorem Placed.prefix_of_line (placed : Placed contents lines c) :
    (lines ++ c.reader.line?.toList).map .ok <+: contents := by
  rw [placed.contents_eq, List.map_append]
  refine (List.prefix_append_right_inj _).2 ?_
  cases taken : c.reader.line? with
  | none => exact List.nil_prefix
  | some line =>
    obtain ⟨rest, reads⟩ := Reader.reads_of_line? taken
    exact ⟨rest, reads.symm⟩

/-- A file that is put on top is at its beginning. -/
theorem placed_of_child (c : Context) (shared : Shared) (how : Inclusion) (file : Path) (stream : Stream) :
    Placed (c.child shared how file stream).1.reader.stream.reads [] (c.child shared how file stream).1 := by
  cases how <;> exact ⟨rfl, List.forall_mem_nil _, rfl, fun _ => ⟨rfl, rfl⟩⟩

/-- What is read in a file that stays open: what it was given to read again, or a line. -/
theorem line_of_stays
    (h : reactionTo site shared (c.readOn site.markers) below (c.reader.read site.markers).1 = .ok r)
    (stays : r.move ≠ .leave) :
    c.reader.stream.reads = (c.reader.line?.toList.map .ok) ++ r.context.reader.stream.reads ∧
      (c.reader.pending = [] → c.reader.line? ≠ none) := by
  obtain ⟨⟨position, d, read, open_⟩, same⟩ := stream_of_reaction h stays
  obtain ⟨reader, after, gives⟩ := Reader.exists_gives read
  rw [same, Context.readOn, after]
  cases gives with
  | again _ rest some none =>
    refine ⟨by rw [none]; rfl, fun empty => ?_⟩
    rw [empty] at some
    cases some
  | line line stream _ taken reads => exact ⟨by rw [taken]; exact reads, fun _ => by simp [taken]⟩
  | ended => exact absurd rfl open_

theorem placed_of_reaction (placed : Placed contents lines c)
    (h : reactionTo site shared (c.readOn site.markers) below (c.reader.read site.markers).1 = .ok r)
    (stays : r.move ≠ .leave) : Placed contents (lines ++ c.reader.line?.toList) r.context := by
  obtain ⟨position, tagged, at_⟩ := placed_of_read placed site.markers
  obtain ⟨reads, given⟩ := line_of_stays h stays
  have whole : contents = (lines ++ c.reader.line?.toList).map .ok ++ r.context.reader.stream.reads := by
    rw [placed.contents_eq, reads, List.map_append, List.append_assoc]
  have touched : lines ++ c.reader.line?.toList ≠ [] := by
    intro e
    obtain ⟨none, nothing⟩ := List.append_eq_nil_iff.1 e
    exact given (placed.untouched none).1 (by simpa using nothing)
  have again : ∀ p, p = (c.readOn site.markers).reader.position → ∀ ds,
      r.context.reader = (c.readOn site.markers).reader.pushBack p ds →
      Placed contents (lines ++ c.reader.line?.toList) r.context := by
    rintro p rfl ds e
    refine ⟨by rw [e]; exact position, fun item mem => ?_, whole, fun none => absurd none touched⟩
    rw [e] at mem ⊢
    rcases List.mem_append.1 mem with mem | mem
    · obtain ⟨d, -, rfl⟩ := List.mem_map.1 mem
      rfl
    · exact tagged item mem
  rcases reaction_reads h with ⟨p, d, read, h⟩ | ⟨why, -, rfl⟩
  · rcases Context.reader_of_react h stays with e | ⟨ds, -, e⟩ | ⟨_, _, text, -, e⟩
    · exact ⟨by rw [e]; exact position, by rw [e]; exact tagged, whole, fun none => absurd none touched⟩
    · exact again p (at_ p d read) ds e
    · exact again p (at_ p d read) _ e
  · exact absurd rfl stays

/-- A file that gives no line in a step, and gave none before, shows nothing then unless it cannot be read. -/
theorem shown_of_untouched (placed : Placed contents [] c) (none : c.reader.line? = none)
    (h : reactionTo site shared (c.readOn site.markers) below (c.reader.read site.markers).1 = .ok r) :
    entriesOf r.events = [] ∨
      ∃ why, (c.reader.read site.markers).1 = .error (.fault why) ∧ c.reader.position = 0 ∧
        entriesOf r.events = [c.warningEntry 0 ("could not read " ++ c.path.text ++ ", " ++ why.text)] := by
  obtain ⟨empty, asleep⟩ := placed.untouched rfl
  have position : (c.readOn site.markers).reader.position = 0 := by
    rw [(placed_of_read placed site.markers).1, none]; rfl
  rcases reaction_reads h with ⟨p, d, read, h⟩ | ⟨why, read, rfl⟩
  · obtain ⟨_, -, gives⟩ := Reader.exists_gives read
    cases gives with
    | again _ rest some => rw [empty] at some; cases some
    | line line stream _ some => rw [none] at some; cases some
    | ended =>
      rw [Scopes.apply_close] at h
      cases h
      exact .inl (Context.entriesOf_leaving_asleep asleep)
  · refine .inr ⟨why, read, placed.position, ?_⟩
    rw [Context.abandon, entriesOf_append, Context.entriesOf_warn, position,
      Context.entriesOf_leaving_asleep (show (c.readOn site.markers).watch.running = false from asleep)]
    rfl

/-- What a step shows comes from the line that was taken last. -/
theorem shown_of_reaction (placed : Placed contents lines c)
    (h : reactionTo site shared (c.readOn site.markers) below (c.reader.read site.markers).1 = .ok r) :
    ∀ e ∈ entriesOf r.events, e.source = c.path ∧ e.position = (lines ++ c.reader.line?.toList).length := by
  obtain ⟨position, -, at_⟩ := placed_of_read placed site.markers
  rw [← position]
  rcases reaction_reads h with ⟨p, d, read, h⟩ | ⟨why, -, rfl⟩
  · intro e mem
    obtain ⟨source, shown | ⟨-, -, shown⟩⟩ := (Context.shows_of_react h).from_file e mem
    · exact ⟨source, shown.trans (at_ p d read)⟩
    · exact ⟨source, shown⟩
  · intro e mem
    rw [Context.abandon, entriesOf_append, Context.entriesOf_warn] at mem
    rcases List.mem_append.1 mem with mem | mem
    · cases List.mem_singleton.1 mem
      exact ⟨rfl, rfl⟩
    · obtain ⟨source, shown | ⟨-, -, shown⟩⟩ :=
        (Context.shows_of_leaving _ shared (c.readOn site.markers).reader.position _).from_file e mem
      · exact ⟨source, shown⟩
      · exact ⟨source, shown⟩

theorem leaves_of_settle (left : (settle below r).stack = below) : r.move = .leave := by
  have same := congrArg List.length left
  unfold settle at same
  cases moves : r.move with
  | leave => rfl
  | stay => simp [moves] at same
  | enter child => simp [moves] at same; omega

/-- A file is left only when nothing is left to read again. -/
theorem pending_of_leave (again : ∀ item ∈ c.reader.pending, item.2.IsAgain)
    (h : reactionTo site shared (c.readOn site.markers) below (c.reader.read site.markers).1 = .ok r)
    (moves : r.move = .leave) : c.reader.pending = [] := by
  rcases reaction_reads h with ⟨p, d, read, h⟩ | ⟨why, read, -⟩
  · exact (pending_of_apply again read (Context.react_leave h moves) (.inl rfl)).1
  · obtain ⟨_, -, gives⟩ := Reader.exists_gives read
    cases gives with
    | failed _ _ pending => exact pending

/-! ## All steps -/

/-- Where the open files are, by their lines, and that only the one on top has something to read again. -/
structure Positioned (stream : Stream) (log : List Moment) (b : Build) : Prop where
  placed : ∀ c ∈ b.stack, Placed (contentsOf stream c.stream log) (linesTaken c.stream log) c
  waiting : ∀ c ∈ b.stack.tail, c.reader.pending = []
  unread : ∀ n, b.shared.opened ≤ n → linesTaken n log = []
  first : ∀ n, (linesTaken n log).map .ok <+: contentsOf stream n log

/-- Only the file on top takes a line; the one that is put on top of it is new, so that none was taken there. -/
theorem placed_of_step (numbered : Numbered ⟨c :: below, shared⟩)
    (positioned : Positioned stream log ⟨c :: below, shared⟩)
    (h : reactionTo site shared (c.readOn site.markers) below (c.reader.read site.markers).1 = .ok r) :
    ∀ file ∈ (settle below r).stack,
      Placed (contentsOf stream file.stream (⟨⟨c :: below, shared⟩, seen, settle below r⟩ :: log))
        (linesTaken file.stream (⟨⟨c :: below, shared⟩, seen, settle below r⟩ :: log)) file := by
  obtain ⟨newest, above, -⟩ := numbered_iff.1 numbered
  obtain ⟨top, others⟩ := List.forall_mem_cons.1 positioned.placed
  have number : r.context.stream = c.stream := (same_of_reaction h).1.stream
  intro file mem
  rcases mem_settle mem with old | ⟨rfl, stays⟩ | moves
  · rw [linesTaken_other (Nat.ne_of_gt (above file old)), contentsOf_old _ _ (Nat.lt_trans (above file old) newest)]
    exact others file old
  · rw [number, linesTaken_top, contentsOf_old _ _ newest]
    exact placed_of_reaction top h stays
  · obtain ⟨_, _, how, _, path, content, _, _, _, _, _, _, rfl⟩ := reaction_enter h moves
    have new := (c.readOn site.markers).stream_of_child shared how path content
    have entered : (settle below r).stack.head? = some ((c.readOn site.markers).child shared how path content).1 := by
      rw [settle, moves]; rfl
    rw [linesTaken_other (by omega), contentsOf_new _ _ entered (Nat.le_of_eq new.symm),
      positioned.unread _ (Nat.le_of_eq new.symm)]
    exact placed_of_child _ shared how path content

/-- A file waits for another one only where nothing is left to read again in it. -/
theorem waiting_of_step (again : ∀ item ∈ c.reader.pending, item.2.IsAgain)
    (waiting : ∀ file ∈ below, file.reader.pending = [])
    (h : reactionTo site shared (c.readOn site.markers) below (c.reader.read site.markers).1 = .ok r) :
    ∀ file ∈ (settle below r).stack.tail, file.reader.pending = [] := by
  cases moves : r.move with
  | stay => rw [settle, moves]; exact waiting
  | leave => rw [settle, moves]; exact fun file mem => waiting file (List.mem_of_mem_tail mem)
  | enter child =>
    obtain ⟨position, d, how, target, _, _, read, inclusion, -, -, -, entered, -⟩ := reaction_enter h moves
    rw [settle, moves]
    refine List.forall_mem_cons.2 ⟨?_, waiting⟩
    rw [entered]
    exact (pending_of_apply again read inclusion (.inr ⟨how, target, rfl⟩)).2

/-- The lines taken from a file are the first ones of it, also when it is left. -/
theorem first_of_step (numbered : Numbered ⟨c :: below, shared⟩)
    (positioned : Positioned stream log ⟨c :: below, shared⟩) (n : Nat) :
    (linesTaken n (⟨⟨c :: below, shared⟩, seen, next⟩ :: log)).map .ok <+:
      contentsOf stream n (⟨⟨c :: below, shared⟩, seen, next⟩ :: log) := by
  obtain ⟨newest, -, -⟩ := numbered_iff.1 numbered
  by_cases top : c.stream = n
  · subst top
    rw [linesTaken_top, contentsOf_old _ _ newest]
    exact (positioned.placed c List.mem_cons_self).prefix_of_line
  · rw [linesTaken_other top]
    rcases Nat.lt_or_ge n shared.opened with old | new
    · rw [contentsOf_old _ _ old]
      exact positioned.first n
    · rw [positioned.unread n new]
      exact List.nil_prefix

theorem positioned_of_step (numbered : b.Numbered) (again : ∀ c ∈ b.stack, ∀ item ∈ c.reader.pending, item.2.IsAgain)
    (positioned : Positioned stream log b) (more : b.stack ≠ []) (taken : b.step site = (.ok next, seen)) :
    Positioned stream (⟨b, seen, next⟩ :: log) next := by
  obtain ⟨stack, shared⟩ := b
  cases stack with
  | nil => exact absurd rfl more
  | cons c below =>
    obtain ⟨r, h, rfl, -⟩ := exists_reaction taken
    obtain ⟨newest, -, -⟩ := numbered_iff.1 numbered
    have opened : shared.opened ≤ r.shared.opened := (same_of_reaction h).2
    refine ⟨placed_of_step numbered positioned h, waiting_of_step (again c List.mem_cons_self) positioned.waiting h,
      fun n unopened => ?_, first_of_step numbered positioned⟩
    rw [shared_settle] at unopened
    rw [linesTaken_other (by omega)]
    exact positioned.unread n (Nat.le_trans opened unopened)

theorem positioned_of_recorded (recorded : Recorded m path stream log b) : Positioned stream log b := by
  induction recorded with
  | start =>
    exact ⟨List.forall_mem_singleton.2 ⟨rfl, List.forall_mem_nil _, rfl, fun _ => ⟨rfl, rfl⟩⟩,
      List.forall_mem_nil _, fun _ _ => rfl, fun _ => List.nil_prefix⟩
  | step site recorded same more taken ih =>
    exact positioned_of_step recorded.numbered (again_of_underway recorded.underway_originsOf) ih more taken

theorem shown_of_step (positioned : Positioned stream log ⟨c :: below, shared⟩)
    (taken : step site ⟨c :: below, shared⟩ = (.ok next, seen)) :
    ∀ e ∈ entriesOf seen, e.source = c.path ∧
      e.position = (linesTaken c.stream (⟨⟨c :: below, shared⟩, seen, next⟩ :: log)).length := by
  obtain ⟨r, h, -, rfl⟩ := exists_reaction taken
  rw [linesTaken_top, entriesOf_append, entriesOf_reading, List.nil_append]
  exact shown_of_reaction (positioned.placed c List.mem_cons_self) h

/-- What a file shows is in the order of its lines, up to the one that was taken last. -/
theorem ordered_of_recorded (recorded : Recorded m path stream log b) (n : Nat) :
    ((shownIn n log).map Entry.position).Pairwise (· ≤ ·) ∧
      ∀ e ∈ shownIn n log, e.position ≤ (linesTaken n log).length := by
  induction recorded with
  | start => exact ⟨.nil, List.forall_mem_nil _⟩
  | @step log b next seen site recorded same more taken ih =>
    obtain ⟨ordered, upTo⟩ := ih
    obtain ⟨stack, shared⟩ := b
    cases stack with
    | nil => exact absurd rfl more
    | cons c below =>
      by_cases top : c.stream = n
      · subst top
        have shown := shown_of_step (positioned_of_recorded recorded) taken
        have grown := linesTaken_top c below shared seen next log
        have further : (linesTaken c.stream log).length ≤
            (linesTaken c.stream (⟨⟨c :: below, shared⟩, seen, next⟩ :: log)).length := by
          rw [grown]; simp
        rw [shownIn_top, List.map_append, List.pairwise_append]
        refine ⟨⟨ordered, ?_, ?_⟩, ?_⟩
        · refine List.pairwise_map.2 (List.pairwise_of_forall_mem_list fun e mem e' mem' => ?_)
          exact Int.le_of_eq ((shown e mem).2.trans (shown e' mem').2.symm)
        · simp only [List.forall_mem_map]
          intro e mem e' mem'
          have := upTo e mem
          rw [(shown e' mem').2]
          omega
        · intro e mem
          rcases List.mem_append.1 mem with mem | mem
          · have := upTo e mem
            omega
          · exact Int.le_of_eq (shown e mem).2
      · rw [shownIn_other top, linesTaken_other top]
        exact ⟨ordered, upTo⟩

/-- **Positions.**  The position of an open file is the number of the lines taken from it, which are the first ones
of what it was opened with.  What it is given to read again stands there, and only the file on top has any of it: so
nothing of it is lost when a file is left.  What a step shows stands at the line taken last from the file that is
read, so that what a file shows is in the order of its lines; and before the first line nothing is shown of a file
but that it cannot be read. -/
theorem positions_kept (site : Site) (recorded : Recorded site.markers path stream log b) :
    (∀ c ∈ b.stack, c.reader.position = (linesTaken c.stream log).length ∧
      ∀ item ∈ c.reader.pending, item.1 = c.reader.position ∧ item.2.IsAgain) ∧
    (∀ c ∈ b.stack.tail, c.reader.pending = []) ∧
    (∀ n, (linesTaken n log).map .ok <+: contentsOf stream n log ∧
      ((shownIn n log).map Entry.position).Pairwise (· ≤ ·)) ∧
    ∀ c below next seen, b.stack = c :: below → b.step site = (.ok next, seen) →
      (next.stack = below → c.reader.pending = [] ∧
        (b.dispatched? site.markers = some .close ∨ ∃ why, (c.reader.read site.markers).1 = .error why)) ∧
      ∀ e ∈ entriesOf seen, e.source = c.path ∧ e.position = (linesTaken c.stream (⟨b, seen, next⟩ :: log)).length ∧
        (e.position = 0 → c.reader.position = 0 ∧ ∃ why, (c.reader.read site.markers).1 = .error (.fault why) ∧
          e = c.warningEntry 0 ("could not read " ++ c.path.text ++ ", " ++ why.text)) := by
  have again := again_of_underway recorded.underway_originsOf
  have positioned := positioned_of_recorded recorded
  refine ⟨fun c mem => ⟨(positioned.placed c mem).position, fun item waits =>
      ⟨(positioned.placed c mem).tagged item waits, again c mem item waits⟩⟩, positioned.waiting,
    fun n => ⟨positioned.first n, (ordered_of_recorded recorded n).1⟩, ?_⟩
  obtain ⟨stack, shared⟩ := b
  rintro c below next seen rfl taken
  have placed := positioned.placed c List.mem_cons_self
  obtain ⟨r, h, rfl, rfl⟩ := exists_reaction taken
  refine ⟨fun left => ?_, fun e mem => ?_⟩
  · have moves := leaves_of_settle left
    refine ⟨pending_of_leave (again c List.mem_cons_self) h moves, ?_⟩
    rcases reaction_cases h with ⟨position, d, dispatched, h⟩ | ⟨why, read, -⟩
    · exact .inl (by rw [dispatched, Context.react_leave h moves])
    · exact .inr ⟨.fault why, read⟩
  · obtain ⟨source, position⟩ := shown_of_step positioned taken e mem
    refine ⟨source, position, fun zero => ?_⟩
    rw [zero, linesTaken_top] at position
    have untouched : linesTaken c.stream log ++ c.reader.line?.toList = [] :=
      List.length_eq_zero_iff.1 (Int.ofNat_eq_zero.1 position.symm)
    obtain ⟨before, now⟩ := List.append_eq_nil_iff.1 untouched
    rw [before] at placed
    rw [entriesOf_append, entriesOf_reading, List.nil_append] at mem
    rcases shown_of_untouched placed (by simpa using now) h with none | ⟨why, read, first, shown⟩
    · rw [none] at mem
      cases mem
    · rw [shown] at mem
      exact ⟨first, why, read, List.mem_singleton.1 mem⟩

/-- A warning that was collected at the second line of a document and is read again at the fifth. -/
theorem positions_kept_to_display :
    ∃ log c shared next seen,
      Recorded {} ⟨.root, ["menu"]⟩ (.ofLines ["#-watch", "#-warning a", "#-then", "#-else", "#-display-warnings"]) log
        ⟨[c], shared⟩ ∧
      c.reader.position = (linesTaken 0 log).length ∧ c.reader.pending = [(5, .warning "a")] ∧
      step .bare ⟨[c], shared⟩ = (.ok next, seen) ∧ entriesOf seen = [c.warningEntry 5 "a"] ∧
      ∀ e ∈ entriesOf seen, e.position = (linesTaken 0 (⟨⟨[c], shared⟩, seen, next⟩ :: log)).length := by
  have begun : Recorded {} ⟨.root, ["menu"]⟩
      (.ofLines ["#-watch", "#-warning a", "#-then", "#-else", "#-display-warnings"]) [] _ := .start
  have resolved := ((begun.step .bare rfl nofun rfl).step .bare rfl nofun rfl).step .bare rfl nofun rfl
  have turned := (resolved.step .bare rfl nofun rfl).step .bare rfl nofun rfl
  have collected := (turned.step .bare rfl nofun rfl).step .bare rfl nofun rfl
  have displayed := (collected.step .bare rfl nofun rfl).step .bare rfl nofun rfl
  obtain ⟨placed, -, -, steps⟩ := positions_kept .bare displayed
  obtain ⟨-, shown⟩ := steps _ _ _ _ rfl rfl
  exact ⟨_, _, _, _, _, displayed, (placed _ List.mem_cons_self).1, rfl, rfl, rfl, fun e mem => (shown e mem).2.1⟩

end Build

end Menu
