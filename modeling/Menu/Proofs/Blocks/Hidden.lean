import Mathlib.Data.List.Infix
import Menu.Proofs.Blocks.Order

/-!
# Lines of a suppressed block

A suppressed block makes nothing of its lines, and so nothing of the lines in it that begin blocks either.
The first line that ends a block is the end of the suppressed block itself, whatever block it was written for:
all that follows it is no longer suppressed.

* `leads_of_hidden`: up to that line, nothing happens but that the file is read on.
* `Context.Owes`: once it was read, the file has too few open blocks for the lines that it still has to read,
  and stays so (`owes_of_reaction`).
* `hidden_iff`: lines that are balanced in their blocks are hidden as a whole exactly if no block is among
  them.
-/

namespace Menu

/-! ## Lines ahead -/

namespace Reader

variable {m : Markers} {r : Reader} {line : String} {lines : List String} {rest : List (Except Fault String)}

/-- The lines that the stream of a reader gives next, and what it gives then. -/
structure Ahead (r : Reader) (lines : List String) (rest : List (Except Fault String)) : Prop where
  unclosed : r.closed = false
  before : r.atEnd = false
  reads : r.stream.reads = lines.map .ok ++ rest

/-- A reader past some lines. -/
def past (r : Reader) (lines : List String) (rest : List (Except Fault String)) : Reader :=
  { r with stream := { r.stream with reads := rest }, position := r.position + lines.length }

theorem past_nil (ahead : r.Ahead [] rest) : r.past [] rest = r := by
  obtain ⟨⟨reads, broken⟩, position, pending, atEnd, closed⟩ := r
  obtain ⟨-, -, reads_eq⟩ := ahead
  simp only [List.map_nil, List.nil_append] at reads_eq
  simp [past, reads_eq]

theorem past_cons (r : Reader) (line : String) (lines : List String) (rest : List (Except Fault String)) :
    (r.past [line] (lines.map .ok ++ rest)).past lines rest = r.past (line :: lines) rest := by
  simp only [past, List.length_cons, List.length_nil]
  congr 1
  omega

theorem Ahead.past (ahead : r.Ahead (line :: lines) rest) :
    (r.past [line] (lines.map .ok ++ rest)).Ahead lines rest :=
  ⟨ahead.unclosed, ahead.before, rfl⟩

theorem Ahead.pushBack (ahead : r.Ahead lines rest) (position : Int) (ds : List Directive) :
    (r.pushBack position ds).Ahead lines rest :=
  ⟨ahead.unclosed, ahead.before, ahead.reads⟩

/-- A reader past some lines has none of them ahead. -/
theorem Ahead.eq_nil {todo : List String} (ahead : (r.past lines rest).Ahead todo rest) : todo = [] := by
  have reads : rest = todo.map .ok ++ rest := ahead.reads
  have lengths := congrArg List.length reads
  rw [List.length_append, List.length_map] at lengths
  exact List.length_eq_zero_iff.1 (by omega)

theorem read_of_ahead (pending : r.pending = []) (ahead : r.Ahead (line :: lines) rest) :
    r.read m = (.ok (r.position + 1, m.parse line), r.past [line] (lines.map .ok ++ rest)) := by
  have reads : r.stream.reads = .ok line :: (lines.map .ok ++ rest) := ahead.reads
  simp [read, pending, ahead.before, Stream.next, ahead.unclosed, reads, Reader.past]

end Reader

/-! ## Balanced lines -/

namespace Directive

/-- Whether a directive begins a block that has to be ended; an `else` goes with the block before it. -/
def begins : Directive → Bool
  | .ignoreWarnings => true
  | .ignoreText => true
  | .thenBlock => true
  | _ => false

def ends : Directive → Bool
  | .endBlock _ => true
  | _ => false

end Directive

namespace Markers

variable {m : Markers} {lines done todo : List String}

/-- The number of lines that begin a block. -/
def begun (m : Markers) (lines : List String) : Nat :=
  lines.countP fun line => (m.parse line).begins

/-- The number of lines that end a block. -/
def ended (m : Markers) (lines : List String) : Nat :=
  lines.countP fun line => (m.parse line).ends

/-- Lines that end each block which they begin, and no other. -/
structure Balanced (m : Markers) (lines : List String) : Prop where
  sane : ∀ done, done <+: lines → m.ended done ≤ m.begun done
  settled : m.begun lines = m.ended lines

instance (m : Markers) (lines : List String) : Decidable (m.Balanced lines) :=
  decidable_of_iff
    ((∀ done ∈ lines.inits, m.ended done ≤ m.begun done) ∧ m.begun lines = m.ended lines)
    ⟨fun h => ⟨fun done early => h.1 done ((List.mem_inits _ _).2 early), h.2⟩,
      fun h => ⟨fun done mem => h.sane done ((List.mem_inits _ _).1 mem), h.settled⟩⟩

/-- The last lines of balanced ones end at least as many blocks as they begin. -/
theorem Balanced.begun_le (balanced : m.Balanced (done ++ todo)) : m.begun todo ≤ m.ended todo := by
  have early := balanced.sane done (List.prefix_append done todo)
  have whole := balanced.settled
  simp only [begun, ended, List.countP_append] at early whole ⊢
  omega

end Markers

/-! ## Up to the first end -/

/-- A suppressed block makes nothing of a line that is neither its end, nor the end of the file, nor an
`else`. -/
theorem Scopes.apply_of_hidden {s : Scope} {outer : Scopes} {d : Directive} (regular : Regular (s :: outer))
    (blocks : s.rule.blocks = true) (written : d.isWritten = true) (plain : d ≠ .elseBlock ∧ d ≠ .close)
    (endless : d ≠ .endBlock false) : apply (s :: outer) d = .noop := by
  rcases apply_of_blocks regular blocks d with e | ⟨automatic, e⟩ | ⟨e, -⟩ | e
  · exact absurd e plain.2
  · subst e
    cases automatic with
    | false => exact absurd rfl endless
    | true => cases written
  · exact absurd e plain.1
  · exact e

namespace Build

variable {m : Markers} {site : Site} {path : Path} {stream : Stream} {origins : List Origin}
  {b next last : Build} {c : Context} {below : List Context} {shared : Shared} {r : Reaction}
  {events : List Event} {s : Scope} {outer : Scopes} {line : String} {lines : List String}
  {rest : List (Except Fault String)}

/-- Lines of a suppressed block among which there is no end, no `else` and no `close`. -/
theorem leads_of_hidden (regular : Scopes.Regular (s :: outer)) (blocks : s.rule.blocks = true)
    (scopes : c.scopes = s :: outer) (pending : c.reader.pending = []) (ahead : c.reader.Ahead lines rest)
    (plain : ∀ line ∈ lines, site.markers.parse line ≠ .elseBlock ∧ site.markers.parse line ≠ .close)
    (endless : ∀ line ∈ lines, site.markers.parse line ≠ .endBlock false) :
    Leads site ⟨c :: below, shared⟩ (lines.map fun _ => .read c.stream)
      ⟨{ c with reader := c.reader.past lines rest } :: below, shared⟩ := by
  induction lines generalizing c with
  | nil =>
    rw [Reader.past_nil ahead]
    exact .refl _
  | cons line lines ih =>
    have read := Reader.read_of_ahead (m := site.markers) pending ahead
    have written := site.markers.isWritten_parse line
    obtain ⟨plain_line, plain⟩ := List.forall_mem_cons.1 plain
    obtain ⟨endless_line, endless⟩ := List.forall_mem_cons.1 endless
    have dropped : c.scopes.apply (site.markers.parse line) = .noop := by
      rw [scopes]
      exact Scopes.apply_of_hidden regular blocks written plain_line endless_line
    have reaction : reactionTo site shared (c.readOn site.markers) below (c.reader.read site.markers).1 =
        .ok ⟨c.readOn site.markers, shared, .stay, []⟩ := by
      rw [read, reactionTo, show (c.readOn site.markers).scopes = c.scopes from rfl, dropped, Context.react]
    have needs : reading c = [.read c.stream] := by
      simp [reading, Reader.needsStream, pending, ahead.before]
    have taken := step_of_reaction reaction
    rw [needs, settle, Context.readOn, read] at taken
    have later := ih (c := { c with reader := c.reader.past [line] (lines.map .ok ++ rest) }) scopes pending
      ahead.past plain endless
    rw [Reader.past_cons] at later
    exact .step (by simp) taken later

end Build

/-! ## From the first end on -/

namespace Context

variable {m : Markers} {site : Site} {depth : Nat} {shared : Shared} {c : Context} {position : Int}
  {d : Directive} {r : Reaction} {s : Scope} {outer scopes : Scopes} {line : String}
  {lines done todo : List String} {rest : List (Except Fault String)}

/-- A directive that begins a block is carried out only where nothing is suppressed. -/
theorem clear_of_opens (regular : c.scopes.Regular) (opens : (c.scopes.apply d).opens = true) :
    c.scopes.Clear := by
  rcases Scopes.apply_of_regular regular d with e | e | ⟨_, _, _, _, _, e⟩ | ⟨_, _, e⟩
  · rw [e] at opens
    exact Scopes.clear_of_apply_eq regular opens e
  all_goals rw [e] at opens; cases opens

theorem regular_of_react (regular : c.scopes.Regular)
    (h : c.react site depth shared position (c.scopes.apply d) = .ok r) : r.context.scopes.Regular := by
  rcases scopes_of_react h with e | ⟨_, -, e⟩ | ⟨opens, e⟩ | ⟨opens, e⟩ | ⟨opens, -, e⟩ | ⟨opens, -, e⟩
  · rw [e]; exact regular
  · rw [e]; exact regular.tail
  all_goals
    rw [e]
    exact regular.push (clear_of_opens regular (by rw [opens]; rfl)) nofun

theorem length_scopes_le (other : d ≠ .elseBlock) (h : c.react site depth shared position d = .ok r) :
    r.context.scopes.length ≤ c.scopes.length + (if d.begins then 1 else 0) := by
  rcases scopes_of_react h with e | ⟨_, -, e⟩ | ⟨rfl, e⟩ | ⟨rfl, e⟩ | ⟨rfl, -, e⟩ | ⟨e, -⟩
  · rw [e]; omega
  · rw [e, List.length_tail]; omega
  · rw [e]; simp [Directive.begins]
  · rw [e]; simp [Directive.begins]
  · rw [e]; simp [Directive.begins]
  · exact absurd e other

/-- Unless something is shown, the number of open blocks goes up only by a directive that begins one, and goes
down by the end of one. -/
theorem length_of_react (regular : c.scopes.Regular) (other : d ≠ .elseBlock)
    (written : d.isWritten = true) (h : c.react site depth shared position (c.scopes.apply d) = .ok r)
    (quiet : entriesOf r.events = []) :
    r.context.scopes.length + (if d.ends then 1 else 0) ≤
      c.scopes.length + (if d.begins then 1 else 0) := by
  cases ends : d.ends with
  | true =>
    obtain rfl : d = .endBlock false := by
      cases d <;> cases ends
      simpa [Directive.isWritten] using written
    rw [Scopes.apply_endBlock regular] at h
    cases h
    rw [scopes_of_endBlock shared position regular]
    cases scopes : c.scopes with
    | nil =>
      simp only [endBlock, scopes] at quiet
      cases quiet
    | cons s outer => simp [Directive.begins]
  | false =>
    have applied : c.scopes.apply d = d ∨
        (c.scopes.apply d).begins = false ∧ c.scopes.apply d ≠ .elseBlock := by
      rcases Scopes.apply_of_regular regular d with e | e | ⟨_, _, _, _, e, _⟩ | ⟨_, _, e⟩
      · exact .inl e
      · exact .inr (by rw [e]; exact ⟨rfl, by simp⟩)
      · exact absurd e other
      · exact .inr (by rw [e]; exact ⟨rfl, by simp⟩)
    rcases applied with passed | ⟨begins, other⟩
    · rw [passed] at h
      simpa using length_scopes_le other h
    · have bound := length_scopes_le other h
      rw [begins] at bound
      simp only [Bool.false_eq_true, if_false] at bound ⊢
      omega

/-- The file of a suppressed block, on its way through lines one of which is an end.  Before the first end the
block is open; after it, the file has too few open blocks for the lines that are left. -/
inductive Owes (m : Markers) (scopes : Scopes) (lines : List String) (rest : List (Except Fault String))
    (c : Context) : Prop
  | hidden (done todo : List String) :
    lines = done ++ todo → c.reader.pending = [] → c.reader.Ahead todo rest → c.scopes = scopes →
    (∃ line ∈ todo, m.parse line = .endBlock false) → Owes m scopes lines rest c
  | short (done todo : List String) :
    lines = done ++ todo → (∀ item ∈ c.reader.pending, ∃ text, item.2 = .warning text) →
    c.reader.Ahead todo rest → c.scopes.Regular →
    c.scopes.length + m.begun todo < scopes.length + m.ended todo → Owes m scopes lines rest c
  | past : c.reader.stream.reads.length < rest.length → Owes m scopes lines rest c

/-- A line of the suppressed block leaves the block open, or is an end, the first one. -/
theorem owes_of_hidden_line (regular : Scopes.Regular (s :: outer)) (blocks : s.rule.blocks = true)
    (balanced : m.Balanced (done ++ line :: todo)) (pending : c.reader.pending = [])
    (ahead : c.reader.Ahead todo rest) (scopes : c.scopes = s :: outer)
    (ends : ∃ l ∈ line :: todo, m.parse l = .endBlock false)
    (plain : m.parse line ≠ .elseBlock ∧ m.parse line ≠ .close)
    (h : c.react site depth shared position (c.scopes.apply (m.parse line)) = .ok r) :
    r.context.Owes m (s :: outer) (done ++ line :: todo) rest := by
  have lines : done ++ line :: todo = (done ++ [line]) ++ todo := by simp
  by_cases first : m.parse line = .endBlock false
  · rw [first, scopes, Scopes.apply_endBlock regular] at h
    cases h
    have popped := scopes_of_endBlock (c := c) shared position (by rw [scopes]; exact regular)
    have reader := (steady_of_endBlock shared c position false).2.1
    have fewer : m.begun todo ≤ m.ended todo := (lines ▸ balanced).begun_le
    refine .short _ todo lines (by rw [reader, pending]; exact nofun) (by rw [reader]; exact ahead) ?_ ?_
    · rw [popped, scopes]; exact regular.tail
    · rw [popped, scopes, List.tail_cons, List.length_cons]
      omega
  · have written := m.isWritten_parse line
    have dropped : c.scopes.apply (m.parse line) = .noop := by
      rw [scopes]
      exact Scopes.apply_of_hidden regular blocks written plain first
    rw [dropped] at h
    cases h
    obtain ⟨l, mem, e⟩ := ends
    rcases List.mem_cons.1 mem with rfl | mem
    · exact absurd e first
    · exact .hidden _ todo lines pending ahead scopes ⟨l, mem, e⟩

/-- After the first end, a line leaves as many blocks missing. -/
theorem owes_of_line (regular : c.scopes.Regular) (pending : c.reader.pending = [])
    (ahead : c.reader.Ahead todo rest)
    (few : c.scopes.length + m.begun (line :: todo) < scopes.length + m.ended (line :: todo))
    (plain : m.parse line ≠ .elseBlock)
    (h : c.react site depth shared position (c.scopes.apply (m.parse line)) = .ok r)
    (stays : r.move ≠ .leave) (quiet : entriesOf r.events = []) :
    r.context.Owes m scopes (done ++ line :: todo) rest := by
  have written := m.isWritten_parse line
  have lines : done ++ line :: todo = (done ++ [line]) ++ todo := by simp
  have still : (∀ item ∈ r.context.reader.pending, ∃ text, item.2 = .warning text) ∧
      r.context.reader.Ahead todo rest := by
    rcases reader_of_react h stays with e | ⟨ds, multiple, e⟩ | ⟨_, _, text, -, e⟩
    · rw [e, pending]; exact ⟨nofun, ahead⟩
    · refine ⟨?_, by rw [e]; exact ahead.pushBack _ _⟩
      rcases Scopes.apply_of_regular regular (m.parse line) with e' | e' | ⟨_, _, _, _, e', _⟩ | ⟨_, ws, e'⟩
      · rw [← e', multiple] at written; cases written
      · rw [multiple] at e'; cases e'
      · exact absurd e' plain
      · rw [multiple] at e'
        cases e'
        rw [e, Reader.pushBack, pending]
        simp
    · refine ⟨?_, by rw [e]; exact ahead.pushBack _ _⟩
      rw [e, Reader.pushBack, pending]
      simp
  have bound := length_of_react regular plain written h quiet
  refine .short _ todo lines still.1 still.2 (regular_of_react regular h) ?_
  simp only [Markers.begun, Markers.ended, List.countP_cons] at few ⊢
  omega

/-- After the first end, a warning that is read again changes nothing about the blocks. -/
theorem owes_of_warning {text : String} (lines_eq : lines = done ++ todo) (regular : c.scopes.Regular)
    (pending : ∀ item ∈ c.reader.pending, ∃ text, item.2 = .warning text) (ahead : c.reader.Ahead todo rest)
    (few : c.scopes.length + m.begun todo < scopes.length + m.ended todo)
    (h : c.react site depth shared position (c.scopes.apply (.warning text)) = .ok r) :
    r.context.Owes m scopes lines rest := by
  have quiet : (c.scopes.apply (.warning text)).isQuiet = true := Scopes.isQuiet_apply_warning regular text
  obtain ⟨-, same, reader⟩ := react_of_isQuiet quiet h
  refine .short done todo lines_eq ?_ ?_ ?_ ?_
  · rw [reader]; exact pending
  · rw [reader]; exact ahead
  · rw [same]; exact regular
  · rw [same]; exact few

end Context

/-! ## All along the lines -/

theorem Stream.length_next_le (s : Stream) : s.next.2.reads.length ≤ s.reads.length := by
  unfold next
  repeat' split
  all_goals simp_all

theorem Reader.length_reads_le (m : Markers) (r : Reader) :
    (r.read m).2.stream.reads.length ≤ r.stream.reads.length := by
  have given := r.stream.length_next_le
  unfold read
  split
  · exact Nat.le_refl _
  · split
    · exact Nat.le_refl _
    · split
      · exact Nat.le_refl _
      · generalize r.stream.next = answer at given
        obtain ⟨item, stream⟩ := answer
        split <;> rename_i e <;> cases e <;> exact given

namespace Build

variable {site : Site} {path : Path} {stream : Stream} {origins : List Origin} {c : Context}
  {below : List Context} {shared : Shared} {r : Reaction} {s : Scope} {outer : Scopes}
  {lines : List String} {rest : List (Except Fault String)}

/-- What a file owes it owes after each of its steps that shows nothing, as long as it is open. -/
theorem owes_of_reaction (regular : Scopes.Regular (s :: outer)) (blocks : s.rule.blocks = true)
    (balanced : site.markers.Balanced lines)
    (plain : ∀ line ∈ lines, site.markers.parse line ≠ .elseBlock ∧ site.markers.parse line ≠ .close)
    (owes : c.Owes site.markers (s :: outer) lines rest)
    (h : reactionTo site shared (c.readOn site.markers) below (c.reader.read site.markers).1 = .ok r)
    (stays : r.move ≠ .leave) (quiet : entriesOf r.events = []) :
    r.context.Owes site.markers (s :: outer) lines rest := by
  obtain ⟨⟨position, d, item, goesOn⟩, same⟩ := stream_of_reaction h stays
  have read : c.reader.read site.markers = (.ok (position, d), (c.readOn site.markers).reader) :=
    Prod.ext item rfl
  have fewer : r.context.reader.stream.reads.length ≤ c.reader.stream.reads.length := by
    rw [same]
    exact c.reader.length_reads_le site.markers
  cases owes with
  | hidden done todo lines_eq pending ahead scopes ends =>
    cases todo with
    | nil => obtain ⟨_, mem, -⟩ := ends; cases mem
    | cons line todo =>
      subst lines_eq
      have reading := Reader.read_of_ahead (m := site.markers) pending ahead
      rw [reading] at h
      have readOn : (c.readOn site.markers).reader = c.reader.past [line] (todo.map .ok ++ rest) := by
        rw [Context.readOn, reading]
      exact Context.owes_of_hidden_line (c := c.readOn site.markers) regular blocks balanced
        (by rw [readOn]; exact pending) (by rw [readOn]; exact ahead.past) scopes ends
        (plain line (by simp)) h
  | short done todo lines_eq pending ahead manual few =>
    cases given : c.reader.pending with
    | cons again more =>
      -- no line is read, but a warning that a failed inclusion or a display of warnings left to be read
      obtain ⟨text, warning⟩ := pending again (by simp [given])
      obtain ⟨position, _⟩ := again
      cases warning
      have reading : c.reader.read site.markers =
          (.ok (position, .warning text), { c.reader with pending := more }) := by
        rw [Reader.read, given]
      rw [reading] at h
      have readOn : (c.readOn site.markers).reader = { c.reader with pending := more } := by
        rw [Context.readOn, reading]
      refine Context.owes_of_warning (c := c.readOn site.markers) lines_eq manual ?_ ?_ few h
      · rw [readOn]
        exact fun item mem => pending item (by rw [given]; exact List.mem_cons_of_mem _ mem)
      · rw [readOn]
        exact ⟨ahead.unclosed, ahead.before, ahead.reads⟩
    | nil =>
      cases todo with
      | nil =>
        -- the lines are over: what is read now is one of those after them, or the end of the file
        rcases Reader.read_cases read with ⟨_, more, -⟩ | closed | ⟨-, -, less, -⟩
        · rw [given] at more; cases more
        · exact absurd closed goesOn
        · refine .past ?_
          rw [same]
          simpa [ahead.reads] using less
      | cons line todo =>
        subst lines_eq
        have reading := Reader.read_of_ahead (m := site.markers) given ahead
        rw [reading] at h
        have readOn : (c.readOn site.markers).reader = c.reader.past [line] (todo.map .ok ++ rest) := by
          rw [Context.readOn, reading]
        exact Context.owes_of_line (c := c.readOn site.markers) manual (by rw [readOn]; exact given)
          (by rw [readOn]; exact ahead.past) few (plain line (by simp)).1 h stays quiet
  | past spent => exact .past (Nat.lt_of_le_of_lt fewer spent)

/-- Balanced lines one of which is an end are not hidden as a whole. -/
theorem not_leads_of_ended (numbered : Numbered ⟨c :: below, shared⟩) (regular : Scopes.Regular (s :: outer))
    (blocks : s.rule.blocks = true) (scopes : c.scopes = s :: outer) (pending : c.reader.pending = [])
    (ahead : c.reader.Ahead lines rest) (balanced : site.markers.Balanced lines)
    (plain : ∀ line ∈ lines, site.markers.parse line ≠ .elseBlock ∧ site.markers.parse line ≠ .close)
    (ends : ∃ line ∈ lines, site.markers.parse line = .endBlock false) (events : List Event)
    (leads : Leads site ⟨c :: below, shared⟩ events
      ⟨{ c with reader := c.reader.past lines rest } :: below, shared⟩) : entriesOf events ≠ [] := by
  intro quiet
  obtain ⟨known, above, -⟩ := numbered_iff.1 numbered
  -- the file is told from all others by its stream: those below have smaller ones, later ones greater
  have owes : ∀ file ∈ c :: below, file.stream = c.stream →
      file.Owes site.markers (s :: outer) lines rest := by
    refine List.forall_mem_cons.2 ⟨fun _ => .hidden [] lines rfl pending ahead scopes ends, ?_⟩
    intro file mem same
    exact absurd same (Nat.ne_of_lt (above file mem))
  have later := leads.forall (fun _ _ _ _ _ owes h stays quiet =>
    owes_of_reaction regular blocks balanced plain owes h stays quiet) known owes quiet
  cases later _ List.mem_cons_self rfl with
  | hidden done todo _ _ ahead _ ends =>
    obtain rfl := ahead.eq_nil
    obtain ⟨_, mem, -⟩ := ends
    cases mem
  | short done todo _ _ ahead _ few =>
    obtain rfl := ahead.eq_nil
    simp only [scopes, Markers.begun, Markers.ended, List.countP_nil] at few
    omega
  | past spent => exact Nat.lt_irrefl _ spent

variable (site) in
/-- **Lines that are balanced in their blocks are hidden by a suppressed block** exactly if none of them ends
a block, and so none begins one. -/
theorem hidden_iff (reached : Underway site.markers path stream origins ⟨c :: below, shared⟩)
    (scopes : c.scopes = s :: outer)
    (suppresses : (∃ ws, ws ≠ [] ∧ s.rule = .thenBlock ws) ∨ s.rule = .elseBlock [])
    (pending : c.reader.pending = []) (ahead : c.reader.Ahead lines rest)
    (balanced : site.markers.Balanced lines)
    (plain : ∀ line ∈ lines, site.markers.parse line ≠ .elseBlock ∧ site.markers.parse line ≠ .close) :
    (∃ events,
        Leads site ⟨c :: below, shared⟩ events
          ⟨{ c with reader := c.reader.past lines rest } :: below, shared⟩ ∧
        entriesOf events = []) ↔
      ∀ line ∈ lines, site.markers.parse line ≠ .endBlock false := by
  have blocks : s.rule.blocks = true ∧ s.rule ≠ .literal := by
    rcases suppresses with ⟨ws, some, rule⟩ | rule
    · rw [rule]; exact ⟨by simpa [Rule.blocks] using some, by simp⟩
    · rw [rule]; exact ⟨rfl, by simp⟩
  obtain ⟨blocks, other⟩ := blocks
  have regular : Scopes.Regular (s :: outer) := scopes ▸ (orderly_of_underway reached scopes other).regular
  constructor
  · rintro ⟨events, leads, quiet⟩ line mem ended
    exact not_leads_of_ended reached.numbered regular blocks scopes pending ahead balanced plain
      ⟨line, mem, ended⟩ events leads quiet
  · intro endless
    refine ⟨_, leads_of_hidden regular blocks scopes pending ahead plain endless, ?_⟩
    simp [entriesOf, Event.entry?]

/-- A title and a text of a suppressed block. -/
theorem hidden_title :
    ∃ c shared events,
      Underway Site.bare.markers ⟨.root, ["menu"]⟩
        (.ofLines ["#-watch", "#-warning a", "#-then", "#-title hidden", "hidden", "#-end"]) [.document]
        ⟨[c], shared⟩ ∧
      c.scopes = [⟨.thenBlock ["a"], false⟩] ∧
      Leads .bare ⟨[c], shared⟩ events
        ⟨[{ c with reader := c.reader.past ["#-title hidden", "hidden"] [.ok "#-end"] }], shared⟩ ∧
      entriesOf events = [] := by
  have begun : Underway Site.bare.markers ⟨.root, ["menu"]⟩
      (.ofLines ["#-watch", "#-warning a", "#-then", "#-title hidden", "hidden", "#-end"]) [.document] _ :=
    .start
  have watched := begun.step .bare rfl nofun rfl
  have warned := watched.step .bare rfl nofun rfl
  have resolved := warned.step .bare rfl nofun rfl
  have plain : ∀ line ∈ ["#-title hidden", "hidden"],
      Site.bare.markers.parse line ≠ .elseBlock ∧ Site.bare.markers.parse line ≠ .close :=
    List.forall_mem_cons.2 ⟨⟨nofun, nofun⟩, List.forall_mem_singleton.2 ⟨nofun, nofun⟩⟩
  have endless : ∀ line ∈ ["#-title hidden", "hidden"], Site.bare.markers.parse line ≠ .endBlock false :=
    List.forall_mem_cons.2 ⟨nofun, List.forall_mem_singleton.2 nofun⟩
  obtain ⟨events, leads, quiet⟩ :=
    (hidden_iff .bare resolved rfl (.inl ⟨["a"], nofun, rfl⟩) rfl ⟨rfl, rfl, rfl⟩ (by decide +kernel)
      plain).2 endless
  exact ⟨_, _, events, resolved, rfl, leads, quiet⟩

/-- A block in a suppressed block is not hidden: its end is taken for the end of the suppressed one. -/
theorem not_hidden_ignoreText :
    ∃ c shared rest,
      Underway Site.bare.markers ⟨.root, ["menu"]⟩
        (.ofLines ["#-watch", "#-warning a", "#-then", "#-ignore-text", "#-end", "still inside", "#-end",
          "after"])
        [.document] ⟨[c], shared⟩ ∧
      c.scopes = [⟨.thenBlock ["a"], false⟩] ∧ c.reader.pending = [] ∧
      c.reader.Ahead ["#-ignore-text", "#-end"] rest ∧
      Site.bare.markers.Balanced ["#-ignore-text", "#-end"] ∧
      (∀ line ∈ ["#-ignore-text", "#-end"],
        Site.bare.markers.parse line ≠ .elseBlock ∧ Site.bare.markers.parse line ≠ .close) ∧
      ¬ ∃ events,
        Leads .bare ⟨[c], shared⟩ events
          ⟨[{ c with reader := c.reader.past ["#-ignore-text", "#-end"] rest }], shared⟩ ∧
        entriesOf events = [] := by
  have begun : Underway Site.bare.markers ⟨.root, ["menu"]⟩
      (.ofLines ["#-watch", "#-warning a", "#-then", "#-ignore-text", "#-end", "still inside", "#-end",
        "after"]) [.document] _ := .start
  have watched := begun.step .bare rfl nofun rfl
  have warned := watched.step .bare rfl nofun rfl
  have resolved := warned.step .bare rfl nofun rfl
  have balanced : Site.bare.markers.Balanced ["#-ignore-text", "#-end"] := by decide +kernel
  have plain : ∀ line ∈ ["#-ignore-text", "#-end"],
      Site.bare.markers.parse line ≠ .elseBlock ∧ Site.bare.markers.parse line ≠ .close :=
    List.forall_mem_cons.2 ⟨⟨nofun, nofun⟩, List.forall_mem_singleton.2 ⟨nofun, nofun⟩⟩
  have ended : Site.bare.markers.parse "#-end" = .endBlock false := rfl
  have regular : Scopes.Regular [⟨.thenBlock ["a"], false⟩] :=
    Scopes.Regular.nil.push (by simp [Scopes.Clear]) nofun
  refine ⟨_, _, _, resolved, rfl, rfl, ⟨rfl, rfl, rfl⟩, balanced, plain, ?_⟩
  rintro ⟨events, leads, quiet⟩
  exact not_leads_of_ended resolved.numbered regular rfl rfl rfl ⟨rfl, rfl, rfl⟩ balanced plain
    ⟨"#-end", by simp, ended⟩ events leads quiet

end Build

end Menu
