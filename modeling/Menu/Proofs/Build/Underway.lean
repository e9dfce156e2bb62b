import Menu.Build.Ends
import Menu.Proofs.Context.Reactions

/-!
# Builds on their way

`Leads` is any number of steps of a build, with what is seen on the way, and `LeadsWhile` are steps that are
taken only while something holds of the file on top.  `Underway` are the builds that the
build of a document leads to, each with the origins of its open files: the file at the bottom is the document,
and every other one came by an inclusion of one of the three kinds.  A build does not note down its origins;
`originsAfter` reads them off a step, from the directive that was carried out and from what was put on top or
taken away.

* `step_cons` and `exists_reaction`: a step is the reaction of the file on top.
* `LeadsWhile.split`: steps begin all those that go on for as long as they can.
* `failed_cases`: a step fails for a read, or for an inclusion.
* `Underway.leads`: what a build on its way leads to is on its way.
* `Underway.numbered`: the open files are numbered by their streams, the newest on top.
* `Leads.forall`: what the reactions of one file keep of it is kept, whatever other files are read meanwhile.
-/

namespace Menu

/-! ## Steps -/

namespace Build

variable {site : Site} {b mid next last : Build} {c : Context} {below : List Context} {shared : Shared}
  {r : Reaction} {events seen : List Event}

theorem step_cons (site : Site) (c : Context) (below : List Context) (shared : Shared) :
    step site ⟨c :: below, shared⟩ =
      match reactionTo site shared (c.readOn site.markers) below (c.reader.read site.markers).1 with
      | .error why => (.error why, reading c)
      | .ok r => (.ok (settle below r), reading c ++ r.events) := rfl

theorem step_of_reaction
    (h : reactionTo site shared (c.readOn site.markers) below (c.reader.read site.markers).1 = .ok r) :
    step site ⟨c :: below, shared⟩ = (.ok (settle below r), reading c ++ r.events) := by
  rw [step_cons, h]

theorem step_of_react {position : Int} {d : Directive} (read : (c.reader.read site.markers).1 = .ok (position, d))
    (h : (c.readOn site.markers).react site (below.length + 1) shared position (c.scopes.apply d) = .ok r) :
    step site ⟨c :: below, shared⟩ = (.ok (settle below r), reading c ++ r.events) := by
  refine step_of_reaction ?_
  rw [read]
  exact h

theorem exists_reaction (h : step site ⟨c :: below, shared⟩ = (.ok next, events)) :
    ∃ r, reactionTo site shared (c.readOn site.markers) below (c.reader.read site.markers).1 = .ok r ∧
      next = settle below r ∧ events = reading c ++ r.events := by
  simp only [step] at h
  split at h
  · cases h
  · cases h; exact ⟨_, ‹_›, rfl, rfl⟩

theorem failed_reaction {why : Abort} (h : step site ⟨c :: below, shared⟩ = (.error why, events)) :
    reactionTo site shared (c.readOn site.markers) below (c.reader.read site.markers).1 = .error why ∧
      events = reading c := by
  simp only [step] at h
  split at h <;> cases h
  exact ⟨‹_›, rfl⟩

@[simp] theorem entriesOf_reading (c : Context) : entriesOf (reading c) = [] := by
  unfold reading
  split <;> rfl

theorem shared_settle (below : List Context) (r : Reaction) : (settle below r).shared = r.shared := by
  rw [settle]
  cases r.move <;> rfl

/-- A file that is open after a reaction was below, or is the one that has reacted, or has just been opened. -/
theorem mem_settle {file : Context} (mem : file ∈ (settle below r).stack) :
    file ∈ below ∨ (file = r.context ∧ r.move ≠ .leave) ∨ r.move = .enter file := by
  unfold settle at mem
  cases moves : r.move with
  | stay =>
    rw [moves] at mem
    rcases List.mem_cons.1 mem with rfl | mem
    · exact .inr (.inl ⟨rfl, nofun⟩)
    · exact .inl mem
  | leave =>
    rw [moves] at mem
    exact .inl mem
  | enter child =>
    rw [moves] at mem
    rcases List.mem_cons.1 mem with rfl | mem
    · exact .inr (.inr rfl)
    · rcases List.mem_cons.1 mem with rfl | mem
      · exact .inr (.inl ⟨rfl, nofun⟩)
      · exact .inl mem

theorem context_mem_settle (stays : r.move ≠ .leave) : r.context ∈ (settle below r).stack := by
  unfold settle
  cases moves : r.move with
  | stay => exact List.mem_cons_self
  | leave => exact absurd moves stays
  | enter child => exact List.mem_cons_of_mem _ List.mem_cons_self

/-- The files below the one on top stay as they are. -/
theorem below_suffix_of_step (h : step site ⟨c :: below, shared⟩ = (.ok next, events)) :
    below <:+ next.stack := by
  obtain ⟨r, -, rfl, -⟩ := exists_reaction h
  unfold settle
  cases r.move with
  | stay => exact List.suffix_cons _ _
  | leave => exact List.suffix_rfl
  | enter child => exact (List.suffix_cons _ _).trans (List.suffix_cons _ _)

/-- A file that is left after a fault stays the file that it was. -/
theorem same_of_reaction {item : Except ReadFailure (Int × Directive)}
    (h : reactionTo site shared c below item = .ok r) :
    c.Same r.context ∧ shared.opened ≤ r.shared.opened := by
  rcases reactionTo_cases h with ⟨position, d, -, h⟩ | ⟨why, -, rfl⟩
  · exact ⟨Context.same_of_react h, Context.opened_le_of_react h⟩
  · exact ⟨⟨rfl, rfl, rfl, rfl⟩, Nat.le_refl _⟩

/-- What puts no file on top adds no source and opens no stream. -/
theorem visits_nothing {item : Except ReadFailure (Int × Directive)}
    (h : reactionTo site shared c below item = .ok r) (moves : ∀ child, r.move ≠ .enter child) :
    r.shared.sources = shared.sources ∧ r.shared.opened = shared.opened := by
  rcases reactionTo_cases h with ⟨position, d, -, h⟩ | ⟨why, -, rfl⟩
  · exact Context.visits_nothing h moves
  · exact ⟨rfl, rfl⟩

/-- A file that stays open was read, and keeps its stream. -/
theorem stream_of_reaction {item : Except ReadFailure (Int × Directive)}
    (h : reactionTo site shared c below item = .ok r) (stays : r.move ≠ .leave) :
    (∃ position d, item = .ok (position, d) ∧ d ≠ .close) ∧ r.context.reader.stream = c.reader.stream := by
  rcases reactionTo_cases h with ⟨position, d, rfl, reacted⟩ | ⟨why, -, rfl⟩
  · refine ⟨⟨position, d, rfl, ?_⟩, ?_⟩
    · rintro rfl
      rw [Scopes.apply_close] at reacted
      cases reacted
      exact stays rfl
    · rcases Context.reader_of_react reacted stays with e | ⟨_, -, e⟩ | ⟨_, _, _, -, e⟩ <;> rw [e] <;> rfl
  · exact absurd rfl stays

/-- A file that stays open is not closed. -/
theorem closed_of_reaction {item : Except ReadFailure (Int × Directive)}
    (h : reactionTo site shared c below item = .ok r) (stays : r.move ≠ .leave) :
    r.context.reader.closed = c.reader.closed := by
  rcases reactionTo_cases h with ⟨position, d, rfl, reacted⟩ | ⟨why, -, rfl⟩
  · rcases Context.reader_of_react reacted stays with e | ⟨_, -, e⟩ | ⟨_, _, _, -, e⟩ <;> rw [e] <;> rfl
  · exact absurd rfl stays

/-- A file is put on top of another only by an inclusion that was read there. -/
theorem reaction_enter {item : Except ReadFailure (Int × Directive)} {child : Context}
    (h : reactionTo site shared c below item = .ok r) (moves : r.move = .enter child) :
    ∃ position d how target file stream, item = .ok (position, d) ∧
      c.scopes.apply d = .inclusion how target ∧ site.resolve target c.directory = .ok file ∧
      shared.alreadyTaken c.lineage how file = false ∧ site.openTarget file = .ok stream ∧
      r = c.enter shared (below.length + 1) how file stream ∧
      child = (c.child shared how file stream).1 := by
  rcases reactionTo_cases h with ⟨position, d, rfl, h⟩ | ⟨why, -, rfl⟩
  · obtain ⟨how, target, file, stream, inclusion, rest⟩ := Context.react_enter h moves
    exact ⟨position, d, how, target, file, stream, rfl, inclusion, rest⟩
  · cases moves

/-- Steps that lead from a build to another, each taken while something holds of the file on top, and what is
seen on the way. -/
inductive LeadsWhile (site : Site) (p : Context → Prop) : Build → List Event → Build → Prop
  | refl (b : Build) : LeadsWhile site p b [] b
  | step {c : Context} {below : List Context} {shared : Shared} {next last : Build}
    {events later : List Event} :
    p c → Build.step site ⟨c :: below, shared⟩ = (.ok next, events) → LeadsWhile site p next later last →
    LeadsWhile site p ⟨c :: below, shared⟩ (events ++ later) last

/-- Steps that lead from a build to another. -/
abbrev Leads (site : Site) : Build → List Event → Build → Prop :=
  LeadsWhile site fun _ => True

namespace LeadsWhile

variable {p : Context → Prop}

theorem trans (first : LeadsWhile site p b seen mid) (second : LeadsWhile site p mid events last) :
    LeadsWhile site p b (seen ++ events) last := by
  induction first with
  | refl => exact second
  | step holds taken _ ih =>
    rw [List.append_assoc]
    exact .step holds taken (ih second)

theorem single (holds : p c) (taken : Build.step site ⟨c :: below, shared⟩ = (.ok next, events)) :
    LeadsWhile site p ⟨c :: below, shared⟩ events next := by
  have h : LeadsWhile site p ⟨c :: below, shared⟩ (events ++ []) next := .step holds taken (.refl next)
  rwa [List.append_nil] at h

theorem leads (whole : LeadsWhile site p b events last) : Leads site b events last := by
  induction whole with
  | refl => exact .refl _
  | step _ taken _ ih => exact .step trivial taken ih

/-- Steps begin all those that go on for as long as they can. -/
theorem split (first : LeadsWhile site p b seen mid) (whole : LeadsWhile site p b events last)
    (stopped : ∀ c ∈ last.stack.head?, ¬ p c) :
    ∃ later, events = seen ++ later ∧ LeadsWhile site p mid later last := by
  induction first generalizing events with
  | refl => exact ⟨events, rfl, whole⟩
  | step holds taken _ ih =>
    cases whole with
    | refl => exact absurd holds (stopped _ rfl)
    | step _ taken' rest =>
      rw [taken] at taken'
      cases taken'
      obtain ⟨after, same, rest⟩ := ih rest
      exact ⟨after, by rw [same, List.append_assoc], rest⟩

theorem eq_of_stopped (leads : LeadsWhile site p b events last) (stopped : ∀ c ∈ b.stack.head?, ¬ p c) :
    events = [] ∧ last = b := by
  cases leads with
  | refl => exact ⟨rfl, rfl⟩
  | step holds _ _ => exact absurd holds (stopped _ rfl)

end LeadsWhile

end Build

/-! ## Origins -/

/-- How a file came to be open. -/
inductive Origin
  | document
  | included (how : Inclusion)
deriving DecidableEq, Repr

/-- A site with nothing in its tree, for runs of one document. -/
def Site.bare : Site where
  tree := {}
  home? := none
  markers := {}
  openFile _ := .error (.fault (.refused .notFound ⟨.root, []⟩))

namespace Build

variable {m : Markers} {site : Site} {path : Path} {stream : Stream} {origins : List Origin}
  {b next last : Build} {c : Context} {below : List Context} {shared : Shared} {r : Reaction}
  {events : List Event}

/-- The directive that is carried out in the next step: what is read in the file on top, after its open
blocks. -/
def dispatched? (m : Markers) (b : Build) : Option Directive :=
  match b.stack with
  | [] => none
  | c :: _ =>
    match (c.reader.read m).1 with
    | .ok (_, d) => some (c.scopes.apply d)
    | .error _ => none

theorem dispatched?_of_read {position : Int} {d : Directive}
    (read : (c.reader.read m).1 = .ok (position, d)) :
    dispatched? m ⟨c :: below, shared⟩ = some (c.scopes.apply d) := by
  simp only [dispatched?, read]

/-- A step that fails: the file on top was closed, or it is the document and cannot be read on, or an inclusion ends the
build. -/
theorem failed_cases {why : Abort} (failed : step site ⟨c :: below, shared⟩ = (.error why, events)) :
    (why = .closedStream ∧ (c.reader.read site.markers).1 = .error .closed) ∨
    (∃ fault, why = .fault fault ∧ below = [] ∧ (c.reader.read site.markers).1 = .error (.fault fault)) ∨
    ∃ position how target, dispatched? site.markers ⟨c :: below, shared⟩ = some (.inclusion how target) ∧
      (c.readOn site.markers).includeFile site (below.length + 1) shared position how target = .error why := by
  obtain ⟨failed, -⟩ := failed_reaction failed
  cases read : (c.reader.read site.markers).1 with
  | error failure =>
    rw [read] at failed
    cases failure with
    | closed => cases failed; exact .inl ⟨rfl, rfl⟩
    | fault fault =>
      simp only [reactionTo, List.isEmpty_iff] at failed
      split at failed <;> cases failed
      exact .inr (.inl ⟨fault, rfl, ‹_›, rfl⟩)
  | ok item =>
    obtain ⟨position, d⟩ := item
    rw [read] at failed
    have failed : (c.readOn site.markers).react site (below.length + 1) shared position (c.scopes.apply d) =
        .error why := failed
    by_cases includes : ∃ how target, c.scopes.apply d = .inclusion how target
    · obtain ⟨how, target, inclusion⟩ := includes
      rw [inclusion] at failed
      exact .inr (.inr ⟨position, how, target, (dispatched?_of_read read).trans (congrArg some inclusion), failed⟩)
    · obtain ⟨r, carriedOut⟩ : ∃ r, (c.readOn site.markers).react site (below.length + 1) shared position
          (c.scopes.apply d) = .ok r := Context.exists_react fun how target e => includes ⟨how, target, e⟩
      rw [carriedOut] at failed
      cases failed

theorem exists_read_of_dispatched {d : Directive} (dispatched : dispatched? m ⟨c :: below, shared⟩ = some d) :
    ∃ position written, (c.reader.read m).1 = .ok (position, written) ∧ c.scopes.apply written = d := by
  simp only [dispatched?] at dispatched
  split at dispatched
  · exact ⟨_, _, ‹_›, by simpa using dispatched⟩
  · cases dispatched

/-- A file on top reacts to a directive that was read in it, or it is left after a fault. -/
theorem reaction_reads
    (h : reactionTo site shared (c.readOn site.markers) below (c.reader.read site.markers).1 = .ok r) :
    (∃ position d, (c.reader.read site.markers).1 = .ok (position, d) ∧
        (c.readOn site.markers).react site (below.length + 1) shared position (c.scopes.apply d) = .ok r) ∨
      ∃ why, (c.reader.read site.markers).1 = .error (.fault why) ∧
        r = (c.readOn site.markers).abandon shared (below.length + 1) why :=
  reactionTo_cases h

/-- What it reacts to is carried out. -/
theorem reaction_cases
    (h : reactionTo site shared (c.readOn site.markers) below (c.reader.read site.markers).1 = .ok r) :
    (∃ position d, dispatched? site.markers ⟨c :: below, shared⟩ = some d ∧
        (c.readOn site.markers).react site (below.length + 1) shared position d = .ok r) ∨
      ∃ why, (c.reader.read site.markers).1 = .error (.fault why) ∧
        r = (c.readOn site.markers).abandon shared (below.length + 1) why :=
  (reaction_reads h).imp_left fun ⟨position, _, read, h⟩ => ⟨position, _, dispatched?_of_read read, h⟩

/-- The origins of the open files after the step from `b` to `next`. -/
def originsAfter (m : Markers) (b next : Build) (origins : List Origin) : List Origin :=
  if next.stack.length < b.stack.length then origins.tail
  else if next.stack.length = b.stack.length then origins
  else
    match b.dispatched? m with
    | some (.inclusion how _) => .included how :: origins
    | _ => origins

theorem originsAfter_stay (moves : r.move = .stay) :
    originsAfter m ⟨c :: below, shared⟩ (settle below r) origins = origins := by
  simp [originsAfter, settle, moves]

theorem originsAfter_leave (moves : r.move = .leave) :
    originsAfter m ⟨c :: below, shared⟩ (settle below r) origins = origins.tail := by
  simp [originsAfter, settle, moves]

theorem originsAfter_enter {child : Context} {position : Int} {d : Directive} {how : Inclusion}
    {target : String} (moves : r.move = .enter child)
    (read : (c.reader.read m).1 = .ok (position, d))
    (inclusion : c.scopes.apply d = .inclusion how target) :
    originsAfter m ⟨c :: below, shared⟩ (settle below r) origins = .included how :: origins := by
  have deeper : (settle below r).stack.length = below.length + 2 := by simp [settle, moves]
  rw [originsAfter, if_neg (by rw [deeper, List.length_cons]; omega),
    if_neg (by rw [deeper, List.length_cons]; omega)]
  simp [dispatched?, read, inclusion]

/-- The builds that the build of a document leads to, with the origins of their open files.  All steps read
by the same markers; the tree and its files may be others at each step. -/
inductive Underway (m : Markers) (path : Path) (stream : Stream) : List Origin → Build → Prop
  | start : Underway m path stream [.document] (start path stream)
  | step {origins : List Origin} {b next : Build} {events : List Event} (site : Site) :
    Underway m path stream origins b → site.markers = m → b.stack ≠ [] →
    b.step site = (.ok next, events) →
    Underway m path stream (originsAfter m b next origins) next

theorem Underway.leads (reached : Underway site.markers path stream origins b)
    (leads : Leads site b events last) : ∃ origins, Underway site.markers path stream origins last := by
  induction leads generalizing origins with
  | refl => exact ⟨origins, reached⟩
  | step _ taken _ ih => exact ih (reached.step site rfl (List.cons_ne_nil _ _) taken)

/-! ## Numbers of the open files -/

/-- The open files have numbers below the number of the openings so far, and a file has a greater number than
those below it. -/
def Numbered (b : Build) : Prop :=
  (b.shared.opened :: b.stack.map Context.stream).Pairwise (· > ·)

theorem numbered_iff :
    Numbered ⟨c :: below, shared⟩ ↔
      c.stream < shared.opened ∧ (∀ c' ∈ below, c'.stream < c.stream) ∧
        (below.map Context.stream).Pairwise (· > ·) := by
  simp only [Numbered, List.map_cons, List.pairwise_cons, List.mem_cons, List.mem_map, forall_eq_or_imp,
    forall_exists_index, and_imp, forall_apply_eq_imp_iff₂]
  constructor
  · rintro ⟨⟨top, -⟩, above, rest⟩
    exact ⟨top, above, rest⟩
  · rintro ⟨top, above, rest⟩
    exact ⟨⟨top, fun c' m => Nat.lt_trans (above c' m) top⟩, above, rest⟩

theorem numbered_of_step (numbered : b.Numbered) (taken : b.step site = (.ok next, events)) :
    next.Numbered := by
  obtain ⟨stack, shared⟩ := b
  cases stack with
  | nil => cases taken; exact numbered
  | cons c below =>
    obtain ⟨r, h, rfl, -⟩ := exists_reaction taken
    obtain ⟨same, opened⟩ := same_of_reaction h
    obtain ⟨top, above, rest⟩ := numbered_iff.1 numbered
    have kept : r.context.stream = c.stream := same.stream
    rw [← kept] at top above
    have stays : Numbered ⟨r.context :: below, r.shared⟩ :=
      numbered_iff.2 ⟨Nat.lt_of_lt_of_le top opened, above, rest⟩
    cases moves : r.move with
    | stay => rw [settle, moves]; exact stays
    | leave =>
      rw [settle, moves]
      exact stays.sublist (List.Sublist.cons_cons _ (List.sublist_cons_self _ _))
    | enter child =>
      obtain ⟨_, _, how, _, file, stream, _, _, _, _, _, entered, rfl⟩ := reaction_enter h moves
      have number := (c.readOn site.markers).stream_of_child shared how file stream
      have more : r.shared.opened = shared.opened + 1 := by
        rw [entered]; exact Context.opened_of_child _ _ how file stream
      rw [settle, moves]
      refine numbered_iff.2 ⟨by omega, fun file m => ?_, (List.pairwise_cons.1 stays).2⟩
      rw [number]
      rcases List.mem_cons.1 m with rfl | m
      · exact top
      · exact Nat.lt_trans (above file m) top

theorem Underway.numbered (reached : Underway m path stream origins b) : b.Numbered := by
  induction reached with
  | start => simp [Numbered, Build.start, Shared.visit, Shared.newCell, Shared.newLineage]
  | step _ _ _ _ taken ih => exact numbered_of_step ih taken

/-! ## The streams of the open files -/

/-- No open file has its stream closed. -/
def Unclosed (b : Build) : Prop :=
  ∀ c ∈ b.stack, c.reader.closed = false

theorem unclosed_start (path : Path) (stream : Stream) : (start path stream).Unclosed :=
  List.forall_mem_singleton.2 rfl

theorem unclosed_of_step (unclosed : b.Unclosed) (taken : b.step site = (.ok next, events)) : next.Unclosed := by
  obtain ⟨stack, shared⟩ := b
  cases stack with
  | nil => cases taken; exact unclosed
  | cons c below =>
    obtain ⟨r, h, rfl, -⟩ := exists_reaction taken
    intro file mem
    rcases mem_settle mem with old | ⟨rfl, stays⟩ | moves
    · exact unclosed file (List.mem_cons_of_mem _ old)
    · rw [closed_of_reaction h stays]
      exact (c.reader.closed_read site.markers).trans (unclosed c List.mem_cons_self)
    · obtain ⟨_, _, how, _, _, _, _, _, _, _, _, _, rfl⟩ := reaction_enter h moves
      cases how <;> rfl

theorem unclosed_of_leads (unclosed : b.Unclosed) (leads : Leads site b events last) : last.Unclosed := by
  induction leads with
  | refl => exact unclosed
  | step _ taken _ ih => exact ih (unclosed_of_step unclosed taken)

theorem Underway.unclosed (reached : Underway m path stream origins b) : b.Unclosed := by
  induction reached with
  | start => exact unclosed_start path stream
  | step _ _ _ _ taken ih => exact unclosed_of_step ih taken

/-! ## One file among the open ones -/

/-- What each reaction that shows nothing keeps of one file, a step keeps that shows nothing. -/
theorem forall_of_step {P : Context → Prop} {n : Nat}
    (keeps : ∀ c below shared r, c.stream = n → P c →
      reactionTo site shared (c.readOn site.markers) below (c.reader.read site.markers).1 = .ok r →
      r.move ≠ .leave → entriesOf r.events = [] → P r.context)
    (known : n < b.shared.opened) (all : ∀ c ∈ b.stack, c.stream = n → P c)
    (taken : b.step site = (.ok next, events)) (quiet : entriesOf events = []) :
    n < next.shared.opened ∧ ∀ c ∈ next.stack, c.stream = n → P c := by
  obtain ⟨stack, shared⟩ := b
  cases stack with
  | nil => cases taken; exact ⟨known, all⟩
  | cons c below =>
    obtain ⟨r, h, rfl, rfl⟩ := exists_reaction taken
    obtain ⟨same, opened⟩ := same_of_reaction h
    rw [entriesOf_append, List.append_eq_nil_iff] at quiet
    have others : ∀ file ∈ below, file.stream = n → P file := fun file mem =>
      all file (List.mem_cons_of_mem _ mem)
    have top : r.move ≠ .leave → r.context.stream = n → P r.context := by
      intro stays number
      have number : c.stream = n := same.stream.symm.trans number
      exact keeps c below shared r number (all c List.mem_cons_self number) h stays quiet.2
    cases moves : r.move with
    | stay =>
      rw [settle, moves]
      exact ⟨Nat.lt_of_lt_of_le known opened, List.forall_mem_cons.2 ⟨top (by simp [moves]), others⟩⟩
    | leave =>
      rw [settle, moves]
      exact ⟨Nat.lt_of_lt_of_le known opened, others⟩
    | enter child =>
      obtain ⟨_, _, how, _, file, stream, _, _, _, _, _, entered, rfl⟩ := reaction_enter h moves
      have number := (c.readOn site.markers).stream_of_child shared how file stream
      rw [settle, moves]
      refine ⟨Nat.lt_of_lt_of_le known opened, List.forall_mem_cons.2 ⟨fun e => ?_, ?_⟩⟩
      · rw [number] at e
        exact absurd e (Nat.ne_of_gt known)
      · exact List.forall_mem_cons.2 ⟨top (by simp [moves]), others⟩

/-- What each reaction that shows nothing keeps of one file is kept as long as nothing is shown. -/
theorem Leads.forall {P : Context → Prop} {n : Nat} (leads : Leads site b events last)
    (keeps : ∀ c below shared r, c.stream = n → P c →
      reactionTo site shared (c.readOn site.markers) below (c.reader.read site.markers).1 = .ok r →
      r.move ≠ .leave → entriesOf r.events = [] → P r.context)
    (known : n < b.shared.opened) (all : ∀ c ∈ b.stack, c.stream = n → P c)
    (quiet : entriesOf events = []) : ∀ c ∈ last.stack, c.stream = n → P c := by
  induction leads with
  | refl => exact all
  | step _ taken _ ih =>
    rw [entriesOf_append, List.append_eq_nil_iff] at quiet
    obtain ⟨known, all⟩ := forall_of_step keeps known all taken quiet.1
    exact ih known all quiet.2

end Build

end Menu
