import Menu.Proofs.Blocks.Order

/-!
# Turning a block around

An `else` in a `then` block makes an `else` block of it, with the same warnings.  The file is given to read
again what does so (`Rule.turned`): the end of the block, a watch, each of the warnings, and the `else`.  All
of this goes through the blocks around, which get in the way of it in two cases.  If one of them ignores
warnings, the watch hears none of them.  If the next of them is a `then` block, the `else` turns that one
around as well, while the watch is running.

* `Rereads` and `WorksOff`: the steps by which a file reads what it was given to read again.
* `rereads_turned`: what comes of a `then` block up to the `else` that it gave to read again.
* `turns_iff`: an `else` turns a `then` block around, and does nothing else, exactly if neither is the case.
-/

namespace Menu

/-! ## What passes the blocks around -/

namespace Rule

variable {innermost : Bool} {r : Rule}

theorem apply_warning (clear : r.blocks = false) (text : String) :
    r.apply innermost (.warning text) = if r = .ignoreWarnings then .noop else .warning text := by
  cases r <;> simp_all [apply, blocks]

theorem apply_watch (clear : r.blocks = false) : r.apply innermost .watch = .watch := by
  cases r <;> simp_all [apply, blocks]

theorem apply_elseBlock (clear : r.blocks = false) (other : innermost = true → ∀ ws, r ≠ .thenBlock ws) :
    r.apply innermost .elseBlock = .elseBlock := by
  cases innermost <;> cases r <;> simp_all [apply, blocks]

end Rule

namespace Scopes

variable {scopes outer : Scopes}

/-- Whether the innermost block is a `then` block. -/
def inThen : Scopes → Bool
  | ⟨.thenBlock _, _⟩ :: _ => true
  | _ => false

/-- Whether a block is open in which warnings are ignored. -/
def ignoresWarnings (scopes : Scopes) : Bool :=
  scopes.any (·.rule = .ignoreWarnings)

/-- The warnings that are not ignored. -/
def heard (scopes : Scopes) (ws : List String) : List String :=
  if scopes.ignoresWarnings then [] else ws

theorem exists_of_inThen (h : scopes.inThen = true) :
    ∃ ws automatic outer, scopes = ⟨.thenBlock ws, automatic⟩ :: outer := by
  unfold inThen at h
  split at h
  · exact ⟨_, _, _, rfl⟩
  · cases h

theorem heard_cons (scopes : Scopes) (w : String) (ws : List String) :
    scopes.heard (w :: ws) = scopes.heard [w] ++ scopes.heard ws := by
  unfold heard
  split <;> rfl

theorem heard_eq_self_iff {ws : List String} :
    scopes.heard ws = ws ↔ ws = [] ∨ scopes.ignoresWarnings = false := by
  unfold heard
  cases scopes.ignoresWarnings with
  | false => simp
  | true => simp [eq_comm]

theorem applyOuter_of_passes {d : Directive} (passes : ∀ s ∈ scopes, s.rule.apply false d = d) :
    applyOuter scopes d = d := by
  induction scopes with
  | nil => rfl
  | cons s scopes ih =>
    rw [applyOuter_cons, passes s List.mem_cons_self]
    exact ih fun t m => passes t (List.mem_cons_of_mem _ m)

theorem apply_watch (clear : Clear scopes) : apply scopes .watch = .watch := by
  cases scopes with
  | nil => rfl
  | cons s outer =>
    rw [apply_cons, Rule.apply_watch clear.head]
    exact applyOuter_of_passes fun t m => Rule.apply_watch (clear.tail t m)

theorem apply_elseBlock (clear : Clear scopes) (other : scopes.inThen = false) :
    apply scopes .elseBlock = .elseBlock := by
  cases scopes with
  | nil => rfl
  | cons s outer =>
    obtain ⟨rule, automatic⟩ := s
    have notThen : ∀ ws, rule ≠ .thenBlock ws := by
      rintro ws rfl
      cases other
    rw [apply_cons, Rule.apply_elseBlock clear.head fun _ => notThen]
    exact applyOuter_of_passes fun t m => Rule.apply_elseBlock (clear.tail t m) nofun

theorem apply_elseBlock_of_then (clear : Clear outer) (ws : List String) (automatic : Bool) :
    apply (⟨.thenBlock ws, automatic⟩ :: outer) .elseBlock = Rule.turn ws := by
  simp only [apply_cons, Rule.apply, Rule.turn, applyOuter_multiple clear]

theorem applyOuter_warning (clear : Clear scopes) (text : String) :
    applyOuter scopes (.warning text) = if scopes.ignoresWarnings then .noop else .warning text := by
  induction scopes with
  | nil => rfl
  | cons s scopes ih =>
    rw [applyOuter_cons, Rule.apply_warning clear.head]
    by_cases ignores : s.rule = .ignoreWarnings
    · simp [ignoresWarnings, ignores]
    · have same : ignoresWarnings (s :: scopes) = ignoresWarnings scopes := by
        simp [ignoresWarnings, ignores]
      rw [if_neg ignores, ih clear.tail, same]

theorem apply_warning (clear : Clear scopes) (text : String) :
    apply scopes (.warning text) = if scopes.ignoresWarnings then .noop else .warning text := by
  rw [← applyOuter_warning clear]
  cases scopes with
  | nil => rfl
  | cons s outer =>
    rw [apply_cons, applyOuter_cons, Rule.apply_warning clear.head, Rule.apply_warning clear.head]

end Scopes

/-! ## Reading again -/

namespace Context

/-- A file that is given directives to read before its next line, all at one position. -/
def given (c : Context) (position : Int) (ds : List Directive) : Context :=
  { c with reader := { c.reader with pending := ds.map (position, ·) } }

/-- A file with other open blocks. -/
def within (c : Context) (scopes : Scopes) : Context :=
  { c with scopes }

@[simp] theorem within_scopes (c : Context) (scopes : Scopes) : (c.within scopes).scopes = scopes := rfl

@[simp] theorem within_reader (c : Context) (scopes : Scopes) : (c.within scopes).reader = c.reader := rfl

@[simp] theorem within_within (c : Context) (scopes outer : Scopes) :
    (c.within scopes).within outer = c.within outer := rfl

theorem given_nil {c : Context} (position : Int) (pending : c.reader.pending = []) :
    c.given position [] = c := by
  obtain ⟨path, stream, isRoot, reader, cell, lineage, scopes, watch⟩ := c
  obtain ⟨stream, position, pending, atEnd⟩ := reader
  cases pending
  rfl

/-- A file whose watch runs and has heard these warnings. -/
def watching (c : Context) (heard : List String) : Context :=
  { c with watch := ⟨true, heard⟩ }

end Context

namespace Build

variable {m : Markers} {site : Site} {path : Path} {stream : Stream} {origins : List Origin}
  {b mid next last : Build} {c : Context} {below : List Context} {shared : Shared} {r : Reaction}
  {events seen : List Event} {position : Int} {d : Directive} {ds : List Directive} {outer : Scopes}

/-- Steps in which the file on top reads what it was given to read again. -/
abbrev Rereads (site : Site) : Build → List Event → Build → Prop :=
  LeadsWhile site fun c => c.reader.pending ≠ []

/-- A build whose file on top has nothing to read again. -/
def Drained (b : Build) : Prop :=
  ∀ c ∈ b.stack.head?, c.reader.pending = []

/-- A step of a build, and the steps by which the file on top reads all that it is given to read again. -/
def WorksOff (site : Site) (b : Build) (events : List Event) (last : Build) : Prop :=
  ∃ next seen later, b.step site = (.ok next, seen) ∧ Rereads site next later last ∧ last.Drained ∧
    events = seen ++ later

theorem Drained.stopped (drained : b.Drained) : ∀ c ∈ b.stack.head?, ¬ c.reader.pending ≠ [] :=
  fun c mem more => more (drained c mem)

/-- What a file reads again comes to one end. -/
theorem WorksOff.unique {events' : List Event} {last' : Build} (works : WorksOff site b events last)
    (works' : WorksOff site b events' last') : events' = events ∧ last' = last := by
  obtain ⟨next, seen, later, taken, rereads, drained, rfl⟩ := works
  obtain ⟨_, _, later', taken', rereads', drained', rfl⟩ := works'
  rw [taken] at taken'
  cases taken'
  obtain ⟨more, rfl, rest⟩ := rereads.split rereads' drained'.stopped
  obtain ⟨rfl, rfl⟩ := rest.eq_of_stopped drained.stopped
  exact ⟨by rw [List.append_nil], rfl⟩

/-- A file that is read for more than its lines comes to the end of what it is given to read again. -/
theorem exists_rereads (site : Site) (c : Context) (below : List Context) (shared : Shared)
    (regular : c.Regular) :
    ∃ events last, Rereads site ⟨c :: below, shared⟩ events last ∧ last.Drained := by
  cases pending : c.reader.pending with
  | nil => exact ⟨_, _, .refl _, by simpa [Drained] using pending⟩
  | cons item rest =>
    obtain ⟨position, d⟩ := item
    have again : Replay (d :: rest.map Prod.snd) := by simpa [pending] using regular.replay
    have read : c.reader.read site.markers = (.ok (position, d), { c.reader with pending := rest }) := by
      rw [Reader.read, pending]
    have known : ∀ how target, c.scopes.apply d ≠ .inclusion how target := by
      intro how target e
      rcases Scopes.apply_of_regular regular.scopes d with e' | e' | ⟨_, _, _, _, _, e'⟩ | ⟨_, _, e'⟩
      · rw [← e', e] at again; cases again
      all_goals rw [e] at e'; cases e'
    obtain ⟨r, reacted⟩ : ∃ r, (c.readOn site.markers).react site (below.length + 1) shared position
        ((c.readOn site.markers).scopes.apply d) = .ok r := Context.exists_react known
    have h : reactionTo site shared (c.readOn site.markers) below (c.reader.read site.markers).1 = .ok r := by
      rw [read]; exact reacted
    have rest_eq : (c.readOn site.markers).reader.pending = rest := by rw [Context.readOn, read]
    obtain ⟨steady, regular', less⟩ :=
      Context.steady_of_replay (c := c.readOn site.markers) regular.scopes (by rw [rest_eq]; exact again)
        reacted
    have fewer : r.context.cost < c.cost := by
      rw [rest_eq] at less
      change r.context.cost < replayCost c.scopes (c.reader.pending.map Prod.snd)
      rw [pending]
      exact less
    -- what is read again may put more in its place, but always less than its own cost
    obtain ⟨events, last, rereads, drained⟩ := exists_rereads site r.context below r.shared regular'
    have taken := step_of_reaction h
    rw [settle, steady.stays] at taken
    exact ⟨_, last, .step (by simp [pending]) taken rereads, drained⟩
termination_by c.cost

/-! ## The course of a turn -/

/-- The next directive that a file is given to read is carried out. -/
theorem rereads_of_react (stays : r.move = .stay)
    (h : (c.given position ds).react site (below.length + 1) shared position (c.scopes.apply d) = .ok r) :
    Rereads site ⟨c.given position (d :: ds) :: below, shared⟩ r.events ⟨r.context :: below, r.shared⟩ := by
  have reaction : reactionTo site shared ((c.given position (d :: ds)).readOn site.markers) below
      ((c.given position (d :: ds)).reader.read site.markers).1 = .ok r := h
  have taken := step_of_reaction reaction
  rw [settle, stays] at taken
  exact .single (by simp [Context.given]) taken

/-- The watch of a file hears a warning that is not ignored. -/
theorem rereads_warning (clear : c.scopes.Clear) (w : String) (past : List String) :
    Rereads site ⟨(c.watching past).given position (.warning w :: ds) :: below, shared⟩ []
      ⟨(c.watching (past ++ c.scopes.heard [w])).given position ds :: below, shared⟩ := by
  have applied := Scopes.apply_warning clear w
  refine rereads_of_react (r := ⟨_, _, .stay, []⟩) rfl ?_
  rw [show (c.watching past).scopes = c.scopes from rfl, applied, Scopes.heard]
  split
  · rw [List.append_nil]; rfl
  · rfl

theorem rereads_warnings (clear : c.scopes.Clear) (ws past : List String) :
    Rereads site ⟨(c.watching past).given position (ws.map .warning ++ ds) :: below, shared⟩ []
      ⟨(c.watching (past ++ c.scopes.heard ws)).given position ds :: below, shared⟩ := by
  induction ws generalizing past with
  | nil =>
    have none : c.scopes.heard [] = [] := by simp [Scopes.heard]
    rw [none, List.append_nil]
    exact .refl _
  | cons w ws ih =>
    have rest := (rereads_warning clear w past).trans (ih (past ++ c.scopes.heard [w]))
    rw [List.append_assoc, ← Scopes.heard_cons] at rest
    exact rest

/-- The end of a block ends the innermost one. -/
theorem rereads_endBlock {s : Scope} (regular : Scopes.Regular (s :: outer))
    (scopes : c.scopes = s :: outer) :
    Rereads site ⟨c.given position (.endBlock false :: ds) :: below, shared⟩ []
      ⟨(c.within outer).given position ds :: below, shared⟩ := by
  have own : s.automatic = false := (regular.manual s List.mem_cons_self).1
  have opened : (c.given position ds).scopes = s :: outer := scopes
  refine rereads_of_react (r := ⟨_, _, .stay, []⟩) rfl ?_
  rw [scopes, Scopes.apply_endBlock regular, Context.react, Context.endBlock, opened]
  simp only [own, if_true]
  rfl

/-- A `then` block that was turned around has ended, and a watch in the blocks around it has heard the
warnings of the block, when the `else` is read again. -/
theorem rereads_turned {s : Scope} {ws : List String} (regular : Scopes.Regular (s :: outer))
    (scopes : c.scopes = s :: outer) (asleep : c.watch.running = false) :
    Rereads site ⟨c.given position (Rule.turned ws) :: below, shared⟩ []
      ⟨((c.within outer).watching (outer.heard ws)).given position [.elseBlock] :: below, shared⟩ := by
  have clear : Scopes.Clear outer := regular.clear
  let around : Context := c.within outer
  let heard : List Directive := ws.map .warning ++ [.elseBlock]
  have ended : Rereads site ⟨c.given position (Rule.turned ws) :: below, shared⟩ []
      ⟨around.given position (.watch :: heard) :: below, shared⟩ := rereads_endBlock regular scopes
  have watched : Rereads site ⟨around.given position (.watch :: heard) :: below, shared⟩ []
      ⟨(around.watching []).given position heard :: below, shared⟩ := by
    have still : (around.given position heard).watch.running = false := asleep
    refine rereads_of_react (r := ⟨_, _, .stay, []⟩) rfl ?_
    rw [show around.scopes = outer from rfl, Scopes.apply_watch clear, Context.react, Watch.start?, still]
    rfl
  have collected : Rereads site ⟨(around.watching []).given position heard :: below, shared⟩ []
      ⟨(around.watching (outer.heard ws)).given position [.elseBlock] :: below, shared⟩ :=
    rereads_warnings clear ws []
  exact (ended.trans watched).trans collected

/-- Among blocks that are no `then` blocks, the `else` stops the watch. -/
theorem rereads_elseBlock {ws : List String} (clear : c.scopes.Clear) (other : c.scopes.inThen = false)
    (sleeping : c.watch = ⟨false, []⟩) :
    Rereads site ⟨(c.watching ws).given position [.elseBlock] :: below, shared⟩ []
      ⟨(c.within (⟨.elseBlock ws, false⟩ :: c.scopes)).given position [] :: below, shared⟩ := by
  refine rereads_of_react (r := ⟨_, _, .stay, []⟩) rfl ?_
  rw [show (c.watching ws).scopes = c.scopes from rfl, Scopes.apply_elseBlock clear other]
  rw [Context.within, Context.given, sleeping]
  rfl

/-- A `then` block gives its file to read again what turns it around. -/
theorem react_turn {depth : Nat} {ws : List String} :
    (c.given position []).react site depth shared position (Rule.turn ws) =
      .ok ⟨c.given position (Rule.turned ws), shared, .stay, []⟩ := by
  rw [Rule.turn, Context.react]
  simp only [Context.given, Reader.pushBack, List.map_nil, List.append_nil]

/-- In a `then` block, the `else` turns this one around, too, and its watch meets the one that is running. -/
theorem rereads_again {ws past : List String} {automatic : Bool}
    (regular : Scopes.Regular (⟨.thenBlock past, automatic⟩ :: outer))
    (scopes : c.scopes = ⟨.thenBlock past, automatic⟩ :: outer) :
    ∃ last, Rereads site ⟨(c.watching ws).given position [.elseBlock] :: below, shared⟩
      (c.warn position "watch: already watching for warnings") last := by
  have clear : Scopes.Clear outer := regular.clear
  let around : Context := (c.watching ws).within outer
  let heard : List Directive := past.map .warning ++ [.elseBlock]
  have applied : (c.watching ws).scopes.apply .elseBlock = Rule.turn past := by
    rw [show (c.watching ws).scopes = _ from scopes]
    exact Scopes.apply_elseBlock_of_then clear past automatic
  have turned : Rereads site ⟨(c.watching ws).given position [.elseBlock] :: below, shared⟩ []
      ⟨(c.watching ws).given position (Rule.turned past) :: below, shared⟩ :=
    rereads_of_react (r := ⟨_, _, .stay, []⟩) rfl (by rw [applied]; exact react_turn)
  have ended : Rereads site ⟨(c.watching ws).given position (Rule.turned past) :: below, shared⟩ []
      ⟨around.given position (.watch :: heard) :: below, shared⟩ := rereads_endBlock regular scopes
  have met : Rereads site ⟨around.given position (.watch :: heard) :: below, shared⟩
      (c.warn position "watch: already watching for warnings")
      ⟨around.given position heard :: below, shared⟩ := by
    refine rereads_of_react (r := ⟨_, _, .stay, _⟩) rfl ?_
    rw [show around.scopes = outer from rfl, Scopes.apply_watch clear]
    rfl
  exact ⟨_, (turned.trans ended).trans met⟩

section Turns

variable {ws : List String} {automatic : Bool} {reader : Reader}

theorem pending_of_elseBlock (drained : c.reader.pending = [])
    (read : c.reader.read site.markers = (.ok (position, .elseBlock), reader)) : reader.pending = [] := by
  rcases Reader.read_cases read with ⟨_, more, -⟩ | closed | ⟨-, pending, -⟩
  · rw [drained] at more; cases more
  · cases closed
  · exact pending

/-- The first step of a turn gives the file to read again what turns the block around. -/
theorem step_of_elseBlock (clear : Scopes.Clear outer)
    (scopes : c.scopes = ⟨.thenBlock ws, automatic⟩ :: outer) (drained : c.reader.pending = [])
    (read : c.reader.read site.markers = (.ok (position, .elseBlock), reader)) :
    step site ⟨c :: below, shared⟩ =
      (.ok ⟨Context.given { c with reader } position (Rule.turned ws) :: below, shared⟩, reading c) := by
  have readOn : c.readOn site.markers = { c with reader } := by rw [Context.readOn, read]
  have pending : (c.readOn site.markers).reader.pending = [] := by
    rw [readOn]
    exact pending_of_elseBlock drained read
  have applied : (c.readOn site.markers).scopes.apply .elseBlock = Rule.turn ws := by
    rw [show (c.readOn site.markers).scopes = _ from scopes]
    exact Scopes.apply_elseBlock_of_then clear ws automatic
  have reaction : reactionTo site shared (c.readOn site.markers) below (c.reader.read site.markers).1 =
      .ok ⟨(c.readOn site.markers).given position (Rule.turned ws), shared, .stay, []⟩ := by
    rw [read, reactionTo, applied, ← react_turn, Context.given_nil position pending]
  rw [step_of_reaction reaction, List.append_nil, settle, readOn]

variable (site below shared) in
/-- A turn comes to its end. -/
theorem exists_worksOff (regular : c.scopes.Regular)
    (scopes : c.scopes = ⟨.thenBlock ws, automatic⟩ :: outer) (drained : c.reader.pending = [])
    (read : c.reader.read site.markers = (.ok (position, .elseBlock), reader)) :
    ∃ events last, WorksOff site ⟨c :: below, shared⟩ events last := by
  have clear : Scopes.Clear outer := (scopes ▸ regular).clear
  have replay : Replay ((Context.given { c with reader } position (Rule.turned ws)).reader.pending.map
      Prod.snd) := by
    simpa [Context.given, Function.comp_def] using Replay.turned ws
  obtain ⟨later, last, rereads, emptied⟩ := exists_rereads site
    (Context.given { c with reader } position (Rule.turned ws)) below shared ⟨regular, replay⟩
  exact ⟨_, last, _, _, _, step_of_elseBlock clear scopes drained read, rereads, emptied, rfl⟩

/-- What a file with a turned block has read in the end. -/
theorem rereads_iff (regular : Scopes.Regular (⟨.thenBlock ws, automatic⟩ :: outer))
    (scopes : c.scopes = ⟨.thenBlock ws, automatic⟩ :: outer) (sleeping : c.watch = ⟨false, []⟩)
    (pending : c.reader.pending = [])
    (rereads : Rereads site ⟨c.given position (Rule.turned ws) :: below, shared⟩ events last)
    (emptied : last.Drained) :
    (last = ⟨c.within (⟨.elseBlock ws, false⟩ :: outer) :: below, shared⟩ ∧ entriesOf events = []) ↔
      outer.inThen = false ∧ (ws = [] ∨ outer.ignoresWarnings = false) := by
  have clear : Scopes.Clear outer := regular.clear
  have turned : Rereads site ⟨c.given position (Rule.turned ws) :: below, shared⟩ [] _ :=
    rereads_turned regular scopes (by rw [sleeping])
  obtain ⟨later, rfl, rest⟩ := turned.split rereads emptied.stopped
  cases inThen : outer.inThen with
  | true =>
    obtain ⟨past, automatic, outer, rfl⟩ := Scopes.exists_of_inThen inThen
    let around : Context := c.within (⟨.thenBlock past, automatic⟩ :: outer)
    obtain ⟨mid, again⟩ : ∃ mid, Rereads site
        ⟨(around.watching (around.scopes.heard ws)).given position [.elseBlock] :: below, shared⟩
        (around.warn position "watch: already watching for warnings") mid := rereads_again regular.pop rfl
    -- the warning about the watch is shown by now, and nothing that is read after it takes it back
    obtain ⟨later, rfl, -⟩ := again.split rest emptied.stopped
    simp [Context.warn, Context.entry, entriesOf, Event.entry?]
  | false =>
    have stopped : Rereads site
        ⟨((c.within outer).watching (outer.heard ws)).given position [.elseBlock] :: below, shared⟩ [] _ :=
      rereads_elseBlock clear inThen sleeping
    have whole := Context.given_nil (c := c.within (⟨.elseBlock (outer.heard ws), false⟩ :: outer)) position
      pending
    rw [Context.within_within, Context.within_scopes, whole] at stopped
    obtain ⟨later, rfl, rest⟩ := stopped.split rest emptied.stopped
    obtain ⟨rfl, rfl⟩ := rest.eq_of_stopped (by simpa using pending)
    simp [Context.within, Scopes.heard_eq_self_iff]

/-- What a turn comes to. -/
theorem worksOff_iff (regular : c.scopes.Regular)
    (scopes : c.scopes = ⟨.thenBlock ws, automatic⟩ :: outer) (sleeping : c.watch = ⟨false, []⟩)
    (drained : c.reader.pending = [])
    (read : c.reader.read site.markers = (.ok (position, .elseBlock), reader))
    (works : WorksOff site ⟨c :: below, shared⟩ events last) :
    (last = ⟨{ c with reader, scopes := ⟨.elseBlock ws, false⟩ :: outer } :: below, shared⟩ ∧
        entriesOf events = []) ↔
      outer.inThen = false ∧ (ws = [] ∨ outer.ignoresWarnings = false) := by
  have regular : Scopes.Regular (⟨.thenBlock ws, automatic⟩ :: outer) := scopes ▸ regular
  obtain ⟨next, seen, later, taken, rereads, emptied, rfl⟩ := works
  rw [step_of_elseBlock regular.clear scopes drained read] at taken
  cases taken
  have quiet : entriesOf (reading c) = [] := by unfold reading; split <;> rfl
  rw [entriesOf_append, quiet, List.nil_append]
  exact rereads_iff (c := { c with reader }) regular scopes sleeping (pending_of_elseBlock drained read)
    rereads emptied

variable (site) in
/-- **An `else` turns a `then` block around**, and does nothing else, exactly if the next block around it is
no `then` block and its warnings, if it has any, are not ignored in the blocks around it. -/
theorem turns_iff (reached : Underway site.markers path stream origins ⟨c :: below, shared⟩)
    (scopes : c.scopes = ⟨.thenBlock ws, automatic⟩ :: outer) (asleep : c.watch.running = false)
    (drained : c.reader.pending = [])
    (read : c.reader.read site.markers = (.ok (position, .elseBlock), reader)) :
    (∃ events last, WorksOff site ⟨c :: below, shared⟩ events last) ∧
      ∀ events last, WorksOff site ⟨c :: below, shared⟩ events last →
        ((last = ⟨{ c with reader, scopes := ⟨.elseBlock ws, false⟩ :: outer } :: below, shared⟩ ∧
            entriesOf events = []) ↔
          outer.inThen = false ∧ (ws = [] ∨ outer.ignoresWarnings = false)) := by
  have orderly : c.Orderly shared := orderly_of_underway reached scopes nofun
  have sleeping : c.watch = ⟨false, []⟩ := orderly.watch_eq asleep
  have regular : c.scopes.Regular := orderly.regular
  exact ⟨exists_worksOff site below shared regular scopes drained read, fun events last works =>
    worksOff_iff regular scopes sleeping drained read works⟩

/-- The warning of a `then` block that stands alone is the warning of its `else` block. -/
theorem turns_alone :
    ∃ c shared reader events last,
      Underway Site.bare.markers ⟨.root, ["menu"]⟩
        (.ofLines ["#-watch", "#-warning w", "#-then", "#-else"]) [.document] ⟨[c], shared⟩ ∧
      c.scopes = [⟨.thenBlock ["w"], false⟩] ∧
      c.reader.read Site.bare.markers = (.ok (4, .elseBlock), reader) ∧
      WorksOff .bare ⟨[c], shared⟩ events last ∧
      last = ⟨[{ c with reader, scopes := [⟨.elseBlock ["w"], false⟩] }], shared⟩ ∧
      entriesOf events = [] := by
  have begun : Underway Site.bare.markers ⟨.root, ["menu"]⟩
      (.ofLines ["#-watch", "#-warning w", "#-then", "#-else"]) [.document] _ := .start
  have watched := begun.step .bare rfl nofun rfl
  have warned := watched.step .bare rfl nofun rfl
  have resolved := warned.step .bare rfl nofun rfl
  obtain ⟨⟨events, last, works⟩, iff⟩ := turns_iff .bare resolved rfl rfl rfl rfl
  obtain ⟨same, quiet⟩ := (iff events last works).2 ⟨rfl, .inr rfl⟩
  exact ⟨_, _, _, events, last, resolved, rfl, rfl, works, same, quiet⟩

/-- The `else` of a `then` block that stands in another one does more than turn it around. -/
theorem not_turns_in_then :
    ∃ c shared reader events last,
      Underway Site.bare.markers ⟨.root, ["menu"]⟩
        (.ofLines ["#-watch", "#-then", "#-watch", "#-warning w", "#-then", "hidden", "#-else"]) [.document]
        ⟨[c], shared⟩ ∧
      c.scopes = [⟨.thenBlock ["w"], false⟩, ⟨.thenBlock [], false⟩] ∧
      c.watch.running = false ∧ c.reader.pending = [] ∧
      c.reader.read Site.bare.markers = (.ok (7, .elseBlock), reader) ∧
      WorksOff .bare ⟨[c], shared⟩ events last ∧
      ¬ (last = ⟨[{ c with
            reader, scopes := [⟨.elseBlock ["w"], false⟩, ⟨.thenBlock [], false⟩] }], shared⟩ ∧
          entriesOf events = []) := by
  have begun : Underway Site.bare.markers ⟨.root, ["menu"]⟩
      (.ofLines ["#-watch", "#-then", "#-watch", "#-warning w", "#-then", "hidden", "#-else"])
      [.document] _ := .start
  have around := (begun.step .bare rfl nofun rfl).step .bare rfl nofun rfl
  have watched := around.step .bare rfl nofun rfl
  have warned := watched.step .bare rfl nofun rfl
  have resolved := warned.step .bare rfl nofun rfl
  have hidden := resolved.step .bare rfl nofun rfl
  have regular := (orderly_of_underway hidden rfl nofun).regular
  obtain ⟨events, last, works⟩ := exists_worksOff .bare [] _ regular rfl rfl rfl
  refine ⟨_, _, _, events, last, hidden, rfl, rfl, rfl, rfl, works, fun turns => ?_⟩
  have alone := ((worksOff_iff regular rfl rfl rfl rfl works).1 turns).1
  cases alone

end Turns

end Build

end Menu
