import Menu.Proofs.Build.History

/-!
# Warnings are kept

A warning that is carried out in a file is shown at once, or the watch of this file collects it.  When the watch
stops, all that it has collected goes to one place: to the block that begins then, or, if the file is left, to the
entries.  No other file has a part in this.

What a watch should hold is read off the history: `warningsIn` are the warnings carried out in a file, and
`SinceWatch` are the steps since its watch began to run.

* `watch_of_reaction`: how a watch comes to run, and what it holds then.
* `heard_of_recorded`: a watch that runs holds the warnings since it began to, step by step.
* `stops_of_step`: what becomes of the warnings when the watch stops.
* `warnings_kept`: all of this about every build on its way.
-/

namespace Menu.Build

variable {m : Markers} {site : Site} {path : Path} {stream : Stream} {log later : List Moment} {b next : Build}
  {c : Context} {below : List Context} {shared : Shared} {r : Reaction} {seen : List Event} {n : Nat}
  {mo : Moment}

/-! ## The watch of a file and the history -/

/-- The file with this number is open and its watch runs. -/
def Watches (b : Build) (n : Nat) : Prop :=
  ∃ c ∈ b.stack, c.stream = n ∧ c.watch.running = true

/-- The warning that a step has carried out in the file with a number. -/
def Moment.warning? (m : Markers) (n : Nat) (mo : Moment) : Option String :=
  match mo.before.dispatched? m with
  | some (.warning text) => if mo.before.top? = some n then some text else none
  | _ => none

/-- The warnings carried out in the file with a number, the first one first. -/
def warningsIn (m : Markers) (n : Nat) (log : List Moment) : List String :=
  (log.filterMap (Moment.warning? m n)).reverse

/-- The steps after the one in which the watch of the file with a number last began to run. -/
def SinceWatch (m : Markers) (n : Nat) (log later : List Moment) : Prop :=
  ∃ first earlier, log = later ++ first :: earlier ∧
    first.before.top? = some n ∧ first.before.dispatched? m = some .watch ∧ ¬ first.before.Watches n ∧
    ∀ mo ∈ first :: later, mo.after.Watches n

/-- The watch of a file holds what was carried out since it began to run. -/
def Heard (m : Markers) (log : List Moment) (c : Context) : Prop :=
  c.watch.running = true →
    ∃ later, SinceWatch m c.stream log later ∧ c.watch.warnings = warningsIn m c.stream later

theorem warningsIn_cons : warningsIn m n (mo :: log) = warningsIn m n log ++ (mo.warning? m n).toList := by
  unfold warningsIn
  cases carried : mo.warning? m n with
  | none => rw [List.filterMap_cons_none carried]; exact (List.append_nil _).symm
  | some text => rw [List.filterMap_cons_some carried, List.reverse_cons]; rfl

theorem SinceWatch.step (since : SinceWatch m n log later) (still : mo.after.Watches n) :
    SinceWatch m n (mo :: log) (mo :: later) := by
  obtain ⟨first, earlier, rfl, top, began, asleep, running⟩ := since
  refine ⟨first, earlier, rfl, top, began, asleep, ?_⟩
  intro mo' mem
  rcases List.mem_cons.1 mem with rfl | mem
  · exact running _ List.mem_cons_self
  rcases List.mem_cons.1 mem with rfl | mem
  · exact still
  · exact running _ (List.mem_cons_of_mem _ mem)

theorem not_watches (numbered : Numbered ⟨c :: below, shared⟩) (asleep : c.watch.running = false) :
    ¬ Watches ⟨c :: below, shared⟩ c.stream := by
  rintro ⟨file, mem, number, running⟩
  rcases List.mem_cons.1 mem with rfl | mem
  · rw [asleep] at running
    cases running
  · exact absurd number (Nat.ne_of_lt ((numbered_iff.1 numbered).2.1 file mem))

theorem warning?_of_other (ne : c.stream ≠ n) :
    Moment.warning? m n ⟨⟨c :: below, shared⟩, seen, next⟩ = none := by
  have other : top? ⟨c :: below, shared⟩ ≠ some n := fun e => ne (Option.some.inj e)
  unfold Moment.warning?
  split
  · exact if_neg other
  · rfl

theorem warning?_of_dispatched {text : String}
    (dispatched : dispatched? m ⟨c :: below, shared⟩ = some (.warning text)) :
    Moment.warning? m c.stream ⟨⟨c :: below, shared⟩, seen, next⟩ = some text := by
  simp only [Moment.warning?, dispatched]
  exact if_pos rfl

/-! ## One step -/

/-- A watch runs after a reaction because it began to, or did before and has collected what was carried out. -/
theorem watch_of_reaction
    (h : reactionTo site shared (c.readOn site.markers) below (c.reader.read site.markers).1 = .ok r)
    (stays : r.move ≠ .leave) (running : r.context.watch.running = true) :
    (c.watch.running = false ∧ dispatched? site.markers ⟨c :: below, shared⟩ = some .watch ∧
        r.context.watch.warnings = []) ∨
      (c.watch.running = true ∧
        r.context.watch.warnings = c.watch.warnings ++
          (Moment.warning? site.markers c.stream ⟨⟨c :: below, shared⟩, seen, next⟩).toList) := by
  rcases reaction_cases h with ⟨position, d, dispatched, h⟩ | ⟨why, -, rfl⟩
  · by_cases warned : ∃ text, d = .warning text
    · obtain ⟨text, rfl⟩ := warned
      cases before : c.watch.running with
      | false =>
        rw [Context.react, if_neg (by simp [Context.readOn, before])] at h
        cases h
        exact absurd running (by simp [Context.readOn, before])
      | true =>
        rw [Context.react, if_pos (by simp [Context.readOn, before])] at h
        cases h
        rw [warning?_of_dispatched dispatched]
        exact .inr ⟨rfl, rfl⟩
    · have silent : Moment.warning? site.markers c.stream ⟨⟨c :: below, shared⟩, seen, next⟩ = none := by
        unfold Moment.warning?
        rw [dispatched]
        split
        · rename_i e
          exact absurd ⟨_, Option.some.inj e⟩ warned
        · rfl
      rw [silent]
      rcases Context.watch_of_react h with same | ⟨-, text, e, -⟩ | ⟨asleep, rfl, e⟩ | ⟨-, -, e⟩
      · rw [same] at running ⊢
        exact .inr ⟨running, (List.append_nil _).symm⟩
      · exact absurd ⟨text, e⟩ warned
      · rw [e]
        exact .inl ⟨asleep, dispatched, rfl⟩
      · rw [e] at running
        cases running
  · exact absurd rfl stays

/-- What a file that was not read has heard stays what it was. -/
theorem Heard.keep {file : Context} (heard : Heard m log file) (other : c.stream ≠ file.stream)
    (mem : file ∈ next.stack) : Heard m (⟨⟨c :: below, shared⟩, seen, next⟩ :: log) file := by
  intro running
  obtain ⟨later, since, held⟩ := heard running
  refine ⟨_, since.step ⟨file, mem, rfl, running⟩, ?_⟩
  rw [warningsIn_cons, warning?_of_other other, held]
  exact (List.append_nil _).symm

theorem heard_of_step (numbered : b.Numbered) (heard : ∀ c ∈ b.stack, Heard site.markers log c)
    (taken : b.step site = (.ok next, seen)) :
    ∀ c ∈ next.stack, Heard site.markers (⟨b, seen, next⟩ :: log) c := by
  obtain ⟨stack, shared⟩ := b
  cases stack with
  | nil =>
    cases taken
    exact fun c mem => absurd mem List.not_mem_nil
  | cons c below =>
    obtain ⟨r, h, settled, -⟩ := exists_reaction taken
    have number : r.context.stream = c.stream := (same_of_reaction h).1.stream
    intro file mem
    rcases mem_settle (settled ▸ mem) with old | ⟨rfl, stays⟩ | moves
    · have ne : c.stream ≠ file.stream := Nat.ne_of_gt ((numbered_iff.1 numbered).2.1 file old)
      exact (heard file (List.mem_cons_of_mem _ old)).keep ne mem
    · intro running
      have still : next.Watches c.stream := ⟨r.context, mem, number, running⟩
      rw [number]
      rcases watch_of_reaction h stays running with ⟨asleep, began, none⟩ | ⟨before, more⟩
      · refine ⟨[], ⟨_, log, rfl, rfl, began, not_watches numbered asleep, ?_⟩, none⟩
        exact List.forall_mem_singleton.2 still
      · obtain ⟨later, since, held⟩ := heard c List.mem_cons_self before
        refine ⟨_, since.step still, ?_⟩
        rw [warningsIn_cons, more, held]
    · -- a file that has just been opened watches for nothing
      obtain ⟨_, _, how, _, _, _, _, _, _, _, _, _, rfl⟩ := reaction_enter h moves
      cases how <;> exact nofun

theorem heard_of_recorded (recorded : Recorded m path stream log b) : ∀ c ∈ b.stack, Heard m log c := by
  induction recorded with
  | start => exact List.forall_mem_singleton.2 nofun
  | step site recorded same _ taken ih =>
    subst same
    exact heard_of_step recorded.numbered ih taken

/-! ## The end of a watch -/

/-- What becomes of a file, of `below`, and of the warnings that its watch holds, when the watch stops. -/
inductive Stops (m : Markers) (c : Context) (below : List Context) (shared : Shared) : Build → List Entry → Prop
  /-- They go to the block that begins. -/
  | block (rule : List String → Rule) :
    dispatched? m ⟨c :: below, shared⟩ = some .thenBlock ∧ rule = .thenBlock ∨
      dispatched? m ⟨c :: below, shared⟩ = some .elseBlock ∧ rule = .elseBlock →
    Stops m c below shared
      ⟨{ c.readOn m with watch := {}, scopes := ⟨rule c.watch.warnings, false⟩ :: c.scopes } :: below, shared⟩ []
  /-- They are shown, since the file is left at its end or after a fault, which is shown before. -/
  | left (complaint : List Entry) :
    dispatched? m ⟨c :: below, shared⟩ = some .close ∧ complaint = [] ∨
      (∃ why, (c.reader.read m).1 = .error (.fault why) ∧
        complaint = [c.warningEntry (c.readOn m).reader.position
          ("could not read " ++ c.path.text ++ ", " ++ why.text)]) →
    Stops m c below shared ⟨below, shared⟩
      (complaint ++
        ("watch was not closed by then or else before end of file" :: c.watch.warnings).map
          (c.warningEntry (c.readOn m).reader.position))

theorem stops_of_step (taken : step site ⟨c :: below, shared⟩ = (.ok next, seen))
    (running : c.watch.running = true) (stopped : ¬ next.Watches c.stream) :
    Stops site.markers c below shared next (entriesOf seen) := by
  obtain ⟨r, h, rfl, rfl⟩ := exists_reaction taken
  have number : r.context.stream = c.stream := (same_of_reaction h).1.stream
  have asleep : r.move ≠ .leave → r.context.watch.running = false := by
    intro stays
    exact Bool.eq_false_iff.2 fun still => stopped ⟨r.context, context_mem_settle stays, number, still⟩
  rw [entriesOf_append, entriesOf_reading, List.nil_append]
  rcases reaction_cases h with ⟨position, d, dispatched, h⟩ | ⟨why, failed, rfl⟩
  · have ends : d = .thenBlock ∨ d = .elseBlock ∨ d = .close := by
      by_cases leaves : r.move = .leave
      · exact .inr (.inr (Context.react_leave h leaves))
      · have asleep := asleep leaves
        rcases Context.watch_of_react h with e | ⟨_, _, _, e⟩ | ⟨_, _, e⟩ | ⟨-, ends, -⟩
        · rw [e] at asleep
          exact absurd running (by rw [show c.watch.running = false from asleep]; simp)
        · rw [e] at asleep
          exact absurd running (by rw [show c.watch.running = false from asleep]; simp)
        · rw [e] at asleep
          cases asleep
        · exact ends
    have woken : (c.readOn site.markers).watch.stop? = some (c.watch.warnings, {}) := if_pos running
    rcases ends with rfl | rfl | rfl
    · simp only [Context.react, Context.resolveWatch, woken] at h
      cases h
      exact .block _ (.inl ⟨dispatched, rfl⟩)
    · simp only [Context.react, Context.resolveWatch, woken] at h
      cases h
      exact .block _ (.inr ⟨dispatched, rfl⟩)
    · cases h
      simp only [settle]
      rw [Context.entriesOf_leaving (c := c.readOn site.markers) running]
      exact .left [] (.inl ⟨dispatched, rfl⟩)
  · simp only [settle, Context.abandon, entriesOf_append, Context.entriesOf_warn]
    rw [Context.entriesOf_leaving (c := c.readOn site.markers) running]
    exact .left _ (.inr ⟨why, failed, rfl⟩)

/-- A warning is shown at once or collected. -/
theorem step_of_warning {position : Int} {d : Directive} {text : String}
    (read : (c.reader.read site.markers).1 = .ok (position, d)) (applied : c.scopes.apply d = .warning text) :
    ∃ c' seen, step site ⟨c :: below, shared⟩ = (.ok ⟨c' :: below, shared⟩, seen) ∧
      (c.watch.running = false →
        c' = c.readOn site.markers ∧ entriesOf seen = [c.warningEntry position text]) ∧
      (c.watch.running = true →
        c' = { c.readOn site.markers with watch := c.watch.collect text } ∧ entriesOf seen = []) := by
  cases running : c.watch.running with
  | false =>
    have h : step site ⟨c :: below, shared⟩ = _ :=
      step_of_react read (by rw [applied]; exact if_neg (by simp [Context.readOn, running]))
    refine ⟨_, _, h, fun _ => ⟨rfl, ?_⟩, fun on => absurd on Bool.false_ne_true⟩
    rw [entriesOf_append, entriesOf_reading]
    rfl
  | true =>
    have h : step site ⟨c :: below, shared⟩ = _ :=
      step_of_react read (by rw [applied]; exact if_pos running)
    refine ⟨_, _, h, fun off => absurd off.symm Bool.false_ne_true, fun _ => ⟨rfl, ?_⟩⟩
    rw [entriesOf_append, entriesOf_reading]
    rfl

variable (site) in
/-- **No warning is lost, doubled or reordered.**  A watch that runs holds just what was carried out in its file
since it began to, whatever other files were read meanwhile.  What is carried out next in the file on top is shown
or collected; the files below keep their watches; and when the watch stops, all that it holds goes to the block
that begins or to the entries. -/
theorem warnings_kept (recorded : Recorded site.markers path stream log b) :
    (∀ c ∈ b.stack, Heard site.markers log c) ∧
    ∀ c below, b.stack = c :: below →
      (∀ position d text, (c.reader.read site.markers).1 = .ok (position, d) →
        c.scopes.apply d = .warning text →
        ∃ c' seen, b.step site = (.ok ⟨c' :: below, b.shared⟩, seen) ∧
          (c.watch.running = false →
            c' = c.readOn site.markers ∧ entriesOf seen = [c.warningEntry position text]) ∧
          (c.watch.running = true →
            c' = { c.readOn site.markers with watch := c.watch.collect text } ∧ entriesOf seen = [])) ∧
      ∀ next seen, b.step site = (.ok next, seen) →
        below <:+ next.stack ∧
        (c.watch.running = true → ¬ next.Watches c.stream →
          Stops site.markers c below b.shared next (entriesOf seen)) := by
  refine ⟨heard_of_recorded recorded, ?_⟩
  obtain ⟨stack, shared⟩ := b
  rintro c below rfl
  refine ⟨fun position d text read applied => step_of_warning read applied, fun next seen taken => ?_⟩
  exact ⟨below_suffix_of_step taken, stops_of_step taken⟩

/-- A watch that nothing stops before the end of the document. -/
theorem warnings_kept_to_end :
    ∃ log c shared seen,
      Recorded {} ⟨.root, ["menu"]⟩ (.ofLines ["#-watch", "#-warning a"]) log ⟨[c], shared⟩ ∧
      c.watch = ⟨true, ["a"]⟩ ∧ Heard {} log c ∧
      step .bare ⟨[c], shared⟩ = (.ok ⟨[], shared⟩, seen) ∧ Stops {} c [] shared ⟨[], shared⟩ (entriesOf seen) ∧
      (entriesOf seen).map Entry.text =
        ["watch was not closed by then or else before end of file", "a"] := by
  have begun : Recorded {} ⟨.root, ["menu"]⟩ (.ofLines ["#-watch", "#-warning a"]) [] _ := .start
  have watched := begun.step .bare rfl nofun rfl
  have warned := watched.step .bare rfl nofun rfl
  obtain ⟨heard, kept⟩ := warnings_kept .bare warned
  obtain ⟨-, steps⟩ := kept _ _ rfl
  obtain ⟨-, stops⟩ := steps _ _ rfl
  refine ⟨_, _, _, _, warned, rfl, heard _ List.mem_cons_self, rfl, stops rfl ?_, rfl⟩
  rintro ⟨file, mem, -⟩
  cases mem

end Menu.Build
