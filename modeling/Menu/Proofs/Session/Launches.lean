import Menu.Session

/-!
# What a stage asks the system to start

The system that starts processes belongs to the world, and it may refuse, or there may be no such process as it is
asked for.  What a stage asks of it is therefore seen from what comes of the stage with every system: a stage that asks
for a launch halts with this answer, or has started this launch and no other, and a stage that asks for nothing does
the same with all of them.

* `Stage.Starts` and `Stage.StartsNothing`: what a stage asks for; no stage does both, or asks for two launches.
* `Stage.Starts.behind`, `Stage.Starts.before`, `Stage.StartsNothing.behind`: chains of stages.
* `starts_runCommand` and `startsNothing_runCommand`: the command of the chosen entry, if it has one.
-/

namespace Menu

/-- The world with another system that starts processes. -/
def World.withSystem (w : World) (start : Launch → Except StartFailure Nat) : World :=
  { w with start }

/-- A stage asks for one launch: it halts if the system refuses it or there is no such process, and it has started it
otherwise. -/
structure Stage.Starts (stage : Stage) (w : World) (s : State) (launch : Launch) : Prop where
  refused : ∀ start why, start launch = .error (.refused why) →
    (stage (w.withSystem start) s).1 = .error (.complaint (.notLaunched ⟨launch.args, why⟩)) ∧
      (stage (w.withSystem start) s).2.launches = w.launches
  invalid : ∀ start why, start launch = .error (.invalid why) →
    (stage (w.withSystem start) s).1 = .error (.unstartable why) ∧
      (stage (w.withSystem start) s).2.launches = w.launches
  started : ∀ start process, start launch = .ok process →
    (∃ s' index, (stage (w.withSystem start) s).1 = .ok s' ∧
        s'.launched = some ⟨index, launch.args, some process⟩) ∧
      (stage (w.withSystem start) s).2.launches = w.launches ++ [launch]

/-- A stage asks for nothing: it does not look at the system. -/
structure Stage.StartsNothing (stage : Stage) (w : World) (s : State) : Prop where
  same : ∀ start, stage (w.withSystem start) s = ((stage w s).1, (stage w s).2.withSystem start)
  launches : (stage w s).2.launches = w.launches

variable {stage : Stage} {rest : List Stage} {w between : World} {s mid : State} {why : Halt}

theorem pipeline_of_error (halted : stage w s = (.error why, between)) :
    pipeline (stage :: rest) w s = (.error why, between) := by
  rw [pipeline, halted]

namespace Stage

variable {launch launch' : Launch}

theorem Starts.unique (one : stage.Starts w s launch) (other : stage.Starts w s launch') : launch = launch' := by
  have first := (one.started (fun _ => .ok 0) 0 rfl).2
  rw [(other.started (fun _ => .ok 0) 0 rfl).2] at first
  exact (List.cons.inj (List.append_cancel_left first)).1.symm

theorem StartsNothing.not_starts (nothing : stage.StartsNothing w s) : ¬ stage.Starts w s launch := by
  intro starts
  have added := (starts.started (fun _ => .ok 0) 0 rfl).2
  rw [nothing.same] at added
  have same : w.launches = w.launches ++ [launch] := nothing.launches.symm.trans added
  simp at same

/-- At most one process is started. -/
theorem Starts.launches (starts : stage.Starts w s launch) :
    (stage w s).2.launches = w.launches ∨ (stage w s).2.launches = w.launches ++ [launch] := by
  cases answer : w.start launch with
  | error failure =>
    cases failure with
    | refused why => exact .inl (starts.refused w.start why answer).2
    | invalid why => exact .inl (starts.invalid w.start why answer).2
  | ok process => exact .inr (starts.started w.start process answer).2

/-! ## Chains of stages -/

theorem pipeline_withSystem (nothing : stage.StartsNothing w s) (ok : stage w s = (.ok mid, between))
    (start : Launch → Except StartFailure Nat) :
    pipeline (stage :: rest) (w.withSystem start) s = pipeline rest (between.withSystem start) mid := by
  rw [pipeline, nothing.same, ok]

theorem StartsNothing.halts (nothing : stage.StartsNothing w s) (halted : stage w s = (.error why, between)) :
    Stage.StartsNothing (pipeline (stage :: rest)) w s := by
  constructor
  · intro start
    rw [pipeline, nothing.same, halted, pipeline_of_error halted]
  · rw [pipeline_of_error halted, ← nothing.launches, halted]

theorem StartsNothing.behind (nothing : stage.StartsNothing w s) (ok : stage w s = (.ok mid, between))
    (later : Stage.StartsNothing (pipeline rest) between mid) :
    Stage.StartsNothing (pipeline (stage :: rest)) w s := by
  have whole : pipeline (stage :: rest) w s = pipeline rest between mid := by rw [pipeline, ok]
  constructor
  · intro start
    rw [pipeline_withSystem nothing ok, whole]
    exact later.same start
  · rw [whole, later.launches, ← nothing.launches, ok]

theorem startsNothing_pipeline {stages : List Stage} (nothing : ∀ stage ∈ stages, ∀ w s, stage.StartsNothing w s)
    (w : World) (s : State) : Stage.StartsNothing (pipeline stages) w s := by
  induction stages generalizing w s with
  | nil => exact ⟨fun _ => rfl, rfl⟩
  | cons stage rest ih =>
    have first := nothing stage List.mem_cons_self w s
    have later := ih fun stage mem => nothing stage (List.mem_cons_of_mem _ mem)
    cases come : stage w s with
    | mk outcome between =>
      cases outcome with
      | error why => exact first.halts come
      | ok mid => exact first.behind come (later between mid)

/-- A launch behind a stage that asks for nothing. -/
theorem Starts.behind (nothing : stage.StartsNothing w s) (ok : stage w s = (.ok mid, between))
    (later : Stage.Starts (pipeline rest) between mid launch) : Stage.Starts (pipeline (stage :: rest)) w s launch := by
  have before : between.launches = w.launches := by rw [← nothing.launches, ok]
  constructor <;> intro start
  all_goals rw [pipeline_withSystem nothing ok, ← before]
  · exact later.refused start
  · exact later.invalid start
  · exact later.started start

/-- A launch before stages that come to their end and leave it as it is. -/
theorem Starts.before (starts : stage.Starts w s launch)
    (onward : ∀ start mid between, stage (w.withSystem start) s = (.ok mid, between) →
      ∃ last after, pipeline rest between mid = (.ok last, after) ∧ last.launched = mid.launched ∧
        after.launches = between.launches) :
    Stage.Starts (pipeline (stage :: rest)) w s launch := by
  constructor
  · intro start why answer
    obtain ⟨halted, same⟩ := starts.refused start why answer
    rw [pipeline_of_error (Prod.ext halted rfl)]
    exact ⟨rfl, same⟩
  · intro start why answer
    obtain ⟨halted, same⟩ := starts.invalid start why answer
    rw [pipeline_of_error (Prod.ext halted rfl)]
    exact ⟨rfl, same⟩
  · intro start process answer
    obtain ⟨⟨mid, index, ok, launched⟩, added⟩ := starts.started start process answer
    obtain ⟨last, after, whole, kept, same⟩ := onward start mid _ (Prod.ext ok rfl)
    have all : pipeline (stage :: rest) (w.withSystem start) s = (.ok last, after) := by
      rw [pipeline, show stage (w.withSystem start) s = (.ok mid, _) from Prod.ext ok rfl, ← whole]
    rw [all]
    exact ⟨⟨last, index, rfl, kept.trans launched⟩, same.trans added⟩

end Stage

/-! ## The stages of one pass -/

theorem startsNothing_checkInput (w : World) (s : State) : checkInput.StartsNothing w s := by
  constructor
  · intro start
    unfold checkInput
    simp only [World.withSystem, announceCheck, World.tell]
    split
    · rfl
    · rfl
    · split <;> rfl
  · unfold checkInput
    dsimp only
    split
    · rfl
    · rfl
    · split <;> rfl

theorem startsNothing_readDocument (w : World) (s : State) : readDocument.StartsNothing w s := by
  have site : ∀ start, (w.withSystem start).site = w.site := fun _ => rfl
  constructor
  · intro start
    unfold readDocument
    rw [site]
    obtain ⟨outcome, events⟩ := View.read w.site s.document
    cases outcome with
    | error why => cases why <;> rfl
    | ok view => rfl
  · unfold readDocument
    obtain ⟨outcome, events⟩ := View.read w.site s.document
    cases outcome with
    | error why => cases why <;> rfl
    | ok view => rfl

theorem startsNothing_writeListing (w : World) (s : State) : writeListing.StartsNothing w s := by
  have prints : ∀ start, (w.withSystem start).unprintable? = w.unprintable? := fun _ => rfl
  have tree : ∀ start, (w.withSystem start).tree = w.tree := fun _ => rfl
  constructor
  · intro start
    unfold writeListing
    cases s.view with
    | none => rfl
    | some view =>
      simp only [prints, tree]
      split
      · rfl
      · split <;> rfl
  · unfold writeListing
    cases s.view with
    | none => rfl
    | some view =>
      dsimp only
      split
      · rfl
      · split <;> rfl

theorem startsNothing_report (w : World) (s : State) : report.StartsNothing w s := by
  constructor
  · intro start
    unfold report
    cases s.view <;> rfl
  · unfold report
    cases s.view <;> rfl

/-! ## The command of an entry -/

variable {view : View} {index : Int} {e : Entry}

/-- The launch that the command of an entry comes to in a world. -/
def Entry.launch (e : Entry) (w : World) : Launch where
  args := e.command.args e.text
  environment := Invocation.environment ⟨e.command.args e.text, e.position, e.source⟩ w.settings.lineVariables
    w.environment

/-- The index that was chosen is that of an entry with a command. -/
def State.Chooses (s : State) (e : Entry) : Prop :=
  ∃ index view, s.execute = some index ∧ s.view = some view ∧ view.get? index = some e ∧ e.hasCommand = true

theorem State.chooses_iff (shown : s.view = some view) :
    s.Chooses e ↔ ∃ index, s.execute = some index ∧ view.get? index = some e ∧ e.hasCommand = true := by
  simp [Chooses, shown]

theorem Entry.invocation_launch (command : e.hasCommand = true) (w : World) :
    e.invocation? = some ⟨e.command.args e.text, e.position, e.source⟩ ∧
      Invocation.launch? ⟨e.command.args e.text, e.position, e.source⟩ w.settings.lineVariables w.environment =
        some (e.launch w) := by
  have text : e.command.args e.text ≠ [] := by simp [Template.args]
  exact ⟨if_pos command, if_neg text⟩

theorem runCommand_of_entry (chosen : s.execute = some index) (shown : s.view = some view)
    (there : view.get? index = some e) : runCommand w s = runEntry w s index e := by
  unfold runCommand
  simp only [chosen, shown, there]

theorem starts_runCommand (chooses : s.Chooses e) : runCommand.Starts w s (e.launch w) := by
  obtain ⟨index, view, chosen, shown, there, command⟩ := chooses
  obtain ⟨invocation, launch⟩ := e.invocation_launch command w
  constructor
  · intro start why answer
    rw [runCommand_of_entry chosen shown there, runEntry, invocation]
    simp only [World.withSystem, launch, World.tell, answer]
    exact ⟨rfl, rfl⟩
  · intro start why answer
    rw [runCommand_of_entry chosen shown there, runEntry, invocation]
    simp only [World.withSystem, launch, World.tell, answer, and_self]
  · intro start process answer
    rw [runCommand_of_entry chosen shown there, runEntry, invocation]
    simp only [World.withSystem, launch, World.tell, answer]
    exact ⟨⟨_, index, rfl, rfl⟩, trivial⟩

theorem runCommand_of_missing (chosen : s.execute = some index) (shown : s.view = some view)
    (missing : view.get? index = none) : runCommand w s = w.refuse (.noEntry index) := by
  unfold runCommand
  simp only [chosen, shown, missing]

theorem runCommand_of_bare (chosen : s.execute = some index) (shown : s.view = some view)
    (there : view.get? index = some e) (bare : e.hasCommand = false) :
    runCommand w s = (.ok { s with launched := some ⟨index, [], none⟩ }, w.tell [.noCommand index]) := by
  rw [runCommand_of_entry chosen shown there, runEntry, Entry.invocation?, bare]
  rfl

theorem startsNothing_runCommand (none : ∀ e, ¬ s.Chooses e) : runCommand.StartsNothing w s := by
  cases chosen : s.execute with
  | none => exact ⟨fun start => by simp [runCommand, chosen], by simp [runCommand, chosen]⟩
  | some index =>
    cases shown : s.view with
    | none => exact ⟨fun start => by simp [runCommand, chosen, shown], by simp [runCommand, chosen, shown]⟩
    | some view =>
      cases there : view.get? index with
      | none =>
        have refused : ∀ w, runCommand w s = w.refuse (.noEntry index) :=
          fun _ => runCommand_of_missing chosen shown there
        exact ⟨fun start => by rw [refused, refused]; rfl, by rw [refused]; rfl⟩
      | some e =>
        have bare : e.hasCommand = false :=
          Bool.eq_false_iff.2 fun command => none e ⟨index, view, chosen, shown, there, command⟩
        have told : ∀ w, runCommand w s =
            (.ok { s with launched := some ⟨index, [], .none⟩ }, w.tell [.noCommand index]) :=
          fun _ => runCommand_of_bare chosen shown there bare
        exact ⟨fun start => by rw [told, told]; rfl, by rw [told]; rfl⟩

/-- The command of the chosen entry is what is asked for, and nothing else. -/
theorem starts_runCommand_iff {launch : Launch} :
    runCommand.Starts w s launch ↔ ∃ e, s.Chooses e ∧ launch = e.launch w := by
  constructor
  · intro starts
    by_cases chooses : ∃ e, s.Chooses e
    · obtain ⟨e, chooses⟩ := chooses
      exact ⟨e, chooses, starts.unique (starts_runCommand chooses)⟩
    · exact absurd starts (startsNothing_runCommand (not_exists.1 chooses)).not_starts
  · rintro ⟨e, chooses, rfl⟩
    exact starts_runCommand chooses

end Menu
