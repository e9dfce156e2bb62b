import Menu.Proofs.Build.Aborts
import Menu.Proofs.Session.Launches
import Menu.Proofs.Session.Fresh
import Menu.Proofs.Session.Stages

/-!
# What a pass leaves behind

A pass over a document ends in one of three ways.  The document is refused, and no file is touched.  Or the pass breaks
off, for one of seven causes, and nothing was started.  Or the listing stands in its file as it was printed, and only
then the command of the chosen entry is started, if there is one.

* `Stage.Refuses`, `Stage.Escapes`, `Stage.Lists`, `Stage.Runs`: the ways in which a pass ends.
* `Session.Breaks`: the causes for which it breaks off.
* `Session.pass_ends`: there are no other ways.
* `Session.breaks_unhindered`: a pass may break off although its files can be read and written.
-/

namespace Menu

open Menu.Tree

variable {w w' between : World} {s s' mid : State} {view : View} {why : Halt} {stage : Stage} {rest : List Stage}
  {launch : Launch} {e : Entry} {read : Tree}

/-! ## The ways in which a pass ends -/

namespace Stage

/-- The document is refused with a word to the user: it is no file, or it cannot be read.  Nothing is printed, and all
files stay as they are. -/
structure Refuses (stage : Stage) (w : World) (s : State) : Prop where
  complaint :
    ((stage w s).1 = .error (.complaint (.noInput (s.located w.settings).document)) ∧
        w.tree.isFile (s.located w.settings).document = .ok false ∧ (stage w s).2.tree = w.tree) ∨
      ∃ why, (stage w s).1 = .error (.complaint (.unreadable why)) ∧
        (View.read (w.siteAt (stage w s).2.tree) (s.located w.settings).document).1 = .error (.fault why)
  files : ∀ place content stamp,
    (stage w s).2.tree.node? place = some (.file content stamp) ↔ w.tree.node? place = some (.file content stamp)
  out : (stage w s).2.out = w.out
  nothing : stage.StartsNothing w s

/-- It breaks off, and nothing was started. -/
structure Escapes (stage : Stage) (w : World) (s : State) (why : Halt) : Prop where
  halted : (stage w s).1 = .error why
  nothing : stage.StartsNothing w s

/-- The listing of the view of the document is printed, and stands in its file. -/
structure Lists (stage : Stage) (w : World) (s : State) (view : View) : Prop where
  views : ∃ read, Views w s read view
  out : (stage w s).2.out = w.out ++ view.listing true
  written : (stage w s).2.tree.read (s.located w.settings).listing = .ok view.written

end Stage

/-- The process of an entry: its arguments, and what its variables tell of it.  All other variables stay. -/
structure Launch.IsFor (launch : Launch) (e : Entry) (w : World) : Prop where
  args : launch.args = e.command.before ++ e.text :: e.command.after
  source : launch.environment.lookup w.settings.lineVariables.source = some e.source.text
  number : w.settings.lineVariables.number ≠ w.settings.lineVariables.source →
    launch.environment.lookup w.settings.lineVariables.number = some (toString e.position)
  others : ∀ name, name ≠ w.settings.lineVariables.number → name ≠ w.settings.lineVariables.source →
    launch.environment.lookup name = w.environment.lookup name

/-- The command of the chosen entry is started, and nothing else.  An index that names no entry is refused. -/
structure Stage.Runs (stage : Stage) (w : World) (s : State) (view : View) : Prop where
  starts : ∀ index e, s.execute = some index → view.get? index = some e → e.hasCommand = true →
    ∃ launch, stage.Starts w s launch ∧ launch.IsFor e w
  outside : ∀ index, s.execute = some index → view.get? index = none →
    (stage w s).1 = .error (.complaint (.noEntry index)) ∧ stage.StartsNothing w s
  idle : (∀ index, s.execute = some index → ∃ e, view.get? index = some e ∧ e.hasCommand = false) →
    (∃ s', (stage w s).1 = .ok s') ∧ stage.StartsNothing w s
  once : (stage w s).2.launches = w.launches ∨ ∃ launch, (stage w s).2.launches = w.launches ++ [launch]

/-! ## Up to the listing -/

theorem Stage.Escapes.of_halt (nothing : stage.StartsNothing w s) (halted : stage w s = (.error why, w')) :
    stage.Escapes w s why :=
  ⟨congrArg Prod.fst halted, nothing⟩

/-- What breaks off without a complaint is not refused. -/
theorem Stage.Escapes.not_refuses (escapes : stage.Escapes w s why) (silent : ∀ complaint, why ≠ .complaint complaint) :
    ¬ stage.Refuses w s := by
  intro refuses
  rcases refuses.complaint with ⟨halted, -⟩ | ⟨_, halted, -⟩
  all_goals exact silent _ (Except.error.inj (escapes.halted.symm.trans halted))

/-- The stages up to the listing. -/
def listingStages : List Stage := [checkInput, readDocument, writeListing]

theorem startsNothing_listingStages (w : World) (s : State) : Stage.StartsNothing (pipeline listingStages) w s := by
  refine Stage.startsNothing_pipeline (fun stage mem => ?_) w s
  simp only [listingStages, List.mem_cons, List.not_mem_nil, or_false] at mem
  rcases mem with rfl | rfl | rfl
  · exact startsNothing_checkInput
  · exact startsNothing_readDocument
  · exact startsNothing_writeListing

/-- They end in one of three ways. -/
theorem listingStages_cases (founded : w.tree.Founded) (s : State) :
    Stage.Refuses (pipeline listingStages) w s ∨
      (∃ why, Unlisted w s why ∧ Stage.Escapes (pipeline listingStages) w s why) ∨
      ∃ view between, pipeline listingStages w s =
          (.ok { s.located w.settings with view := some view, rendered := view.listing true }, between) ∧
        Stage.Lists (pipeline listingStages) w s view ∧ w.StaysAwake between := by
  have quiet := startsNothing_listingStages w s
  rcases checkInput_cases w s with ⟨w₁, halted, missing, tree, out⟩ | ⟨why, w₁, halted, cause⟩ |
    ⟨w₁, checked, checks, out₁, awake₁⟩
  · have whole : pipeline listingStages w s = _ := pipeline_of_error halted
    refine .inl ⟨.inl ?_, ?_, ?_, quiet⟩ <;> rw [whole]
    · exact ⟨rfl, missing, tree⟩
    · rw [tree]
      exact fun _ _ _ => .rfl
    · exact out
  · exact .inr (.inl ⟨why, cause, .of_halt quiet (pipeline_of_error halted)⟩)
  have first : pipeline listingStages w s = pipeline [readDocument, writeListing] w₁ (s.located w.settings) :=
    pipeline_of_ok checked
  have files : ∀ place content stamp,
      w₁.tree.node? place = some (.file content stamp) ↔ w.tree.node? place = some (.file content stamp) := by
    intro place content stamp
    rw [← file_iff_makeDirectories founded s.outputDirectory, checks.made]
  have founded₁ : w₁.tree.Founded := founded.makeDirectories checks.made
  have site : w₁.site = w.siteAt w₁.tree := congrFun awake₁.siteAt w₁.tree
  rcases readDocument_cases w₁ (s.located w.settings) with ⟨why, w₂, halted, failed, tree, out⟩ |
    ⟨why, w₂, halted, failed, ofText⟩ | ⟨view, w₂, got, built, tree₂, out₂, awake₂⟩
  · have whole := first.trans (pipeline_of_error halted)
    refine .inl ⟨.inr ⟨why, ?_⟩, ?_, ?_, quiet⟩ <;> rw [whole]
    · refine ⟨rfl, ?_⟩
      rw [tree, ← site]
      exact failed
    · rw [tree]
      exact files
    · exact out.trans out₁
  · have cause : Unlisted w s (.aborted why) := .aborted checks (site ▸ failed) ofText
    exact .inr (.inl ⟨_, cause, .of_halt quiet (first.trans (pipeline_of_error halted))⟩)
  have second := first.trans (pipeline_of_ok got)
  have views : Views w s w₁.tree view := ⟨checks, site ▸ built⟩
  have prints : w₂.unprintable? = w.unprintable? := (awake₁.trans awake₂).unprintable
  rcases writeListing_cases w₂ (s := { s.located w.settings with view := some view }) rfl with
    ⟨why, w₃, halted, unprintable⟩ | ⟨why, w₃, halted, printable, failed⟩ | ⟨w₃, listed, written, out₃, awake₃⟩
  · have cause : Unlisted w s (.unprinted why) := .unprinted views (prints ▸ unprintable)
    exact .inr (.inl ⟨_, cause, .of_halt quiet (second.trans (pipeline_of_error halted))⟩)
  · have cause : Unlisted w s (.unchanged why) := .unwritten views (prints ▸ printable) (tree₂ ▸ failed)
    exact .inr (.inl ⟨_, cause, .of_halt quiet (second.trans (pipeline_of_error halted))⟩)
  have whole : pipeline listingStages w s = _ := second.trans (pipeline_of_ok listed)
  refine .inr (.inr ⟨view, w₃, whole, ⟨⟨w₁.tree, views⟩, ?_, ?_⟩, (awake₁.trans awake₂).trans awake₃⟩)
  · rw [whole]
    exact out₃.trans (by rw [out₂, out₁])
  · rw [whole]
    rw [tree₂] at written
    exact read_of_write founded₁ written

/-! ## The whole pass -/

theorem pipeline_append (first rest : List Stage) : pipeline (first ++ rest) = pipeline (pipeline first :: rest) := by
  funext w s
  induction first generalizing w s with
  | nil => rfl
  | cons stage first ih =>
    rw [List.cons_append, pipeline, pipeline, pipeline]
    obtain ⟨outcome, between⟩ := stage w s
    cases outcome with
    | error why => rfl
    | ok mid =>
      have onward := ih between mid
      rw [pipeline] at onward
      exact onward

theorem Stage.Refuses.whole (refuses : stage.Refuses w s) : Stage.Refuses (pipeline (stage :: rest)) w s := by
  obtain ⟨why, halted⟩ : ∃ why, stage w s = (.error why, (stage w s).2) := by
    rcases refuses.complaint with ⟨halted, -⟩ | ⟨why, halted, -⟩
    · exact ⟨_, Prod.ext halted rfl⟩
    · exact ⟨_, Prod.ext halted rfl⟩
  have same : pipeline (stage :: rest) w s = stage w s := (pipeline_of_error halted).trans halted.symm
  constructor
  case nothing => exact refuses.nothing.halts halted
  all_goals rw [same]
  case complaint => exact refuses.complaint
  case files => exact refuses.files
  case out => exact refuses.out

theorem Stage.Escapes.whole (escapes : stage.Escapes w s why) : Stage.Escapes (pipeline (stage :: rest)) w s why := by
  have halted : stage w s = (.error why, (stage w s).2) := Prod.ext escapes.halted rfl
  exact .of_halt (escapes.nothing.halts halted) (pipeline_of_error halted)

theorem Stage.Escapes.behind (later : Stage.Escapes (pipeline rest) between mid why)
    (nothing : stage.StartsNothing w s) (ok : stage w s = (.ok mid, between)) :
    Stage.Escapes (pipeline (stage :: rest)) w s why :=
  ⟨by rw [pipeline_of_ok ok]; exact later.halted, nothing.behind ok later.nothing⟩

namespace Environment

variable {name other : String}

theorem lookup_set_self (env : Environment) (name value : String) : (env.set name value).lookup name = some value := by
  rw [set, List.lookup_append, lookup_filter fun key => key ≠ name]
  simp

theorem lookup_set_of_ne (apart : other ≠ name) (env : Environment) (value : String) :
    (env.set name value).lookup other = env.lookup other := by
  rw [set, List.lookup_append, lookup_filter fun key => key ≠ name]
  simp [apart, List.lookup_cons, beq_eq_false_iff_ne.2 apart]

end Environment

theorem Entry.launch_isFor (e : Entry) (w : World) : (e.launch w).IsFor e w where
  args := rfl
  source := Environment.lookup_set_self _ _ _
  number apart := (Environment.lookup_set_of_ne apart _ _).trans (Environment.lookup_set_self _ _ _)
  others _ number source := (Environment.lookup_set_of_ne source _ _).trans (Environment.lookup_set_of_ne number _ _)

theorem Launch.IsFor.of_keeps (keeps : w.Keeps w') (launched : launch.IsFor e w') : launch.IsFor e w where
  args := launched.args
  source := keeps.settings ▸ launched.source
  number := keeps.settings ▸ launched.number
  others := keeps.settings ▸ keeps.environment ▸ launched.others

theorem Stage.Runs.behind (nothing : stage.StartsNothing w s) (ok : stage w s = (.ok mid, between))
    (keeps : w.Keeps between) (chosen : mid.execute = s.execute)
    (later : Stage.Runs (pipeline rest) between mid view) : Stage.Runs (pipeline (stage :: rest)) w s view := by
  have whole : pipeline (stage :: rest) w s = pipeline rest between mid := pipeline_of_ok ok
  obtain ⟨starts, outside, idle, once⟩ := later
  rw [chosen] at starts outside idle
  constructor
  case starts =>
    intro index e chosen found command
    obtain ⟨launch, started, isFor⟩ := starts index e chosen found command
    exact ⟨launch, started.behind nothing ok, isFor.of_keeps keeps⟩
  case outside =>
    intro index chosen missing
    obtain ⟨refused, quiet⟩ := outside index chosen missing
    exact ⟨by rw [whole, refused], nothing.behind ok quiet⟩
  case idle =>
    intro bare
    obtain ⟨ended, quiet⟩ := idle bare
    exact ⟨by rw [whole]; exact ended, nothing.behind ok quiet⟩
  case once =>
    rw [whole, ← nothing.launches, ok]
    exact once

/-- What each stage keeps is kept by all of them. -/
theorem keeps_pipeline {p : World → Prop} {stages : List Stage}
    (kept : ∀ stage ∈ stages, ∀ w s, p w → p (stage w s).2) (here : p w) (s : State) : p (pipeline stages w s).2 := by
  induction stages generalizing w s with
  | nil => exact here
  | cons stage rest ih =>
    have first := kept stage List.mem_cons_self w s here
    rw [pipeline]
    cases come : stage w s with
    | mk outcome between =>
      rw [come] at first
      cases outcome with
      | error why => exact first
      | ok mid => exact ih (fun stage mem => kept stage (List.mem_cons_of_mem _ mem)) first mid

theorem pipeline_still (w : World) (s : State) :
    (pipeline [runCommand, report] w s).2.tree = w.tree ∧ (pipeline [runCommand, report] w s).2.out = w.out := by
  refine keeps_pipeline (p := fun now => now.tree = w.tree ∧ now.out = w.out) (fun stage mem now s same => ?_)
    ⟨rfl, rfl⟩ s
  simp only [List.mem_cons, List.not_mem_nil, or_false] at mem
  rcases mem with rfl | rfl
  · exact ⟨(runCommand_still now s).1.trans same.1, (runCommand_still now s).2.trans same.2⟩
  · exact ⟨(report_still now s).1.trans same.1, (report_still now s).2.trans same.2⟩

theorem pipeline_report (shown : s.view = some view) (w : World) :
    ∃ w', pipeline [report] w s = (.ok s, w') ∧ w'.launches = w.launches := by
  obtain ⟨w', told, -⟩ := report_of_shown (w := w) shown
  refine ⟨w', pipeline_of_ok told, ?_⟩
  have quiet := (startsNothing_report w s).launches
  rwa [told] at quiet

theorem startsNothing_pipeline_report (w : World) (s : State) : Stage.StartsNothing (pipeline [report]) w s :=
  Stage.startsNothing_pipeline (by simpa using startsNothing_report) w s

/-- A chosen entry with a command has its command started. -/
theorem starts_of_chooses (shown : s.view = some view) (chooses : s.Chooses e) :
    Stage.Starts (pipeline [runCommand, report]) w s (e.launch w) := by
  refine (starts_runCommand chooses).before fun start mid between ran => ?_
  obtain ⟨shown', -⟩ := runCommand_ok ran
  obtain ⟨after, told, launches⟩ := pipeline_report (shown'.trans shown) between
  exact ⟨mid, after, told, rfl, launches⟩

/-- If none is chosen, nothing is started. -/
theorem startsNothing_of_not_chooses (w : World) (none : ∀ e, ¬ s.Chooses e) :
    Stage.StartsNothing (pipeline [runCommand, report]) w s := by
  have quiet := startsNothing_runCommand (w := w) none
  cases ran : runCommand w s with
  | mk outcome between =>
    cases outcome with
    | error why => exact quiet.halts ran
    | ok mid => exact quiet.behind ran (startsNothing_pipeline_report between mid)

theorem runCommand_runs (shown : s.view = some view) : Stage.Runs (pipeline [runCommand, report]) w s view := by
  constructor
  case starts =>
    intro index e chosen found command
    have chooses : s.Chooses e := (State.chooses_iff shown).2 ⟨index, chosen, found, command⟩
    exact ⟨e.launch w, starts_of_chooses shown chooses, e.launch_isFor w⟩
  case outside =>
    intro index chosen missing
    refine ⟨?_, startsNothing_of_not_chooses w fun e chooses => ?_⟩
    · rw [pipeline_of_error (runCommand_of_missing chosen shown missing)]
    · obtain ⟨index', chosen', found, -⟩ := (State.chooses_iff shown).1 chooses
      cases chosen.symm.trans chosen'
      cases missing.symm.trans found
  case idle =>
    intro bare
    constructor
    · obtain ⟨mid, between, ran, shown'⟩ :
          ∃ mid between, runCommand w s = (.ok mid, between) ∧ mid.view = some view := by
        cases chosen : s.execute with
        | none => exact ⟨s, w, runCommand_of_idle chosen, shown⟩
        | some index =>
          obtain ⟨e, found, bare⟩ := bare index chosen
          exact ⟨_, _, runCommand_of_bare chosen shown found bare, shown⟩
      obtain ⟨after, told, -⟩ := pipeline_report shown' between
      exact ⟨mid, by rw [pipeline_of_ok ran, told]⟩
    · refine startsNothing_of_not_chooses w fun e chooses => ?_
      obtain ⟨index, chosen, found, command⟩ := (State.chooses_iff shown).1 chooses
      obtain ⟨e', found', bare⟩ := bare index chosen
      cases found.symm.trans found'
      rw [command] at bare
      cases bare
  case once =>
    by_cases chooses : ∃ e, s.Chooses e
    · obtain ⟨e, chooses⟩ := chooses
      rcases (starts_of_chooses (w := w) shown chooses).launches with same | added
      · exact .inl same
      · exact .inr ⟨_, added⟩
    · exact .inl (startsNothing_of_not_chooses w (not_exists.1 chooses)).launches

namespace Session

/-- The stages of a session up to the listing. -/
def toListing (options : Options) : Stage :=
  pipeline ((stages options).take 3)

/-- The stages of a session, watching apart. -/
def pass (options : Options) : Stage :=
  pipeline ((stages options).take 5)

variable {options : Options} {inputDirectory outputDirectory : Path}

/-- Why a pass breaks off. -/
inductive Breaks (options : Options) (w : World) (s : State) : Halt → Prop
  /-- The option for the document has no value. -/
  | noName : options.inputFile = .nothing → Breaks options w s (.missingValue .inputFile)
  /-- There is no listing. -/
  | unlisted {why : Halt} : options.inputFile ≠ .nothing → Unlisted w s why → Breaks options w s why
  /-- There is a listing, and the option for the entry has no value. -/
  | noIndex {view : View} :
    options.execute = some .nothing → (toListing options).Lists w s view →
    Breaks options w s (.missingValue .execute)

theorem escapes_lackDocument (w : World) (s : State) : lackDocument.Escapes w s (.missingValue .inputFile) :=
  .of_halt ⟨fun _ => rfl, rfl⟩ rfl

theorem escapes_lackEntry (w : World) (s : State) : lackEntry.Escapes w s (.missingValue .execute) :=
  .of_halt ⟨fun _ => rfl, rfl⟩ rfl

/-- With values for its options, a pass is that of the other modules. -/
theorem pass_eq_onePass (document : options.inputFile ≠ .nothing) (entry : options.execute ≠ some .nothing) :
    pass options = pipeline onePass := by
  rw [pass, stages_eq_onePass document entry]
  rfl

theorem pass_of_named (name : String) : pass { inputFile := .value name } = pipeline onePass :=
  pass_eq_onePass nofun nofun

/-- **A pass ends in one of three ways.**  The document is refused and no file is touched; or it breaks off for a cause,
and nothing was started; or the listing was printed and written before the command of the chosen entry is started, if
it has one.  The index that was chosen decides what is started, and the system whether it is. -/
theorem pass_ends (w : FoundedWorld) (options : Options) (inputDirectory outputDirectory : Path) :
    (pass options).Refuses w.toWorld (initial options inputDirectory outputDirectory) ∨
    (∃ why, Breaks options w.toWorld (initial options inputDirectory outputDirectory) why ∧
      (pass options).Escapes w.toWorld (initial options inputDirectory outputDirectory) why) ∨
    ∃ view, (∃ mid, (toListing options w.toWorld (initial options inputDirectory outputDirectory)).1 = .ok mid) ∧
      (toListing options).Lists w.toWorld (initial options inputDirectory outputDirectory) view ∧
      (toListing options).StartsNothing w.toWorld (initial options inputDirectory outputDirectory) ∧
      (pass options).Lists w.toWorld (initial options inputDirectory outputDirectory) view ∧
      (pass options).Runs w.toWorld (initial options inputDirectory outputDirectory) view := by
  generalize initial options inputDirectory outputDirectory = s
  by_cases named : options.inputFile = .nothing
  · have whole : pass options = pipeline [lackDocument, readDocument, writeListing,
        if options.execute = some .nothing then lackEntry else runCommand, report] := by
      simp [pass, stages, named]
    rw [whole]
    exact .inr (.inl ⟨_, .noName named, (escapes_lackDocument w.toWorld s).whole⟩)
  have listing : toListing options = pipeline listingStages := by
    simp [toListing, stages, named, listingStages]
  have quiet := startsNothing_listingStages w.toWorld s
  by_cases chosen : options.execute = some .nothing
  · have whole : pass options = pipeline [pipeline listingStages, lackEntry, report] := by
      rw [← pipeline_append]
      simp [pass, stages, named, chosen, listingStages]
    rw [whole]
    rcases listingStages_cases w.founded s with refuses | ⟨why, cause, escapes⟩ | ⟨view, between, ok, lists, -⟩
    · exact .inl refuses.whole
    · exact .inr (.inl ⟨why, .unlisted named cause, escapes.whole⟩)
    · exact .inr (.inl ⟨_, .noIndex chosen (listing ▸ lists), (escapes_lackEntry _ _).whole.behind quiet ok⟩)
  have whole : pass options = pipeline [pipeline listingStages, runCommand, report] := by
    rw [← pipeline_append]
    exact pass_eq_onePass named chosen
  rw [listing, whole]
  rcases listingStages_cases w.founded s with refuses | ⟨why, cause, escapes⟩ | ⟨view, between, ok, lists, awake⟩
  · exact .inl refuses.whole
  · exact .inr (.inl ⟨why, .unlisted named cause, escapes.whole⟩)
  refine .inr (.inr ⟨view, ⟨_, by rw [ok]⟩, lists, quiet, ?_, (runCommand_runs rfl).behind quiet ok awake.toKeeps rfl⟩)
  obtain ⟨views, out, written⟩ := lists
  have after : pipeline [pipeline listingStages, runCommand, report] w.toWorld s = _ := pipeline_of_ok ok
  rw [ok] at out written
  obtain ⟨tree, silent⟩ := pipeline_still between
    { s.located w.settings with view := some view, rendered := view.listing true }
  refine ⟨views, ?_, ?_⟩ <;> rw [after]
  · exact silent.trans out
  · rw [tree]
    exact written

end Session

/-! ## A pass that starts a command -/

/-- A document with a command, in the root directory. -/
def World.ordering : World :=
  { World.importing with tree := .holding [("menu", "#-pre echo\nsoup")] }

def FoundedWorld.ordering : FoundedWorld :=
  ⟨.ordering, founded_holding _⟩

/-- Its only entry is chosen. -/
def Options.ordering : Options where
  inputFile := .value "menu"
  execute := some (.value 0)

def State.ordering : State :=
  Session.initial .ordering (.ofPlace []) (.ofPlace [])

/-- What the document shows. -/
def View.ordered : View where
  root := ⟨.root, ["menu"]⟩
  title := "/menu"
  entries := [⟨"soup", ⟨.root, ["menu"]⟩, 2, .normal, ⟨["echo"], []⟩⟩]
  sources := [⟨.root, ["menu"]⟩]

section Ordering

theorem entry_ordering :
    World.ordering.tree.entry [] "menu" = .ok (.file (inAscii "#-pre echo\nsoup") (.set 0)) := rfl

theorem straight_ordering : World.ordering.tree.Straight ["menu"] :=
  Straight.root.append (by decide) entry_ordering (by simp)

theorem made_ordering :
    World.ordering.tree.makeDirectories State.ordering.outputDirectory = (.ok (), World.ordering.tree) :=
  makeDirectories_of_straight Straight.root (founded_holding _).root rfl

theorem read_ordering : (View.read World.ordering.site ⟨.root, ["menu"]⟩).1 = .ok .ordered := by
  have opened : World.ordering.site.openFile ⟨.root, ["menu"]⟩ = .ok (.ofLines ["#-pre echo", "soup"]) := by
    refine (World.opened_importing (by decide) entry_ordering).trans ?_
    rfl
  have document : World.ordering.site.openDocument ⟨.root, ["menu"]⟩ =
      .ok (⟨.root, ["menu"]⟩, .ofLines ["#-pre echo", "soup"]) :=
    Site.openDocument_ok_iff.2 ⟨canonical_of_straight straight_ordering, opened⟩
  have whole : Build.Leads World.ordering.site
      (Build.start ⟨.root, ["menu"]⟩ (.ofLines ["#-pre echo", "soup"])) _ ⟨[], _⟩ :=
    .step trivial rfl (.step trivial rfl (.single trivial rfl))
  rw [View.read_of_leads document whole rfl]
  rfl

/-- The listing is written, and then a process is started. -/
theorem exists_starts_ordering : ∃ launch, (Session.pass .ordering).Starts .ordering .ordering launch := by
  have document : (State.ordering.located World.ordering.settings).document = ⟨.root, ["menu"]⟩ := by decide +kernel
  have listing : (State.ordering.located World.ordering.settings).listing = ⟨.root, ["lines.txt"]⟩ := by decide +kernel
  obtain ⟨w₁, w₂, checked, -, got, tree, awake⟩ := exists_readDocument
    (by rw [document]; exact isFile_of_straight straight_ordering (entry_eq_ok entry_ordering)) made_ordering
    (by rw [document]; exact read_ordering)
  have writes : w₂.WritesAll := .of_keeps ⟨fun _ => rfl, fun _ => rfl⟩ awake.toKeeps tree
  have proper : World.ordering.tree.Proper [] "lines.txt" := proper_listing.of_surrogates rfl
  obtain ⟨after, written⟩ : ∃ after, w₂.tree.write (State.ordering.located World.ordering.settings).listing
      View.ordered.written = .ok after := by
    rw [tree, listing]
    exact ⟨_, write_of_missing Straight.root (founded_holding _).root proper rfl _⟩
  obtain ⟨w₃, listed, -⟩ := writeListing_of_write
    (s := { State.ordering.located World.ordering.settings with view := some .ordered }) rfl writes written
  have chooses : State.Chooses { State.ordering.located World.ordering.settings with
      view := some .ordered, rendered := View.ordered.listing true }
      ⟨"soup", ⟨.root, ["menu"]⟩, 2, .normal, ⟨["echo"], []⟩⟩ := ⟨0, _, rfl, rfl, rfl, rfl⟩
  exact ⟨_, .behind (startsNothing_checkInput _ _) checked (.behind (startsNothing_readDocument _ _) got
    (.behind (startsNothing_writeListing _ _) listed (starts_of_chooses rfl chooses)))⟩

/-- A pass over a document with a command: it comes to its listing, and the command is started. -/
theorem pass_ends_ordering :
    ∃ launch, (Session.pass .ordering).Lists .ordering .ordering .ordered ∧
      (Session.pass .ordering).Starts .ordering .ordering launch ∧
      launch.IsFor ⟨"soup", ⟨.root, ["menu"]⟩, 2, .normal, ⟨["echo"], []⟩⟩ .ordering := by
  obtain ⟨launch, starts⟩ := exists_starts_ordering
  rcases Session.pass_ends .ordering .ordering (.ofPlace []) (.ofPlace []) with refuses | ⟨why, -, escapes⟩ |
    ⟨view, -, -, -, lists, runs⟩
  · exact absurd starts refuses.nothing.not_starts
  · exact absurd starts escapes.nothing.not_starts
  obtain rfl : view = .ordered := by
    obtain ⟨read, ⟨-, made⟩, built⟩ := lists.views
    cases made.symm.trans made_ordering
    have document : (State.ordering.located World.ordering.settings).document = ⟨.root, ["menu"]⟩ := by decide +kernel
    have built : (View.read World.ordering.site (State.ordering.located World.ordering.settings).document).1 =
        .ok view := built
    rw [document] at built
    exact Except.ok.inj (built.symm.trans read_ordering)
  obtain ⟨launch, starts, isFor⟩ := runs.starts 0 _ rfl rfl rfl
  exact ⟨launch, lists, starts, isFor⟩

end Ordering

/-! ## Passes that break off unhindered -/

/-- A pass breaks off although the output directory is there, the listing can be written, and no text ends the build.
It is not refused, and there is no listing. -/
structure Session.BreaksUnhindered (options : Options) (w : World) (s : State) (why : Halt) : Prop where
  made : w.tree.makeDirectories s.outputDirectory = (.ok (), w.tree)
  writable : ∀ content, ∃ tree, w.tree.write (s.located w.settings).listing content = .ok tree
  readable : ∀ abort, (View.read w.site (s.located w.settings).document).1 = .error abort → ¬ abort.OfText
  escapes : (pass options).Escapes w s why
  unrefused : ¬ (pass options).Refuses w s
  unlisted : ∀ view, ¬ (pass options).Lists w s view

/-- A name of 256 letters. -/
def longName : String :=
  String.ofList (List.replicate 256 'a')

/-- The document goes by it. -/
def Options.long : Options where
  inputFile := .value longName

def State.long : State :=
  Session.initial .long (.ofPlace []) (.ofPlace [])

theorem exists_write_importing (content : List UInt8) :
    ∃ tree, World.importing.tree.write ⟨.root, ["lines.txt"]⟩ content = .ok tree :=
  have proper : World.importing.tree.Proper [] "lines.txt" := proper_listing.of_surrogates rfl
  ⟨_, write_of_missing Straight.root rfl proper rfl content⟩

section Long

theorem toList_long : longName.toList = List.replicate 256 'a' :=
  String.toList_ofList

theorem named_long : longName ≠ "" ∧ longName ≠ "." ∧ longName ≠ ".." ∧ maxNameBytes < longName.utf8ByteSize := by
  decide +kernel

theorem takes_long : World.importing.tree.takes longName = true := by
  rw [takes, toList_long]
  decide +kernel

theorem document_long : (State.long.located World.importing.settings).document = ⟨.root, [longName]⟩ := by
  have pieces : Text.piecesAt '/' (List.replicate 256 'a') = [List.replicate 256 'a'] := by decide +kernel
  have spelled : Path.ofText longName = ⟨.here, [longName]⟩ := by
    have kept : [longName].filter (fun name => name ≠ "" ∧ name ≠ ".") = [longName] := by simp [named_long]
    rw [Path.ofText, Path.pieces, toList_long, pieces]
    exact congrArg _ kept
  rw [State.located, show State.long.inputFile = longName from rfl, spelled]
  rfl

theorem isFile_long :
    World.importing.tree.isFile ⟨.root, [longName]⟩ = .error (.refused .nameTooLong ⟨.root, [longName]⟩) := by
  obtain ⟨some, noDot, noDots, long⟩ := named_long
  have clean : World.importing.tree.takesPath (Path.ofPlace ([] ++ [longName])) = true := by
    rw [takesPath, Path.ofPlace, List.nil_append, List.all_cons, takes_long]
    rfl
  have refused := isFile_of_long Straight.root rfl ⟨some, noDot, noDots⟩ long clean
  exact refused

theorem openDocument_long :
    World.importing.site.openDocument ⟨.root, [longName]⟩ =
      .error (.fault (.refused .nameTooLong ⟨.root, [longName]⟩)) := by
  obtain ⟨some, noDot, noDots, long⟩ := named_long
  have entry : World.importing.tree.entry [] longName = .error (.refused .nameTooLong ⟨.root, [longName]⟩) :=
    entry_of_long rfl takes_long long
  rw [Site.openDocument, show World.importing.site.tree = World.importing.tree from rfl, canonical,
    walk_of_error (not_or.2 ⟨some, noDot⟩) noDots entry]
  rfl

/-- The system does not say whether it is a file. -/
theorem breaks_long :
    Session.BreaksUnhindered .long .importing .long
      (.unchanged (.fault (.refused .nameTooLong ⟨.root, [longName]⟩))) := by
  have document := document_long
  have listing : (State.long.located World.importing.settings).listing = ⟨.root, ["lines.txt"]⟩ := by decide +kernel
  have unseen : World.importing.tree.isFile (State.long.located World.importing.settings).document =
      .error (.refused .nameTooLong ⟨.root, [longName]⟩) := by
    rw [document]
    exact isFile_long
  obtain ⟨w', halted⟩ := checkInput_of_unseen unseen
  have passes : Session.pass .long = pipeline onePass := Session.pass_of_named longName
  have escapes : (Session.pass .long).Escapes .importing .long
      (.unchanged (.fault (.refused .nameTooLong ⟨.root, [longName]⟩))) := by
    rw [passes]
    exact .of_halt ((startsNothing_checkInput _ _).halts halted) (pipeline_of_error halted)
  refine ⟨makeDirectories_of_straight Straight.root rfl rfl, fun content => ?writable, fun abort failed => ?readable,
    escapes, escapes.not_refuses (by simp), fun view lists => ?unlisted⟩
  case writable =>
    rw [listing]
    exact exists_write_importing content
  case readable =>
    rw [document, View.read, openDocument_long] at failed
    cases failed
    rintro ⟨⟩
  case unlisted =>
    obtain ⟨read, ⟨found, -⟩, -⟩ := lists.views
    cases unseen.symm.trans found

end Long

/-- A document whose only line is a lone surrogate. -/
def World.lone : World where
  tree := .escaped "\\ud800\n"
  home? := none
  settings := { encoding := "raw_unicode_escape" }
  start _ := .ok 1

def Options.menu : Options where
  inputFile := .value "menu"

def State.lone : State :=
  Session.initial .menu (.ofPlace []) (.ofPlace [])

/-- What the document shows. -/
def View.lone : View where
  root := ⟨.root, ["menu"]⟩
  title := "/menu"
  entries := [⟨loneName, ⟨.root, ["menu"]⟩, 1, .normal, {}⟩]
  sources := [⟨.root, ["menu"]⟩]

section Lone

theorem read_lone : (View.read World.lone.site ⟨.root, ["menu"]⟩).1 = .ok .lone := by
  have document : World.lone.site.openDocument ⟨.root, ["menu"]⟩ = .ok (⟨.root, ["menu"]⟩, .ofLines [loneName]) :=
    openDocument_escaped (by decide +kernel)
  have parsed : World.lone.site.markers.parse loneName = .text loneName := rfl
  have whole : Build.Leads World.lone.site (Build.start ⟨.root, ["menu"]⟩ (.ofLines [loneName])) _ ⟨[], _⟩ :=
    .step trivial rfl (.single trivial rfl)
  rw [View.read_of_leads document whole rfl]
  rfl

theorem proper_lone : World.lone.tree.Proper [] "lines.txt" := by
  constructor <;> decide +kernel

/-- The file of the listing is left empty. -/
theorem writeText_lone :
    ∃ tree, World.lone.tree.writeText ⟨.root, ["lines.txt"]⟩ (View.lone.listing true) =
        (.error (.flawed (.lacking ⟨9, [0xd800]⟩)), tree) ∧ tree.read ⟨.root, ["lines.txt"]⟩ = .ok [] := by
  have lacking : (View.lone.listing true).toList.any (Text.lacks World.lone.tree.surrogate? fun _ => false) = true ∧
      Text.lackIn World.lone.tree.surrogate? (fun _ => false) (View.lone.listing true).toList = ⟨9, [0xd800]⟩ := by
    decide +kernel
  have written : World.lone.tree.write ⟨.root, ["lines.txt"]⟩ [] = .ok _ :=
    write_of_missing Straight.root rfl proper_lone rfl []
  refine ⟨World.lone.tree.count.create ["lines.txt"] (.file [] World.lone.tree.count.now), ?_, ?_⟩
  · simp only [writeText, lacking.1, if_true, lacking.2, attempt, Attempt.andThen, written]
    rfl
  · have entry : Tree.entry (World.lone.tree.count.create ["lines.txt"] (.file [] World.lone.tree.count.now)) []
        "lines.txt" = .ok (.file [] World.lone.tree.count.now) := rfl
    exact read_of_straight (Straight.root.append proper_lone.named entry (by simp)) (entry_eq_ok entry)

/-- The listing has no bytes. -/
theorem breaks_lone :
    Session.BreaksUnhindered .menu .lone .lone (.unchanged (.flawed (.lacking ⟨9, [0xd800]⟩))) := by
  have document : (State.lone.located World.lone.settings).document = ⟨.root, ["menu"]⟩ := by decide +kernel
  have listing : (State.lone.located World.lone.settings).listing = ⟨.root, ["lines.txt"]⟩ := by decide +kernel
  have file : World.lone.tree.isFile (State.lone.located World.lone.settings).document = .ok true := by
    rw [document]
    exact isFile_of_straight (straight_escaped _) rfl
  have made : World.lone.tree.makeDirectories State.lone.outputDirectory = (.ok (), World.lone.tree) :=
    makeDirectories_of_straight Straight.root rfl rfl
  have built : (View.read World.lone.site (State.lone.located World.lone.settings).document).1 = .ok .lone := by
    rw [document]
    exact read_lone
  obtain ⟨w₁, w₂, checked, -, got, tree, awake⟩ := exists_readDocument file made built
  obtain ⟨left, failed, empty⟩ := writeText_lone
  rw [← listing, ← tree] at failed
  obtain ⟨w₃, halted, tree₃⟩ := writeListing_of_unwritten
    (s := { State.lone.located World.lone.settings with view := some .lone }) rfl (congrFun awake.unprintable _) failed
  have passes : Session.pass .menu = pipeline onePass := Session.pass_of_named "menu"
  have whole : Session.pass .menu .lone .lone = (.error (.unchanged (.flawed (.lacking ⟨9, [0xd800]⟩))), w₃) := by
    rw [passes]
    exact (pipeline_of_ok checked).trans ((pipeline_of_ok got).trans (pipeline_of_error halted))
  have quiet : (Session.pass .menu).StartsNothing .lone .lone := by
    rw [passes]
    exact .behind (startsNothing_checkInput _ _) checked (.behind (startsNothing_readDocument _ _) got
      ((startsNothing_writeListing _ _).halts halted))
  have escapes := Stage.Escapes.of_halt quiet whole
  refine ⟨made, fun content => ?writable, fun abort failed => ?readable, escapes, escapes.not_refuses (by simp),
    fun view lists => ?unlisted⟩
  case writable =>
    rw [listing]
    exact ⟨_, write_of_missing Straight.root rfl proper_lone rfl content⟩
  case readable =>
    cases built.symm.trans failed
  case unlisted =>
    obtain ⟨read, ⟨-, made'⟩, built'⟩ := lists.views
    cases made.symm.trans made'
    cases built.symm.trans built'
    have written := lists.written
    rw [whole, tree₃, listing, empty] at written
    exact absurd (Except.ok.inj written) (by decide +kernel)

end Lone

/-- The option for the document has no value. -/
def Options.unnamed : Options where
  inputFile := .nothing

def State.unnamed : State :=
  Session.initial .unnamed (.ofPlace []) (.ofPlace [])

theorem breaks_unnamed :
    Session.BreaksUnhindered .unnamed .importing .unnamed (.missingValue .inputFile) := by
  have document : (State.unnamed.located World.importing.settings).document = ⟨.root, []⟩ := by decide +kernel
  have listing : (State.unnamed.located World.importing.settings).listing = ⟨.root, ["lines.txt"]⟩ := by decide +kernel
  have directory : World.importing.tree.status ⟨.root, []⟩ = .ok ([], _) := status_of_straight Straight.root rfl
  have escapes : (Session.pass .unnamed).Escapes .importing .unnamed (.missingValue .inputFile) :=
    (Session.escapes_lackDocument _ _).whole
  refine ⟨makeDirectories_of_straight Straight.root rfl rfl, fun content => ?writable, fun abort failed => ?readable,
    escapes, escapes.not_refuses (by simp), fun view lists => ?unlisted⟩
  case writable =>
    rw [listing]
    exact exists_write_importing content
  case readable =>
    have canonical : World.importing.site.tree.canonical ⟨.root, []⟩ = .ok ⟨.root, []⟩ :=
      canonical_of_straight Straight.root
    have refused : World.importing.site.openFile ⟨.root, []⟩ = .error (.fault (.refused .isDirectory ⟨.root, []⟩)) := by
      refine (World.faithful_importing.openFile World.importing.tree _).trans ?_
      rw [openIn, if_neg (by decide +kernel), Tree.read, directory]
      rfl
    have unopened : World.importing.site.openDocument ⟨.root, []⟩ =
        .error (.fault (.refused .isDirectory ⟨.root, []⟩)) := by
      simp only [Site.openDocument, canonical, refused]
    rw [document, View.read, unopened] at failed
    cases failed
    rintro ⟨⟩
  case unlisted =>
    obtain ⟨read, ⟨found, -⟩, -⟩ := lists.views
    rw [document, isFile, directory] at found
    cases found

/-- **A pass may break off although its files can be read and written.**  The name of the document may be too long for
the system to say whether it is a file, a listing may have no bytes, and an option may have no value. -/
theorem Session.breaks_unhindered :
    BreaksUnhindered .long .importing .long (.unchanged (.fault (.refused .nameTooLong ⟨.root, [longName]⟩))) ∧
      BreaksUnhindered .menu .lone .lone (.unchanged (.flawed (.lacking ⟨9, [0xd800]⟩))) ∧
      BreaksUnhindered .unnamed .importing .unnamed (.missingValue .inputFile) :=
  ⟨breaks_long, breaks_lone, breaks_unnamed⟩

end Menu
