import Menu.Launch
import Menu.Listing
import Menu.Monitor
import Menu.Options
import Menu.Settings

/-!
# Sessions

A session is one run of the program, as a chain of stages.  Each stage takes the state that the one before
it left, and may change the world: the files, what is printed, and the processes that are started.  A stage
may also halt the session, and then the world is as it was left.

* `checkInput` finds the document and makes the output directory.
* `readDocument` builds the view.
* `writeListing` prints the numbered listing and writes it to the output directory.
* `runCommand` starts the command of the chosen entry, if one was chosen.
* `report` sums up.
* `watchFiles` builds and lists anew whenever a file of the view changes, until it is interrupted.  What
  others do to the files meanwhile is a list of batches of edits, one for each time the program sleeps; it is
  interrupted when the batches are used up.
-/

namespace Menu

/-- The command that a session started, or did not. -/
structure Launched where
  index : Int
  args : List String
  process : Option Nat
deriving DecidableEq, Repr

/-- What the stages of a session hand on. -/
structure State where
  inputDirectory : Path
  outputDirectory : Path
  verbosity : Int := 1
  /-- The document, seen from the input directory. -/
  inputFile : String := ""
  /-- The index of the entry whose command is to run. -/
  execute : Option Int := none
  watch : Bool := false
  checked : Bool := false
  document : Path := Path.ofPlace []
  listing : Path := Path.ofPlace []
  view : Option View := none
  rendered : String := ""
  launched : Option Launched := none

/-- What a session acts on, and what there is to see of it. -/
structure World where
  tree : Tree
  home? : Option Spelling
  settings : Settings := {}
  /-- How a file is opened under its canonical path, after so many sleeps and in the tree as it is then. -/
  opening : Nat → Tree → Path → Except OpenFailure Stream := fun _ tree => openIn tree settings.encoding
  /-- The variables of the program itself. -/
  environment : Environment := []
  /-- How the system starts a process. -/
  start : Launch → Except StartFailure Nat
  /-- Why a text cannot be printed, if it cannot. -/
  unprintable? : String → Option String := fun _ => none
  /-- What others do to the files each time the program sleeps. -/
  batches : List (List Edit) := []
  out : String := ""
  err : String := ""
  messages : List Message := []
  /-- The times for which the program has slept. -/
  sleeps : List Number.Binary64 := []
  launches : List Launch := []

/-- Reasons to end a session with a word to the user. -/
inductive Complaint
  | notDirectory (path : Path)
  | noInput (path : Path)
  | unreadable (why : Fault)
  | noDocument
  | noEntry (index : Int)
  | notLaunched (why : LaunchFailure)
  | noView
deriving DecidableEq, Repr

/-- A complaint in words. -/
def Complaint.text : Complaint → String
  | notDirectory path => "Not a directory: " ++ path.text
  | noInput path => "Error: Input file not found: " ++ path.text
  | unreadable why => "Error reading input file: " ++ why.text
  | noDocument => "Error: No document available"
  | noEntry index => "Error: No line with index " ++ toString index
  | notLaunched why => "Error: " ++ why.text
  | noView => "Error: Interpretation failed"

/-- What a stage needs of a view. -/
inductive Need
  | entry
  | sources
deriving DecidableEq, Repr

/-- Why a session halts. -/
inductive Halt
  | complaint (why : Complaint)
  | aborted (why : Abort)
  | unchanged (why : Unchanged)
  /-- A text was not printed. -/
  | unprinted (why : String)
  /-- There is no process for a command. -/
  | unstartable (why : String)
  /-- A stage ran that works on a view, and there was none. -/
  | missingView (need : Need)
  /-- The value of an option is needed, and there is none. -/
  | missingValue (o : OptionName)
deriving DecidableEq, Repr

/-- A step of a session. -/
abbrev Stage := World → State → Except Halt State × World

namespace World

/-- Where the documents of a session are found. -/
def site (w : World) : Site where
  tree := w.tree
  home? := w.home?
  markers := w.settings.markers
  openFile := w.opening w.sleeps.length w.tree

/-- The world with more messages. -/
def tell (w : World) (messages : List Message) : World :=
  { w with messages := w.messages ++ messages }

/-- The world after a complaint was made. -/
def complain (w : World) (why : Complaint) : World :=
  { w with err := w.err ++ why.text ++ "\n" }

/-- Halt with a complaint. -/
def refuse {α : Type} (w : World) (why : Complaint) : Except Halt α × World :=
  (.error (.complaint why), w.complain why)

/-- Halt because a change was not made. -/
def stuck {α : Type} (w : World) (why : Unchanged) : Except Halt α × World :=
  (.error (.unchanged why), w)

end World

/-- Say that the environment is being checked. -/
def announceCheck (w : World) (s : State) : World :=
  w.tell (if 2 ≤ s.verbosity then [.banner, .checking] else [.checking])

/-- Find the document and make the output directory. -/
def checkInput : Stage := fun w s =>
  let w := announceCheck w s
  let document := s.inputDirectory.join (Path.ofText s.inputFile)
  match w.tree.isFile document with
  | .error why => w.stuck (.fault why)
  | .ok false => w.refuse (.noInput document)
  | .ok true =>
    let w := w.tell [.inputFile document]
    match w.tree.makeDirectories s.outputDirectory with
    | (.error why, tree) => { w with tree }.stuck why
    | (.ok (), tree) =>
      let listing := s.outputDirectory.join (Path.ofText w.settings.outputFile)
      (.ok { s with document, listing, checked := true },
        { w with tree }.tell [.outputFile listing])

/-- Build the view of the document. -/
def readDocument : Stage := fun w s =>
  let (outcome, events) := View.read w.site s.document
  let w := w.tell (.reading :: messagesOf events)
  match outcome with
  | .error (.fault why) => w.refuse (.unreadable why)
  | .error why => (.error (.aborted why), w)
  | .ok view =>
    (.ok { s with view := some view }, w.tell [.finishedReading view.size view.sources.length])

/-- Print the numbered listing and write it to the output directory. -/
def writeListing : Stage := fun w s =>
  match s.view with
  | none => w.refuse .noDocument
  | some view =>
    let rendered := view.listing true
    match w.unprintable? rendered with
    | some why => (.error (.unprinted why), w)
    | none =>
      let w := { w with out := w.out ++ rendered }
      match w.tree.writeText s.listing rendered with
      | (.error why, tree) => { w with tree }.stuck why
      | (.ok (), tree) => (.ok { s with rendered }, { w with tree }.tell [.wrote s.listing])

/-- Start the command of the entry with an index. -/
def runEntry (w : World) (s : State) (index : Int) (entry : Entry) : Except Halt State × World :=
  match entry.invocation? with
  | none => (.ok { s with launched := some ⟨index, [], none⟩ }, w.tell [.noCommand index])
  | some invocation =>
    match invocation.launch? w.settings.lineVariables w.environment with
    | none => (.ok { s with launched := some ⟨index, invocation.args, none⟩ }, w)
    | some launch =>
      let w := w.tell [.spawning launch.args]
      match w.start launch with
      | .error (.refused why) => w.refuse (.notLaunched ⟨launch.args, why⟩)
      | .error (.invalid why) => (.error (.unstartable why), w)
      | .ok process =>
        (.ok { s with launched := some ⟨index, invocation.args, some process⟩ },
          { w with launches := w.launches ++ [launch] })

/-- Start the command of the chosen entry, if one was chosen. -/
def runCommand : Stage := fun w s =>
  match s.execute with
  | none => (.ok s, w)
  | some index =>
    match s.view with
    | none => (.error (.missingView .entry), w)
    | some view =>
      match view.get? index with
      | none => w.refuse (.noEntry index)
      | some entry => runEntry w s index entry

/-- Sum up. -/
def report : Stage := fun w s =>
  match s.view with
  | none => w.refuse .noView
  | some view =>
    let executed := match s.launched with
      | some launched => if launched.args = [] then [] else [Message.executed launched.args]
      | none => []
    (.ok s, w.tell ([.title view.title, .entryCount view.size, .output s.listing] ++ executed))

/-- Watch files as they are now. -/
def World.arm (w : World) (paths : List Path) : Monitor × World :=
  let monitor := Monitor.arm w.tree paths
  (monitor, w.tell [.watching monitor.stamps.length])

/-- Build and list anew.  If the document cannot be read, the listing stays and the same files are
watched. -/
def rebuild (w : World) (s : State) (view : View) (monitor : Monitor) :
    Except Halt (State × Monitor) × World :=
  let (outcome, events) := view.reload w.site
  let w := w.tell (messagesOf events)
  match outcome with
  | .error (.fault why) =>
    let (monitor, w) := (w.complain (.unreadable why)).arm monitor.paths
    (.ok (s, monitor), w)
  | .error why => (.error (.aborted why), w)
  | .ok view =>
    match writeListing w { s with view := some view } with
    | (.error why, w) => (.error why, w)
    | (.ok s, w) =>
      let (monitor, w) := w.arm view.sources
      (.ok (s, monitor), w)

/-- Look whether a watched file has changed, and build anew if so. -/
def lookAgain (w : World) (s : State) (monitor : Monitor) : Except Halt (State × Monitor) × World :=
  match monitor.changed? w.tree, s.view with
  | none, _ => (.ok (s, monitor), w)
  | some file, none => (.ok (s, monitor), w.tell [.changed file])
  | some file, some view => rebuild (w.tell [.changed file]) s view monitor

/-- Make the edits of a batch; the first one that fails is the last. -/
def applyEdits (w : World) (edits : List Edit) : Except Halt Unit × World :=
  match Edit.applyAll w.tree edits with
  | (.ok (), tree) => (.ok (), { w with tree })
  | (.error why, tree) => { w with tree }.stuck why

/-- Look, and then sleep. -/
def lookAndSleep (w : World) (s : State) (monitor : Monitor) :
    Except Halt (State × Monitor) × World :=
  match lookAgain w s monitor with
  | (.error why, w) => (.error why, w)
  | (.ok next, w) => (.ok next, { w with sleeps := w.sleeps ++ [w.settings.watchInterval] })

/-- Look and sleep in turns, with a batch of edits after each sleep, until there is none. -/
def watchFor : List (List Edit) → World → State → Monitor → Except Halt State × World
  | [], w, s, monitor =>
    match lookAndSleep w s monitor with
    | (.error why, w) => (.error why, w)
    | (.ok (s, _), w) => (.ok s, w.tell [.stopped])
  | batch :: rest, w, s, monitor =>
    match lookAndSleep w s monitor with
    | (.error why, w) => (.error why, w)
    | (.ok (s, monitor), w) =>
      match applyEdits w batch with
      | (.error why, w) => (.error why, w)
      | (.ok (), w) => watchFor rest w s monitor

/-- Build and list anew whenever a file of the view changes. -/
def watchFiles : Stage := fun w s =>
  match s.view with
  | none => (.error (.missingView .sources), w)
  | some view =>
    let (monitor, w) := w.arm view.sources
    let w := w.tell [.waiting]
    watchFor w.batches { w with batches := [] } s monitor

/-- One stage after the other. -/
def pipeline : List Stage → Stage
  | [], w, s => (.ok s, w)
  | stage :: rest, w, s =>
    match stage w s with
    | (.ok s, w) => pipeline rest w s
    | (.error why, w) => (.error why, w)

/-- The stages of a session that reads a document once. -/
def onePass : List Stage :=
  [checkInput, readDocument, writeListing, runCommand, report]

namespace Session

/-- The name and version of the program. -/
def versionText : String := "lineview 1.0.0"

/-- What is printed for a refused command line. -/
def refusalText (why : UsageError) : String :=
  "lineview: error: " ++ why.text

/-- The state that a session starts from. -/
def initial (options : Options) (inputDirectory outputDirectory : Path) : State where
  inputDirectory := inputDirectory
  outputDirectory := outputDirectory
  verbosity := options.verbosity
  inputFile := options.inputFile.value?.getD ""
  execute := options.execute.bind Given.value?
  watch := options.watch

/-- The stage in the stead of `checkInput` where the option for the document has no value. -/
def lackDocument : Stage := fun w s =>
  (.error (.missingValue .inputFile), announceCheck w s)

/-- The stage in the stead of `runCommand` where the option for the entry has no value. -/
def lackEntry : Stage := fun w _ =>
  (.error (.missingValue .execute), w)

/-- The stages of a session: `onePass` and, if that was asked for, `watchFiles`. -/
def stages (options : Options) : List Stage :=
  [if options.inputFile = .nothing then lackDocument else checkInput, readDocument, writeListing,
    if options.execute = some .nothing then lackEntry else runCommand, report] ++
    if options.watch then [watchFiles] else []

/-- Options that have their values ask for the stages of one pass, and for watching or not. -/
theorem stages_eq_onePass {options : Options} (document : options.inputFile ≠ .nothing)
    (entry : options.execute ≠ some .nothing) :
    stages options = onePass ++ if options.watch then [watchFiles] else [] := by
  simp [stages, onePass, document, entry]

/-- Make the output directory if there is nothing under its path, and see that both directories are
directories. -/
def prepare (w : World) (inputDirectory outputDirectory : Path) : Except Halt Unit × World :=
  match w.tree.status outputDirectory with
  | .ok (_, .file _ _) => w.refuse (.notDirectory outputDirectory)
  | _ =>
    match w.tree.makeDirectories outputDirectory with
    | (.error why, tree) => { w with tree }.stuck why
    | (.ok (), tree) =>
      let w := { w with tree }
      match w.tree.isDirectory inputDirectory with
      | .error why => w.stuck (.fault why)
      | .ok false => w.refuse (.notDirectory inputDirectory)
      | .ok true => (.ok (), w)

/-- A whole session. -/
def run (w : World) (options : Options) (inputDirectory outputDirectory : Path) :
    Except Halt State × World :=
  match prepare w inputDirectory outputDirectory with
  | (.error why, w) => (.error why, w)
  | (.ok (), w) =>
    pipeline (stages options) w (initial options inputDirectory outputDirectory)

end Session

end Menu
