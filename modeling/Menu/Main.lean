import Menu.Session

/-!
# The command line

The program is called with an input directory, an output directory and options.  It lists a document of the
first and writes the listing into the second.

A session decides everything on a tree that is a value.  This module is what lies around it: it reads the
tree from the disk, which is to say the two directories with all that is in them and the directories above,
writes the changes of the session back, and shows what the session says.

What is left out: a session of the command line can never start a process.  `worldOf` refuses every launch, with
the number that the system has for what it does not implement, and so `--execute` ends with a complaint wherever
the chosen entry has a command.
-/

namespace Menu.CommandLine

/-- The place of a path of the disk, with no links above what is there.  It is looked for from the last name
on, given in reverse, until something is there. -/
def placeOf : List String → IO Place
  | [] => return []
  | name :: above => do
    try
      let found ← IO.FS.realPath (Path.ofPlace (name :: above).reverse).text
      return (Path.ofText found.toString).names
    catch _ => return (← placeOf above) ++ [name]

/-- The place of an argument that names a directory. -/
def placeOfArgument (argument : String) : IO Place := do
  let here := Path.ofText (← IO.currentDir).toString
  placeOf (here.join (Path.ofText argument)).names.reverse

/-- The time of the last change, in nanoseconds. -/
def stampOf (data : IO.FS.Metadata) : Stamp :=
  .set (data.modified.sec * 1000000000 + data.modified.nsec.toNat)

/-- What the disk has at a place, if it can be read. -/
def nodeAt (place : Place) : IO (Option Node) := do
  let disk := (← IO.currentDir) / (Path.ofPlace place).text
  try
    let data ← disk.symlinkMetadata
    match data.type with
    | .file => return some (.file (← IO.FS.readBinFile disk).data.toList (stampOf data))
    | .dir => return some (.directory (stampOf data))
    | .symlink => return some (.link (← IO.FS.realPath disk).toString)
    | .other => return none
  catch _ => return none

/-- The names in the directory at a place. -/
def namesIn (place : Place) : IO (List String) := do
  try
    let found ← ((← IO.currentDir) / (Path.ofPlace place).text).readDir
    return found.toList.map (·.fileName)
  catch _ => return []

/-- What the disk has at a place and below it. -/
partial def entriesFrom (place : Place) : IO (List (Place × Node)) := do
  match ← nodeAt place with
  | none => return []
  | some (.directory stamp) =>
    let below ← (← namesIn place).mapM fun name => entriesFrom (place ++ [name])
    return (place, .directory stamp) :: below.flatten
  | some node => return [(place, node)]

/-- What the disk has on the way to a place. -/
def entriesAbove (place : Place) : IO (List (Place × Node)) :=
  (List.range place.length).filterMapM fun count => do
    return (← nodeAt (place.take count)).map (place.take count, ·)

/-- The tree of an input directory and an output directory. -/
def treeOf (input output : Place) : IO Tree := do
  let places ← [input, output].mapM fun place => do
    return (← entriesAbove place) ++ (← entriesFrom place)
  return { entries := places.flatten }

/-- Write to the disk what a tree has gained. -/
def save (before after : Tree) : IO Unit :=
  after.entries.forM fun (place, node) => do
    if before.entries.lookup place ≠ some node then
      match node with
      | .directory _ => IO.FS.createDirAll (Path.ofPlace place).text
      | .file content _ =>
        IO.FS.createDirAll (Path.ofPlace place.dropLast).text
        IO.FS.writeBinFile (Path.ofPlace place).text ⟨content.toArray⟩
      | .link _ => pure ()

/-- Show what a session has said to one who asked for `verbosity`, and save what it has changed.  The world
is left with nothing more to say. -/
def settle (verbosity : Int) (before : Tree) (w : World) : IO World := do
  (Message.shown verbosity w.messages).forM fun (line : String) => IO.eprintln line
  IO.print w.out
  IO.eprint w.err
  save before w.tree
  return { w with messages := [], out := "", err := "" }

/-- The status of a program whose session has halted; a halt without a complaint is put into words here. -/
def statusOf (why : Halt) : IO UInt32 := do
  match why with
  | .complaint _ => pure ()
  | .aborted why => IO.eprintln why.text
  | .unchanged why => IO.eprintln why.text
  | .unprinted why => IO.eprintln why
  | .unstartable why => IO.eprintln why
  | .missingView _ => IO.eprintln Complaint.noView.text
  | .missingValue o => IO.eprintln (UsageError.expectedValue o).text
  return 1

/-- The milliseconds of an interval. -/
def millisecondsOf : Number.Binary64 → UInt32
  | .finite false m e =>
    let (n, d) := Number.Binary64.inUnits (1000 * m) 1 (-e)
    (n / d).toUInt32
  | _ => 0

/-- Look at the files again and again, until the program is stopped. -/
partial def keepWatching (input output : Place) (w : World) (s : State) (monitor : Monitor) :
    IO UInt32 := do
  let before := { ← treeOf input output with surrogate? := w.tree.surrogate? }
  let (outcome, w) := lookAgain { w with tree := before } s monitor
  let w ← settle s.verbosity before w
  match outcome with
  | .error why => statusOf why
  | .ok (s, monitor) =>
    IO.sleep (millisecondsOf w.settings.watchInterval)
    keepWatching input output w s monitor

/-- The settings that the environment and the file `.env` give. -/
def settings : IO (Except (List SettingError) Settings) := do
  let env ← SettingName.all.filterMapM fun name => do
    let key := name.variable_.toUpper
    return (← IO.getEnv key).map (key, ·)
  let file ← try IO.FS.readFile ".env" catch _ => pure ""
  return Settings.load env file

/-- The world of a session on a tree, in which no process can be started. -/
def worldOf (tree : Tree) (settings : Settings) : IO World := do
  let home := (← IO.getEnv "HOME").getD "/"
  return { tree := { tree with surrogate? := Text.Encoding.surrogatesOf settings.encoding }
           home? := Path.home? home
           settings
           start := fun _ => .error (.refused (.reported (some 38) "Function not implemented")) }

/-- Run a session in two directories. -/
def run (options : Options) (settings : Settings) (input output : Place) : IO UInt32 := do
  let before ← treeOf input output
  let w ← worldOf before settings
  let (outcome, w) :=
    Session.run w { options with watch := false } (Path.ofPlace input) (Path.ofPlace output)
  let w ← settle options.verbosity before w
  match outcome with
  | .error why => statusOf why
  | .ok s =>
    match options.watch, s.view with
    | true, some view =>
      let (monitor, w) := w.arm view.sources
      let w ← settle options.verbosity w.tree (w.tell [.waiting])
      keepWatching input output w s monitor
    | _, _ => return 0

/-- How the program is called. -/
def usage : String :=
  "usage: lineview INPUT OUTPUT --inputFile FILE [--execute INDEX] [--watch] [-v] [-V] [-h]"

/-- Do what the options ask for, in the two directories if they are given. -/
def answer (directories : Option (String × String)) (arguments : List String) : IO UInt32 := do
  match Options.parse arguments, directories with
  | .help, _ => IO.println usage; return 0
  | .version, _ => IO.println Session.versionText; return 0
  | .refused why, _ => IO.eprintln (Session.refusalText why); return 2
  | .run _, none => IO.eprintln usage; return 2
  | .run options, some (input, output) =>
    match ← settings with
    | .error why =>
      why.forM fun refused => IO.eprintln refused.text
      return 1
    | .ok settings => run options settings (← placeOfArgument input) (← placeOfArgument output)

end Menu.CommandLine

/-- The program: two directories, and options. -/
def main (arguments : List String) : IO UInt32 :=
  match arguments with
  | input :: output :: options =>
    if input.startsWith "-" || output.startsWith "-" then Menu.CommandLine.answer none arguments
    else Menu.CommandLine.answer (some (input, output)) options
  | _ => Menu.CommandLine.answer none arguments
