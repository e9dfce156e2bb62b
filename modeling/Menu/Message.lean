import Menu.Path

/-!
# Messages

What a build and a run tell about themselves, as data.  A message has a level, and is shown to those who
asked for at least as much: 1 for the course of a run, 2 for what happens to each file, 3 for each step of
a build.  `Message.text` puts a message into words.
-/

namespace Menu

/-- Something worth telling. -/
inductive Message
  /-- A build of a document starts. -/
  | building (document : Path)
  | built (entries files : Nat)
  /-- A warning is shown. -/
  | warned (source : Path) (position : Int) (text : String)
  /-- A file is opened on top of the others. -/
  | pushed (source : Path) (depth : Nat)
  /-- A file is left. -/
  | popped (source : Path) (depth : Nat)
  | titleIgnored (source : Path) (position : Int)
  | inclusionFailed (source : Path) (position : Int) (reason : String)
  | alreadyImported (file : Path)
  | alreadySourced (file : Path)
  | debug (position : Int) (depth : Nat) (description : String)
  | watching (files : Nat)
  | changed (file : Path)
  | spawning (args : List String)
  | banner
  | checking
  | inputFile (path : Path)
  | outputFile (path : Path)
  | reading
  | finishedReading (entries files : Nat)
  | wrote (path : Path)
  | noCommand (index : Int)
  | title (text : String)
  | entryCount (count : Nat)
  | output (path : Path)
  | executed (args : List String)
  | waiting
  | stopped
deriving DecidableEq, Repr

namespace Message

/-- The name of the program in large letters. -/
def bannerText : String :=
  "\n  _ _\n" ++
  " | (_)_ __   _____   _(_) _____      __\n" ++
  " | | | '_ \\ / _ \\ \\ / / |/ _ \\ \\ /\\ / /\n" ++
  " | | | | | |  __/\\ V /| |  __/\\ V  V /\n" ++
  " |_|_|_| |_|\\___| \\_/ |_|\\___| \\_/\\_/\n\n" ++
  "  Menu document interpreter\n"

/-- How much one must ask for to be shown a message. -/
def level : Message → Int
  | building _ => 2
  | built _ _ => 2
  | warned _ _ _ => 2
  | pushed _ _ => 3
  | popped _ _ => 3
  | titleIgnored _ _ => 3
  | inclusionFailed _ _ _ => 2
  | alreadyImported _ => 3
  | alreadySourced _ => 3
  | debug _ _ _ => 1
  | watching _ => 2
  | changed _ => 2
  | spawning _ => 2
  | banner => 2
  | checking => 2
  | inputFile _ => 2
  | outputFile _ => 2
  | reading => 1
  | finishedReading _ _ => 2
  | wrote _ => 2
  | noCommand _ => 1
  | title _ => 1
  | entryCount _ => 1
  | output _ => 1
  | executed _ => 1
  | waiting => 1
  | stopped => 1

/-- A file, a line number and words about it. -/
def located (source : Path) (position : Int) (words : String) : String :=
  source.text ++ ":" ++ toString position ++ ": " ++ words

/-- A number of lines and of files. -/
def counts (entries files : Nat) : String :=
  toString entries ++ " lines from " ++ toString files ++ " files"

/-- A step onto a file or off it, and the number of files that are open then. -/
def stepped (word : String) (source : Path) (depth : Nat) : String :=
  word ++ " " ++ source.text ++ " (depth " ++ toString depth ++ ")"

/-- A message in words. -/
def text : Message → String
  | building document => "Reading " ++ document.text
  | built entries files => "Built " ++ counts entries files
  | warned source position text => located source position text
  | pushed source depth => stepped "push" source depth
  | popped source depth => stepped "pop" source depth
  | titleIgnored source position => located source position "title ignored outside the root lineage"
  | inclusionFailed source position reason => located source position reason
  | alreadyImported file => "skip import " ++ file.text ++ ": already imported"
  | alreadySourced file => "skip source " ++ file.text ++ ": already sourced in this lineage"
  | debug position depth description =>
    "debug @ " ++ toString position ++ " (depth " ++ toString depth ++ "): " ++ description
  | watching files => "Watching " ++ toString files ++ " files"
  | changed file => "Change detected in " ++ file.text
  | spawning args => "Spawning " ++ " ".intercalate args
  | banner => bannerText
  | checking => "Checking environment..."
  | inputFile path => "Input file: " ++ path.text
  | outputFile path => "Output file: " ++ path.text
  | reading => "Reading menu document..."
  | finishedReading entries files => "Read " ++ counts entries files
  | wrote path => "Wrote " ++ path.text
  | noCommand index => "Line " ++ toString index ++ " has no command"
  | title text => "✓ " ++ text
  | entryCount count => "  Lines: " ++ toString count
  | output path => "  Output: " ++ path.text
  | executed args => "  Executed: " ++ " ".intercalate args
  | waiting => "Watching for changes (Ctrl-C to stop)..."
  | stopped => "Stopped watching"

/-- The messages that one is shown who asked for `verbosity`, in words. -/
def shown (verbosity : Int) (messages : List Message) : List String :=
  (messages.filter fun m => m.level ≤ verbosity).map text

end Message

end Menu
