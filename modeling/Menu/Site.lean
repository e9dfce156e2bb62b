import Menu.Directive.Reader
import Menu.Text.Encoding
import Menu.Tree.Edit

/-!
# Where documents are found

A site is all that a build takes from outside: the tree in which paths are resolved, the home directory if
there is one, the way in which a canonical path is opened, and the markers of the documents.

The target of an inclusion is a path seen from the directory of the file it stands in.  `~/` at its start is
the home directory, and `~/~/` stands for a plain `~/`.
-/

namespace Menu

/-- A file that was not opened. -/
inductive OpenFailure
  | fault (why : Fault)
  /-- The files are said to be in an encoding that there is not. -/
  | unknownEncoding (name : String)
  /-- The name of the encoding holds the character NUL. -/
  | nulInEncoding
deriving DecidableEq, Repr

/-- What a build takes from outside. -/
structure Site where
  tree : Tree
  home? : Option Spelling
  markers : Markers
  openFile : Path → Except OpenFailure Stream

/-- Open the files of a tree as texts in the encoding of a name. -/
def openIn (tree : Tree) (encoding : String) (path : Path) : Except OpenFailure Stream :=
  if '\x00' ∈ encoding.toList then .error .nulInEncoding
  else match tree.read path with
  | .error why => .error (.fault why)
  | .ok content =>
    match Text.Encoding.ofName? encoding with
    | none => .error (.unknownEncoding encoding)
    | some e => .ok (.ofText (Text.unifyBreaks (e.decode content)))

/-- What is wrong with the target of an inclusion. -/
inductive BadTarget
  | noHome
  | notFound (target : Path)
  | refused (target : Path) (why : Refusal) (path : Path)
  | endless (target link : Path)
  | notOpened (file : Path) (why : Fault)
deriving DecidableEq, Repr

/-- What is wrong with a target, in words. -/
def BadTarget.text : BadTarget → String
  | noHome => "could not find user home"
  | notFound target => "could not find " ++ target.text
  | refused target why path => Fault.notCanonicalText target (Fault.refused why path).text
  | endless target link => Fault.notCanonicalText target (Fault.loopText link)
  | notOpened file why => "could not open " ++ file.text ++ ", " ++ why.text

/-- Why a build stops before its end. -/
inductive Abort
  /-- A path does not get as far as the system. -/
  | flawed (why : Flaw)
  | unknownEncoding (name : String)
  /-- The name of the encoding holds the character NUL. -/
  | nulInEncoding
  /-- The document itself has no canonical path, or was not opened or read. -/
  | fault (why : Fault)
  /-- A closed stream was read. -/
  | closedStream
deriving DecidableEq, Repr

/-- The reason for which a build stops, in words. -/
def Abort.text : Abort → String
  | flawed why => why.text
  | unknownEncoding name => "unknown encoding: " ++ name
  | nulInEncoding => "embedded null character"
  | fault why => why.text
  | closedStream => "I/O operation on closed file"

/-- Why a target is not taken: it is bad, or the build stops. -/
inductive Obstacle
  | bad (why : BadTarget)
  | stop (why : Abort)
deriving DecidableEq, Repr

/-- The rest of a text after `~/`. -/
def afterTilde? (cs : List Char) : Option (List Char) :=
  match cs with
  | '~' :: '/' :: rest => some rest
  | _ => none

namespace Site

/-- The path that the text of a target stands for; none if there is no home directory to start from. -/
def expand? (s : Site) (target : String) : Option Path :=
  match afterTilde? target.toList with
  | none => some (Path.ofText target)
  | some rest =>
    match afterTilde? rest with
    | some _ => some (Path.ofText (String.ofList rest))
    | none => s.home?.map (·.toPath.join (Path.ofText (String.ofList rest)))

/-- The canonical path of a target that is seen from a directory. -/
def resolve (s : Site) (target : String) (directory : Path) : Except Obstacle Path :=
  match s.expand? target with
  | none => .error (.bad .noHome)
  | some path =>
    match s.tree.canonical (directory.join path) with
    | .ok file => .ok file
    | .error (.flawed why) => .error (.stop (.flawed why))
    | .error (.refused .notFound _) => .error (.bad (.notFound path))
    | .error (.refused why where_) => .error (.bad (.refused path why where_))
    | .error (.loop link) => .error (.bad (.endless path link))

/-- What it takes for a target to have a canonical path. -/
theorem resolve_ok_iff {s : Site} {target : String} {directory file : Path} :
    s.resolve target directory = .ok file ↔
      ∃ path, s.expand? target = some path ∧ s.tree.canonical (directory.join path) = .ok file := by
  unfold resolve
  cases s.expand? target with
  | none => simp
  | some path =>
    simp only [Option.some.injEq, exists_eq_left']
    split <;> simp_all

/-- The targets of inclusions are found among finitely many files. -/
theorem mem_files_of_resolve (s : Site) {target : String} {directory file : Path}
    (h : s.resolve target directory = .ok file) : file ∈ s.tree.files := by
  obtain ⟨_, -, canonical⟩ := resolve_ok_iff.1 h
  exact Tree.mem_files_of_canonical canonical

/-- Open the file at a canonical path for an inclusion. -/
def openTarget (s : Site) (file : Path) : Except Obstacle Stream :=
  match s.openFile file with
  | .ok stream => .ok stream
  | .error (.fault why) => .error (.bad (.notOpened file why))
  | .error (.unknownEncoding name) => .error (.stop (.unknownEncoding name))
  | .error .nulInEncoding => .error (.stop .nulInEncoding)

/-- The canonical path of a document and its open stream. -/
def openDocument (s : Site) (path : Path) : Except Abort (Path × Stream) :=
  match s.tree.canonical path with
  | .error (.flawed why) => .error (.flawed why)
  | .error (.refused why p) => .error (.fault (.refused why p))
  | .error (.loop link) => .error (.fault (.endless path link))
  | .ok file =>
    match s.openFile file with
    | .ok stream => .ok (file, stream)
    | .error (.fault why) => .error (.fault why)
    | .error (.unknownEncoding name) => .error (.unknownEncoding name)
    | .error .nulInEncoding => .error .nulInEncoding

/-- What it takes for a document to be opened. -/
theorem openDocument_ok_iff {s : Site} {path root : Path} {stream : Stream} :
    s.openDocument path = .ok (root, stream) ↔
      s.tree.canonical path = .ok root ∧ s.openFile root = .ok stream := by
  constructor
  · intro h
    unfold openDocument at h
    split at h
    · cases h
    · cases h
    · cases h
    · rename_i canonical
      split at h <;> cases h
      exact ⟨canonical, ‹_›⟩
  · rintro ⟨canonical, opened⟩
    simp only [openDocument, canonical, opened]

end Site

end Menu
