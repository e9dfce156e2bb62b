import Menu.Tree.Canonical

/-!
# Changes to a tree

Writing, touching, linking, making directories and deleting, with the refusals that the system has for
each.  A file is written through the links that lead to it, and created if its directory is there; a
link, a directory to make and an entry to delete are taken under their own name.

A change is the time of what it writes, and also of the directory that an entry comes into or leaves.
Touching sets a time instead.

One request to the system is met or refused as a whole.  An attempt is several of them in turn, and keeps
what was done before one was refused.
-/

namespace Menu

/-- A change that was not made. -/
inductive Unchanged
  /-- A path, a target or a text to write has a flaw. -/
  | flawed (why : Flaw)
  /-- The time to set is no time of the system. -/
  | noTime
  | fault (why : Fault)
deriving DecidableEq, Repr

/-- The reason for which a change was not made, in words. -/
def Unchanged.text : Unchanged → String
  | flawed why => why.text
  | noTime => "timestamp out of range for platform time_t"
  | fault why => why.text

/-- What came of several changes in turn: whether all were made, and the tree after those that were. -/
abbrev Attempt := Except Unchanged Unit × Tree

/-- One more change, if those before it were made. -/
def Attempt.andThen (done : Attempt) (change : Tree → Except Unchanged Tree) : Attempt :=
  match done with
  | (.error why, t) => (.error why, t)
  | (.ok (), t) =>
    match change t with
    | .ok changed => (.ok (), changed)
    | .error why => (.error why, t)

namespace Tree

/-- A single change, as an attempt. -/
def attempt (t : Tree) (change : Tree → Except Unchanged Tree) : Attempt :=
  Attempt.andThen (.ok (), t) change

/-- A path that does not get as far as the system. -/
def flawed (t : Tree) (path : Path) : Unchanged :=
  .flawed (t.flaw path.text path.names)

/-- The tree with an entry at a place, in the stead of what was there. -/
def put (t : Tree) (place : Place) (node : Node) : Tree :=
  { t with entries := (place, node) :: t.entries.filter fun e => e.1 != place }

/-- The tree without the entry at a place and all that lies below it. -/
def prune (t : Tree) (place : Place) : Tree :=
  { t with entries := t.entries.filter fun e => !place.isPrefixOf e.1 }

/-- The tree after one more change. -/
def count (t : Tree) : Tree :=
  { t with changes := t.changes + 1 }

/-- The time of the last change. -/
def now (t : Tree) : Stamp :=
  .change t.changes

/-- The tree in which the directory at a place has the time of the last change. -/
def markDirectory (t : Tree) (place : Place) : Tree :=
  if t.isDirectoryAt place then t.put place (.directory t.now) else t

/-- The tree with a new entry at a place, made by the last change. -/
def create (t : Tree) (place : Place) (node : Node) : Tree :=
  (t.markDirectory place.dropLast).put place node

/-- What the system finds under a path, or the refusal of the path. -/
def reach (t : Tree) (last : LastLink) (path : Path) : Except Unchanged Found :=
  if !t.takesPath path then .error (t.flawed path)
  else (t.lookUp last path).mapError fun why => .fault (.refused why path)

/-- Whether the system finds a file under a path.  What is too long is refused. -/
def isFile (t : Tree) (path : Path) : Except Fault Bool :=
  if !t.takesPath path then .ok false
  else match t.status path with
    | .ok (_, .file _ _) => .ok true
    | .error .nameTooLong => .error (.refused .nameTooLong path)
    | _ => .ok false

/-- Whether the system finds a directory under a path.  What is too long is refused. -/
def isDirectory (t : Tree) (path : Path) : Except Fault Bool :=
  if !t.takesPath path then .ok false
  else match t.status path with
    | .ok (_, .directory _) => .ok true
    | .error .nameTooLong => .error (.refused .nameTooLong path)
    | _ => .ok false

/-- The time of the last change of what is under a path, if there is anything. -/
def stamp? (t : Tree) (path : Path) : Option Stamp :=
  match t.status path with
  | .ok (_, .file _ stamp) => some stamp
  | .ok (_, .directory stamp) => some stamp
  | _ => none

/-- The bytes of the file under a path. -/
def read (t : Tree) (path : Path) : Except Fault (List UInt8) :=
  match t.status path with
  | .ok (_, .file content _) => .ok content
  | .ok _ => .error (.refused .isDirectory path)
  | .error why => .error (.refused why path)

/-- Write a file. -/
def write (t : Tree) (path : Path) (content : List UInt8) : Except Unchanged Tree := do
  let found ← t.reach .create path
  let t := t.count
  match found.node? with
  | some (.directory _) => .error (.fault (.refused .isDirectory path))
  | some _ => .ok (t.put found.place (.file content t.now))
  | none => .ok (t.create found.place (.file content t.now))

/-- Write a text in UTF-8.  A text that has no bytes leaves an empty file. -/
def writeText (t : Tree) (path : Path) (text : String) : Attempt :=
  let none : Nat → Bool := fun _ => false
  if text.toList.any (Text.lacks t.surrogate? none) then
    (t.attempt (·.write path [])).andThen fun _ =>
      .error (.flawed (.lacking (Text.lackIn t.surrogate? none text.toList)))
  else t.attempt (·.write path text.toUTF8.data.toList)

/-- What it takes for a text to be written: it has bytes, and they are written. -/
theorem writeText_ok_iff {t t' : Tree} {path : Path} {text : String} :
    t.writeText path text = (.ok (), t') ↔
      text.toList.any (Text.lacks t.surrogate? fun _ => false) = false ∧
        t.write path text.toUTF8.data.toList = .ok t' := by
  unfold writeText attempt Attempt.andThen
  by_cases lacking : text.toList.any (Text.lacks t.surrogate? fun _ => false) = true
  · rw [if_pos lacking, lacking]
    dsimp only
    cases t.write path [] <;> simp
  · rw [if_neg lacking, Bool.eq_false_iff.2 lacking]
    dsimp only
    cases t.write path text.toUTF8.data.toList <;> simp

/-- Whether the system can set a time in nanoseconds: its full seconds are a signed number of 64 bits. -/
def isTime (time : Int) : Bool :=
  let seconds := Int.fdiv time 1000000000
  seconds < 0x8000000000000000 && -0x8000000000000000 ≤ seconds

/-- Set the time of the last change of what is under a path.  The refusals do not name the path. -/
def touch (t : Tree) (path : Path) (time : Int) : Except Unchanged Tree :=
  if !t.takesPath path then .error (t.flawed path)
  else if !isTime time then .error .noTime
  else match t.status path with
    | .ok (place, .file content _) => .ok (t.put place (.file content (.set time)))
    | .ok (place, _) => .ok (t.put place (.directory (.set time)))
    | .error why => .error (.fault (.bare why))

/-- Whether the text of a target can be the target of a link. -/
def checkTarget (target : String) : Except Refusal Unit :=
  if target = "" then .error .notFound
  else if maxPathBytes < target.utf8ByteSize then .error .nameTooLong
  else .ok ()

/-- Make a link to `target`. -/
def makeLink (t : Tree) (path : Path) (target : String) : Except Unchanged Tree :=
  if !t.takes target then .error (.flawed (t.flaw target [target]))
  else if !t.takesPath path then .error (t.flawed path)
  else match checkTarget target, t.lookUp .keep path with
    | .error why, _ => .error (.fault (.refusedLink why target path))
    | _, .error why => .error (.fault (.refusedLink why target path))
    | _, .ok ⟨_, some _⟩ => .error (.fault (.refusedLink .taken target path))
    | _, .ok ⟨place, none⟩ => .ok (t.count.create place (.link target))

/-- Make one directory. -/
def makeDirectory (t : Tree) (path : Path) : Except Unchanged Tree := do
  let found ← t.reach .keep path
  let t := t.count
  match found.node? with
  | some _ => .error (.fault (.refused .taken path))
  | none => .ok (t.create found.place (.directory t.now))

/-- No harm is done if there is a directory under the path already; otherwise the reason for which none was
made stands. -/
def orDirectory (t : Tree) (path : Path) (why : Unchanged) : Except Unchanged Unit :=
  match t.isDirectory path with
  | .ok true => .ok ()
  | .ok false => .error why
  | .error fault => .error (.fault fault)

/-- Make a directory and those above it that are missing; one that is there already is kept. -/
def makeDirectories (t : Tree) (path : Path) : Attempt :=
  match t.makeDirectory path with
  | .ok t => (.ok (), t)
  | .error (.fault (.refused .notFound p)) =>
    if _h : path.names = [] then (.error (.fault (.refused .notFound p)), t)
    else match t.makeDirectories path.parent with
      | (.error why, above) => (.error why, above)
      | (.ok (), above) =>
        match above.makeDirectory path with
        | .ok made => (.ok (), made)
        | .error why => (above.orDirectory path why, above)
  | .error why => (t.orDirectory path why, t)
termination_by path.names.length
decreasing_by
  simp only [Path.parent, List.length_dropLast]
  have := List.length_pos_iff.2 _h
  omega

/-- Delete a file, a link, or a directory and all that is in it. -/
def delete (t : Tree) (path : Path) : Except Unchanged Tree := do
  let found ← t.reach .keep path
  match found.node? with
  | some _ => .ok ((t.count.prune found.place).markDirectory found.place.dropLast)
  | none => .error (.fault (.refused .notFound path))

end Tree

/-- A change that someone else makes to the files. -/
inductive Edit
  /-- Write a file and set its time. -/
  | write (path : Path) (content : List UInt8) (time : Int)
  | delete (path : Path)
  | makeDirectory (path : Path)
  | link (path : Path) (target : String)
  | touch (path : Path) (time : Int)

/-- Make a change; the directories above what is written or linked are made first. -/
def Edit.apply (t : Tree) : Edit → Attempt
  | .write path content time =>
    ((t.makeDirectories path.parent).andThen (·.write path content)).andThen (·.touch path time)
  | .delete path => t.attempt (·.delete path)
  | .makeDirectory path => t.makeDirectories path
  | .link path target => (t.makeDirectories path.parent).andThen (·.makeLink path target)
  | .touch path time => t.attempt (·.touch path time)

/-- Make changes in turn; the first one that is not made is the last. -/
def Edit.applyAll (t : Tree) : List Edit → Attempt
  | [] => (.ok (), t)
  | edit :: rest =>
    match edit.apply t with
    | (.ok (), t) => applyAll t rest
    | (.error why, t) => (.error why, t)

end Menu
