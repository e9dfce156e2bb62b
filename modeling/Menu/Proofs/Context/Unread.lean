import Menu.Proofs.Context.Reactions
import Menu.Proofs.Tree.Contents

/-!
# What stands behind the end of a file

A line can end its file.  What stands behind it is not read, since the end of a file passes all blocks: two streams
are *alike* if they are the same up to such a line (`Stream.Alike`), and a file that is read from one of them
comes to the same as if it were read from the other.

* `Stream.alike_cutOff`: a stream is like itself cut off behind the first line that ends it.
* `Context.Alike.read`: like files give the same, and are alike afterwards unless that was the end of them.
* `Context.react_alike`: each directive comes to the same in like files.
-/

namespace Menu

/-! ## Streams -/

/-- Whether a directive is the end of its file. -/
def Directive.isClose : Directive → Bool
  | .close => true
  | _ => false

theorem Directive.isClose_iff {d : Directive} : d.isClose = true ↔ d = .close := by
  cases d <;> simp [isClose]

/-- A list up to the first member of a kind, with it. -/
def upThrough {α : Type} (p : α → Bool) : List α → List α
  | [] => []
  | a :: rest => if p a then [a] else a :: upThrough p rest

/-- A list without a member of the kind stays as it is. -/
theorem upThrough_cases {α : Type} (p : α → Bool) (xs : List α) :
    (xs.any p = false ∧ upThrough p xs = xs) ∨
      xs.any p = true ∧ ∃ before a rest, xs = before ++ a :: rest ∧ p a = true ∧ upThrough p xs = before ++ [a] := by
  induction xs with
  | nil => exact .inl ⟨rfl, rfl⟩
  | cons a rest ih =>
    rw [upThrough, List.any_cons]
    cases here : p a with
    | true => exact .inr ⟨rfl, [], a, rest, rfl, here, rfl⟩
    | false =>
      rcases ih with ⟨none, same⟩ | ⟨some, before, b, behind, whole, found, cut⟩
      · exact .inl ⟨by simpa using none, by simp [same]⟩
      · exact .inr ⟨by simpa using some, a :: before, b, behind, by rw [whole]; rfl, found, by simp [cut]⟩

/-- Whether a read gives a line that ends the file. -/
def Markers.ends (m : Markers) : Except Fault String → Bool
  | .ok line => (m.parse line).isClose
  | .error _ => false

namespace Stream

variable {m : Markers} {s s' : Stream}

/-- A stream whose file is cut off right behind the first line that ends it, if there is one. -/
def cutOff (m : Markers) (s : Stream) : Stream :=
  if s.reads.any m.ends then { s with reads := upThrough m.ends s.reads, broken := none } else s

/-- Streams that are the same up to a line that ends the file. -/
inductive Alike (m : Markers) : Stream → Stream → Prop
  | same (s : Stream) : Alike m s s
  | ended (before : List (Except Fault String)) (line : String) (rest rest' : List (Except Fault String))
    (broken broken' : Option Fault) :
    m.parse line = .close → Alike m ⟨before ++ .ok line :: rest, broken⟩ ⟨before ++ .ok line :: rest', broken'⟩

theorem alike_cutOff (m : Markers) (s : Stream) : s.Alike m (s.cutOff m) := by
  obtain ⟨reads, broken⟩ := s
  rcases upThrough_cases m.ends reads with ⟨none, -⟩ | ⟨some, before, item, rest, whole, found, cut⟩
  · rw [cutOff, if_neg (by simp [none])]
    exact .same _
  · cases item with
    | error why => cases found
    | ok line =>
      rw [cutOff, if_pos some]
      dsimp only
      rw [cut, whole]
      exact .ended before line rest [] broken .none (Directive.isClose_iff.1 found)

/-- Like streams give the same, and are alike afterwards unless that ends the file. -/
theorem Alike.next (alike : s.Alike m s') :
    s'.next.1 = s.next.1 ∧
      (s.next.2.Alike m s'.next.2 ∨ ∃ line, s.next.1 = .ok (some line) ∧ m.parse line = .close) := by
  cases alike with
  | same => exact ⟨rfl, .inl (.same _)⟩
  | ended before line rest rest' broken broken' ends =>
    cases before with
    | nil => exact ⟨rfl, .inr ⟨line, rfl, ends⟩⟩
    | cons item before =>
      cases item with
      | error why => exact ⟨rfl, .inl (.ended before line rest rest' broken broken' ends)⟩
      | ok first => exact ⟨rfl, .inl (.ended before line rest rest' broken broken' ends)⟩

end Stream

/-! ## Readers -/

namespace Reader

variable {m : Markers} {r r' : Reader}

/-- The same place in a document, but for what stands behind a line that ends it. -/
def Alike (m : Markers) (r r' : Reader) : Prop :=
  ∃ stream, r.stream.Alike m stream ∧ r' = { r with stream }

/-- Like readers give the same, and are alike afterwards unless that was the end of the file. -/
theorem Alike.read (alike : r.Alike m r') :
    (r'.read m).1 = (r.read m).1 ∧
      (∃ stream, (r'.read m).2 = { (r.read m).2 with stream }) ∧
      ((r.read m).2.Alike m (r'.read m).2 ∨ ∃ position, (r.read m).1 = .ok (position, .close)) := by
  obtain ⟨stream, alike, rfl⟩ := alike
  obtain ⟨own, position, pending, atEnd, closed⟩ := r
  rcases pending with - | ⟨item, rest⟩
  · cases atEnd with
    | true => exact ⟨rfl, ⟨stream, rfl⟩, .inl ⟨stream, alike, rfl⟩⟩
    | false =>
      cases closed with
      | true => exact ⟨rfl, ⟨stream, rfl⟩, .inl ⟨stream, alike, rfl⟩⟩
      | false =>
        obtain ⟨same, after⟩ := alike.next
        dsimp only at same after
        simp only [Reader.read, Bool.false_eq_true, if_false]
        generalize own.next = answer at same after
        generalize stream.next = answer' at same after
        obtain ⟨item, own⟩ := answer
        obtain ⟨_, stream⟩ := answer'
        cases same
        rcases after with alike | ⟨line, given, ends⟩
        · match item with
          | .error why => exact ⟨rfl, ⟨stream, rfl⟩, .inl ⟨stream, alike, rfl⟩⟩
          | .ok none => exact ⟨rfl, ⟨stream, rfl⟩, .inl ⟨stream, alike, rfl⟩⟩
          | .ok (some line) => exact ⟨rfl, ⟨stream, rfl⟩, .inl ⟨stream, alike, rfl⟩⟩
        · cases given
          exact ⟨rfl, ⟨stream, rfl⟩, .inr ⟨position + 1, congrArg (fun d => Except.ok (position + 1, d)) ends⟩⟩
  · exact ⟨rfl, ⟨stream, rfl⟩, .inl ⟨stream, alike, rfl⟩⟩

end Reader

/-! ## Files -/

namespace Context

variable {m : Markers} {c c' : Context}

/-- A file that is read on from another stream. -/
def readFrom (c : Context) (stream : Stream) : Context :=
  { c with reader := { c.reader with stream } }

/-- The same file, but for what stands behind a line that ends it. -/
def Alike (m : Markers) (c c' : Context) : Prop :=
  ∃ stream, c.reader.stream.Alike m stream ∧ c' = c.readFrom stream

/-- What is read in like files, and the files afterwards. -/
theorem Alike.read (alike : c.Alike m c') :
    (c'.reader.read m).1 = (c.reader.read m).1 ∧
      ∃ stream, c'.readOn m = (c.readOn m).readFrom stream ∧
        ((c.readOn m).reader.stream.Alike m stream ∨ ∃ position, (c.reader.read m).1 = .ok (position, .close)) := by
  obtain ⟨stream, alike, rfl⟩ := alike
  have readers : c.reader.Alike m (c.readFrom stream).reader := ⟨stream, alike, rfl⟩
  obtain ⟨same, ⟨stream', after⟩, still⟩ := readers.read
  refine ⟨same, stream', ?_, ?_⟩
  · unfold readOn
    rw [after]
    rfl
  · refine still.imp_left fun ⟨_, alike, e⟩ => ?_
    rw [after] at e
    cases congrArg Reader.stream e
    exact alike

end Context

/-! ## Sites -/

/-- Sites whose files are the same, but for what stands behind a line that ends one. -/
structure Site.Alike (site site' : Site) : Prop where
  home : site'.home? = site.home?
  markers : site'.markers = site.markers
  canonical : ∀ path, site'.tree.canonical path = site.tree.canonical path
  openFile : ∀ path, Agree (Stream.Alike site.markers) (site.openFile path) (site'.openFile path)

namespace Site.Alike

variable {site site' : Site}

theorem resolve (alike : site.Alike site') (target : String) (directory : Path) :
    site'.resolve target directory = site.resolve target directory := by
  simp only [Site.resolve, Site.expand?, alike.home, alike.canonical]

theorem openTarget (alike : site.Alike site') (file : Path) :
    Agree (Stream.Alike site.markers) (site.openTarget file) (site'.openTarget file) := by
  have opened := alike.openFile file
  unfold Site.openTarget
  generalize site.openFile file = answer at opened
  generalize site'.openFile file = answer' at opened
  cases opened with
  | ok alike => exact .ok alike
  | error why => cases why <;> exact .error _

theorem openDocument (alike : site.Alike site') (path : Path) :
    Agree (fun document document' => document'.1 = document.1 ∧ document.2.Alike site.markers document'.2)
      (site.openDocument path) (site'.openDocument path) := by
  unfold Site.openDocument
  rw [alike.canonical]
  cases site.tree.canonical path with
  | error why => cases why <;> exact .error _
  | ok file =>
    have opened := alike.openFile file
    dsimp only
    generalize site.openFile file = answer at opened
    generalize site'.openFile file = answer' at opened
    cases opened with
    | ok alike => exact .ok ⟨rfl, alike⟩
    | error why => cases why <;> exact .error _

end Site.Alike

/-! ## Reactions -/

/-- The same becomes of the open files, but for what stands behind a line that ends one. -/
inductive Move.Alike (m : Markers) : Move → Move → Prop
  | stay : Alike m .stay .stay
  | leave : Alike m .leave .leave
  | enter {child child' : Context} : child.Alike m child' → Alike m (.enter child) (.enter child')

/-- The same reaction; of a file that is left nothing counts any more. -/
structure Reaction.Alike (m : Markers) (r r' : Reaction) : Prop where
  context : r.move = .leave ∨ r.context.Alike m r'.context
  shared : r'.shared = r.shared
  move : r.move.Alike m r'.move
  events : r'.events = r.events

namespace Context

variable {site site' : Site} {depth : Nat} {shared : Shared} {c : Context} {position : Int} {d : Directive}
  {stream : Stream}

theorem child_alike {m : Markers} {opened opened' : Stream} (alike : opened.Alike m opened') (c : Context)
    (stream : Stream) (shared : Shared) (how : Inclusion) (file : Path) :
    (c.child shared how file opened).1.Alike m ((c.readFrom stream).child shared how file opened').1 ∧
      ((c.readFrom stream).child shared how file opened').2 = (c.child shared how file opened).2 := by
  cases how <;> exact ⟨⟨opened', alike, rfl⟩, rfl⟩

theorem includeFile_alike (sites : site.Alike site') (alike : c.reader.stream.Alike site.markers stream)
    (how : Inclusion) (target : String) :
    Agree (Reaction.Alike site.markers) (c.includeFile site depth shared position how target)
      ((c.readFrom stream).includeFile site' depth shared position how target) := by
  have resolved : site'.resolve target (c.readFrom stream).directory = site.resolve target c.directory :=
    sites.resolve target c.directory
  have taken : ∀ file, shared.alreadyTaken (c.readFrom stream).lineage how file =
    shared.alreadyTaken c.lineage how file := fun _ => rfl
  unfold includeFile
  rw [resolved]
  cases site.resolve target c.directory with
  | error obstacle =>
    cases obstacle with
    | stop why => exact .error why
    | bad why => exact .ok ⟨.inr ⟨stream, alike, rfl⟩, rfl, .stay, rfl⟩
  | ok file =>
    dsimp only
    rw [taken]
    split
    · exact .ok ⟨.inr ⟨stream, alike, rfl⟩, rfl, .stay, rfl⟩
    · have opened := sites.openTarget file
      generalize site.openTarget file = answer at opened
      generalize site'.openTarget file = answer' at opened
      cases opened with
      | error obstacle =>
        cases obstacle with
        | stop why => exact .error why
        | bad why => exact .ok ⟨.inr ⟨stream, alike, rfl⟩, rfl, .stay, rfl⟩
      | ok opened =>
        obtain ⟨child, after⟩ := child_alike opened c stream shared how file
        exact .ok ⟨.inr ⟨stream, alike, rfl⟩, after, .enter child, rfl⟩

theorem endBlock_alike {m : Markers} (alike : c.reader.stream.Alike m stream) (shared : Shared) (position : Int)
    (automatic : Bool) :
    (c.endBlock shared position automatic).Alike m ((c.readFrom stream).endBlock shared position automatic) := by
  have same : (c.readFrom stream).scopes = c.scopes := rfl
  simp only [endBlock, same]
  repeat' split
  all_goals exact ⟨.inr ⟨stream, alike, rfl⟩, rfl, .stay, rfl⟩

theorem resolveWatch_alike {m : Markers} (alike : c.reader.stream.Alike m stream) (shared : Shared) (position : Int)
    (rule : List String → Rule) (complaint : String) :
    (c.resolveWatch shared position rule complaint).Alike m
      ((c.readFrom stream).resolveWatch shared position rule complaint) := by
  have same : (c.readFrom stream).watch.stop? = c.watch.stop? := rfl
  simp only [resolveWatch, same]
  split <;> exact ⟨.inr ⟨stream, alike, rfl⟩, rfl, .stay, rfl⟩

/-- The end of a file comes to the same whatever its stream would still give. -/
theorem close_alike (c : Context) (stream : Stream) (shared : Shared) (position : Int) :
    Agree (Reaction.Alike site.markers) (c.react site depth shared position .close)
      ((c.readFrom stream).react site' depth shared position .close) :=
  .ok ⟨.inl rfl, rfl, .leave, rfl⟩

/-- Each directive comes to the same in like files. -/
theorem react_alike (sites : site.Alike site') (alike : c.reader.stream.Alike site.markers stream)
    (depth : Nat) (shared : Shared) (position : Int) (d : Directive) :
    Agree (Reaction.Alike site.markers) (c.react site depth shared position d)
      ((c.readFrom stream).react site' depth shared position d) := by
  cases d with
  | inclusion how target => exact includeFile_alike sites alike how target
  | endBlock automatic => exact .ok (endBlock_alike alike shared position automatic)
  | thenBlock => exact .ok (resolveWatch_alike alike shared position _ _)
  | elseBlock => exact .ok (resolveWatch_alike alike shared position _ _)
  | close => exact close_alike c stream shared position
  | title text =>
    have same : (c.readFrom stream).isRoot = c.isRoot := rfl
    rw [react, react, same]
    split <;> exact .ok ⟨.inr ⟨stream, alike, rfl⟩, rfl, .stay, rfl⟩
  | warning text =>
    have same : (c.readFrom stream).watch.running = c.watch.running := rfl
    rw [react, react, same]
    split <;> exact .ok ⟨.inr ⟨stream, alike, rfl⟩, rfl, .stay, rfl⟩
  | watch =>
    have same : (c.readFrom stream).watch.start? = c.watch.start? := rfl
    rw [react, react, same]
    split <;> exact .ok ⟨.inr ⟨stream, alike, rfl⟩, rfl, .stay, rfl⟩
  | _ => exact .ok ⟨.inr ⟨stream, alike, rfl⟩, rfl, .stay, rfl⟩

end Context

end Menu
