import Menu.Directive.Line
import Menu.Fault

/-!
# Reading directives

A stream gives the lines of one open file, one read at a time.  A read may fail, and after the last line
every read finds the end of the file, or the same fault again.

A reader turns the lines of a stream into directives, each with a position: the number of lines taken so
far.  Directives that are pushed back come first, in the order given and at the position given, and the
end of the file, once seen, is read again and again.  A reader whose stream was closed still gives these,
but no line.
-/

namespace Menu

/-- A read that gave nothing. -/
inductive ReadFailure
  /-- The stream was closed. -/
  | closed
  | fault (why : Fault)
deriving DecidableEq, Repr

/-- The lines of an open file that are still to be read. -/
structure Stream where
  /-- What the next reads answer, one after the other: a line, or a fault. -/
  reads : List (Except Fault String)
  /-- The fault of every read after those; none if the file ends there. -/
  broken : Option Fault := none

namespace Stream

/-- The stream that gives these lines and ends. -/
def ofLines (lines : List String) : Stream :=
  ⟨lines.map .ok, none⟩

/-- The stream with the lines of a text, which end with line feeds only. -/
def ofText (cs : List Char) : Stream :=
  ofLines ((Text.linesOf cs).map String.ofList)

/-- The stream that answers its first `count` reads and fails from then on. -/
def failAfter (s : Stream) (count : Nat) (why : Fault) : Stream :=
  if count ≤ s.reads.length then { s with reads := s.reads.take count, broken := some why } else s

/-- The next line, or nothing at the end of the file, and the stream after the read. -/
def next (s : Stream) : Except Fault (Option String) × Stream :=
  match s.reads with
  | .ok line :: reads => (.ok (some line), { s with reads := reads })
  | .error why :: reads => (.error why, { s with reads := reads })
  | [] =>
    match s.broken with
    | some why => (.error why, s)
    | none => (.ok none, s)

end Stream

/-- A place in a document that is being read. -/
structure Reader where
  stream : Stream
  /-- The number of lines taken from the stream. -/
  position : Int := 0
  /-- Directives to read before any other line, with their positions. -/
  pending : List (Int × Directive) := []
  /-- Whether the end of the file was seen. -/
  atEnd : Bool := false
  /-- Whether the stream was closed. -/
  closed : Bool := false

namespace Reader

/-- The next directive and its position, and the reader after it. -/
def read (m : Markers) (r : Reader) : Except ReadFailure (Int × Directive) × Reader :=
  match r.pending with
  | item :: rest => (.ok item, { r with pending := rest })
  | [] =>
    if r.atEnd then (.ok (r.position, .close), r)
    else if r.closed then (.error .closed, r)
    else match r.stream.next with
      | (.ok (some line), stream) =>
        (.ok (r.position + 1, m.parse line), { r with stream, position := r.position + 1 })
      | (.ok none, stream) => (.ok (r.position, .close), { r with stream, atEnd := true })
      | (.error why, stream) => (.error (.fault why), { r with stream })

/-- Whether the next read takes something from the stream. -/
def needsStream (r : Reader) : Bool :=
  r.pending.isEmpty && !r.atEnd

/-- The reader that gives these directives first, at one position. -/
def pushBack (r : Reader) (position : Int) (directives : List Directive) : Reader :=
  { r with pending := directives.map (position, ·) ++ r.pending }

/-- The reader with its stream closed. -/
def close (r : Reader) : Reader :=
  { r with closed := true }

/-- A read closes nothing. -/
theorem closed_read (m : Markers) (r : Reader) : (r.read m).2.closed = r.closed := by
  unfold read
  repeat' split
  all_goals rfl

/-- What is open is read. -/
theorem read_ne_closed {m : Markers} {r : Reader} (unclosed : r.closed = false) : (r.read m).1 ≠ .error .closed := by
  unfold read
  repeat' split
  all_goals simp_all

end Reader

end Menu
