import Menu.Directive.Reader

/-!
# Readers as feeds

A reader answers as if there were one list in front of it: what was pushed back, then the numbered directives of all
lines that its stream still has, and then the end of the file for ever.  A read takes the first of the list, and what
is pushed back comes in front of it (`Feed`).  This holds whatever is read and pushed back before, nested or after the
end, and whether reads fail or not.

* `Feed.ofStream_ofLines`: the feed of a stream that gives lines and ends.
* `Reader.reads_read`: all that a read may do.
* `Reader.feed_read`, `Reader.feed_pushBack`: one call does to the feed what it does to the reader.
* `Call.run_map`, `Call.run_keeps`: any calls do to states what each call does.
* `Call.answers_of_feed`: the answers of the reader of a stream, its position, and the reads that fail.
-/

namespace Menu

/-- What a read answers: a directive with its position, or why there is none. -/
abbrev Answer := Except ReadFailure (Int × Directive)

/-- The answers of reads to come: some in their order, and then the same one for ever. -/
structure Feed where
  items : List Answer
  last : Answer

/-- The number of lines among the answers of a stream. -/
def lineCount (reads : List (Except Fault String)) : Nat :=
  reads.countP (·.isOk)

@[simp] theorem lineCount_line (line : String) (reads : List (Except Fault String)) :
    lineCount (.ok line :: reads) = lineCount reads + 1 :=
  List.countP_cons_of_pos rfl

@[simp] theorem lineCount_fault (why : Fault) (reads : List (Except Fault String)) :
    lineCount (.error why :: reads) = lineCount reads :=
  List.countP_cons_of_neg Bool.false_ne_true

theorem lineCount_append (xs ys : List (Except Fault String)) : lineCount (xs ++ ys) = lineCount xs + lineCount ys :=
  List.countP_append

namespace Feed

/-- A read takes the first answer. -/
def read (f : Feed) : Answer × Feed :=
  match f.items with
  | [] => (f.last, f)
  | item :: items => (item, { f with items })

/-- The feed that gives these directives first, at one position. -/
def pushBack (f : Feed) (position : Int) (ds : List Directive) : Feed :=
  { f with items := ds.map (fun d => .ok (position, d)) ++ f.items }

/-- The directives of lines, each with its number; a read that fails has none. -/
def numbered (m : Markers) (position : Int) : List (Except Fault String) → List Answer
  | [] => []
  | .ok line :: reads => .ok (position + 1, m.parse line) :: numbered m (position + 1) reads
  | .error why :: reads => .error (.fault why) :: numbered m position reads

/-- What a stream gives, after a number of lines that were taken from it, if it was not closed. -/
def ofStream (m : Markers) (position : Int) (s : Stream) (closed : Bool) : Feed :=
  if closed then ⟨[], .error .closed⟩
  else
    { items := numbered m position s.reads
      last := match s.broken with
        | some why => .error (.fault why)
        | none => .ok (position + lineCount s.reads, .close) }

theorem numbered_lines (m : Markers) (position : Int) (lines : List String) :
    numbered m position (lines.map .ok) = lines.mapIdx fun k line => .ok (position + (k + 1 : Nat), m.parse line) := by
  induction lines generalizing position with
  | nil => rfl
  | cons line lines ih =>
    have shifted : ∀ k : Nat, position + 1 + ((k + 1 : Nat) : Int) = position + ((k + 1 + 1 : Nat) : Int) := by omega
    rw [List.map_cons, numbered, ih, List.mapIdx_cons]
    simp only [shifted]
    rfl

/-- Lines give their directives, each with its number, and then the end at the number of them all. -/
theorem ofStream_ofLines (m : Markers) (lines : List String) :
    ofStream m 0 (.ofLines lines) false =
      ⟨lines.mapIdx fun k line => .ok ((k + 1 : Nat), m.parse line), .ok (lines.length, .close)⟩ := by
  have count : lineCount (lines.map .ok) = lines.length := by
    induction lines with
    | nil => rfl
    | cons line lines ih => rw [List.map_cons, lineCount_line, ih, List.length_cons]
  simp [ofStream, Stream.ofLines, numbered_lines, count]

end Feed

/-! ## One call -/

namespace Reader

variable {m : Markers} {r next : Reader} {s : Stream} {answer : Answer} {why : ReadFailure}
  {taken : List (Except Fault String)}

/-- What a read answers, and the reader after it. -/
inductive Reads (m : Markers) : Reader → Answer → Reader → Prop
  | pending (stream : Stream) (position : Int) (item : Int × Directive) (rest : List (Int × Directive))
      (atEnd closed : Bool) :
      Reads m ⟨stream, position, item :: rest, atEnd, closed⟩ (.ok item) ⟨stream, position, rest, atEnd, closed⟩
  | again (stream : Stream) (position : Int) (closed : Bool) :
      Reads m ⟨stream, position, [], true, closed⟩ (.ok (position, .close)) ⟨stream, position, [], true, closed⟩
  | closed (stream : Stream) (position : Int) :
      Reads m ⟨stream, position, [], false, true⟩ (.error .closed) ⟨stream, position, [], false, true⟩
  | line (line : String) (reads : List (Except Fault String)) (broken : Option Fault) (position : Int) :
      Reads m ⟨⟨.ok line :: reads, broken⟩, position, [], false, false⟩ (.ok (position + 1, m.parse line))
        ⟨⟨reads, broken⟩, position + 1, [], false, false⟩
  | fault (why : Fault) (reads : List (Except Fault String)) (broken : Option Fault) (position : Int) :
      Reads m ⟨⟨.error why :: reads, broken⟩, position, [], false, false⟩ (.error (.fault why))
        ⟨⟨reads, broken⟩, position, [], false, false⟩
  | broken (why : Fault) (position : Int) :
      Reads m ⟨⟨[], some why⟩, position, [], false, false⟩ (.error (.fault why))
        ⟨⟨[], some why⟩, position, [], false, false⟩
  | ended (position : Int) :
      Reads m ⟨⟨[], none⟩, position, [], false, false⟩ (.ok (position, .close)) ⟨⟨[], none⟩, position, [], true, false⟩

theorem reads_read (m : Markers) (r : Reader) : Reads m r (r.read m).1 (r.read m).2 := by
  obtain ⟨⟨reads, broken⟩, position, pending, atEnd, closed⟩ := r
  rcases pending with - | ⟨item, rest⟩
  · cases atEnd with
    | true => exact .again _ _ _
    | false =>
      cases closed with
      | true => exact .closed _ _
      | false =>
        rcases reads with - | ⟨why | line, reads⟩
        · cases broken with
          | none => exact .ended _
          | some why => exact .broken _ _
        · exact .fault _ _ _ _
        · exact .line _ _ _ _
  · exact .pending _ _ _ _ _ _

/-- What a reader has in front of it. -/
def feed (m : Markers) (r : Reader) : Feed where
  items := r.pending.map .ok ++ if r.atEnd then [] else (Feed.ofStream m r.position r.stream r.closed).items
  last := if r.atEnd then .ok (r.position, .close) else (Feed.ofStream m r.position r.stream r.closed).last

theorem feed_pushBack (m : Markers) (r : Reader) (position : Int) (ds : List Directive) :
    (r.pushBack position ds).feed m = (r.feed m).pushBack position ds := by
  unfold feed pushBack Feed.pushBack
  rw [List.map_append, List.map_map, List.append_assoc]
  rfl

theorem Reads.feed (reads : Reads m r answer next) : (r.feed m).read = (answer, next.feed m) := by
  cases reads with
  | line line reads broken position =>
    -- of the lines in front of the reader, one is behind it now
    have whole : position + ((lineCount reads : Int) + 1) = position + 1 + lineCount reads := by omega
    simp [Reader.feed, Feed.ofStream, Feed.read, Feed.numbered, whole]
  | fault => simp [Reader.feed, Feed.ofStream, Feed.read, Feed.numbered]
  | ended => simp [Reader.feed, Feed.ofStream, Feed.read, Feed.numbered, lineCount]
  | _ => rfl

/-- A read takes the first of what is in front of a reader. -/
theorem feed_read (m : Markers) (r : Reader) : (r.feed m).read = ((r.read m).1, (r.read m).2.feed m) :=
  (r.reads_read m).feed

/-- A read that fails leaves a reader where it was. -/
theorem Reads.same_of_error (reads : Reads m r (.error why) next) :
    next.position = r.position ∧ next.pending = r.pending ∧ next.atEnd = r.atEnd := by
  cases reads <;> exact ⟨rfl, rfl, rfl⟩

/-- A reader that has taken these answers from its stream. -/
structure Took (s : Stream) (taken : List (Except Fault String)) (r : Reader) : Prop where
  reads : s.reads = taken ++ r.stream.reads
  position : r.position = lineCount taken

theorem Took.more {item : Except Fault String} (took : Took s taken r)
    (reads : r.stream.reads = item :: next.stream.reads) (position : next.position = r.position + lineCount [item]) :
    Took s (taken ++ [item]) next where
  reads := by rw [took.reads, reads, List.append_assoc]; rfl
  position := by rw [position, took.position, lineCount_append]; omega

theorem Took.pushBack (took : Took s taken r) (position : Int) (ds : List Directive) :
    Took s taken (r.pushBack position ds) :=
  ⟨took.reads, took.position⟩

theorem Took.read (took : Took s taken r) (reads : Reads m r answer next) :
    ∃ taken, Took s taken next := by
  cases reads with
  | line => exact ⟨_, took.more rfl rfl⟩
  | fault => exact ⟨_, took.more rfl (Int.add_zero _).symm⟩
  | _ => exact ⟨taken, took.reads, took.position⟩

end Reader

/-! ## Any calls -/

/-- What is asked of a reader. -/
inductive Call
  | read
  | pushBack (position : Int) (directives : List Directive)

namespace Call

variable {S T : Type} {read : S → Answer × S} {read' : T → Answer × T} {pushBack : S → Int → List Directive → S}
  {pushBack' : T → Int → List Directive → T}

/-- What calls are answered one after the other, and the state after them, if this is what a read and a push back
do to a state. -/
def run (read : S → Answer × S) (pushBack : S → Int → List Directive → S) (s : S) : List Call → List Answer × S
  | [] => ([], s)
  | .read :: calls => ((read s).1 :: (run read pushBack (read s).2 calls).1, (run read pushBack (read s).2 calls).2)
  | .pushBack position ds :: calls => run read pushBack (pushBack s position ds) calls

/-- States that every call takes to each other are asked the same way. -/
theorem run_map {f : S → T} (reads : ∀ s, read' (f s) = ((read s).1, f (read s).2))
    (pushes : ∀ s position ds, pushBack' (f s) position ds = f (pushBack s position ds)) (s : S) (calls : List Call) :
    run read' pushBack' (f s) calls = ((run read pushBack s calls).1, f (run read pushBack s calls).2) := by
  induction calls generalizing s with
  | nil => rfl
  | cons call calls ih =>
    cases call with
    | read => simp only [run, reads, ih]
    | pushBack position ds => simp only [run, pushes, ih]

/-- What every call keeps is kept by all of them. -/
theorem run_keeps {P : S → Prop} (reads : ∀ s, P s → P (read s).2)
    (pushes : ∀ s position ds, P s → P (pushBack s position ds)) {s : S} (start : P s) (calls : List Call) :
    P (run read pushBack s calls).2 := by
  induction calls generalizing s with
  | nil => exact start
  | cons call calls ih =>
    cases call with
    | read => exact ih (reads s start)
    | pushBack position ds => exact ih (pushes s position ds start)

/-- **A reader is a list in front of which others can be put.**  Whatever calls are made on the reader of a stream, be
it open or closed, and in whatever order, they are answered as from a list: the lines of the stream with their numbers,
then the end, or what the stream answers instead, for ever; a read takes the first of the list, and what is pushed back
comes in front of it.  The position is always the number of lines that were taken from the stream, and a read that fails
leaves it as it is, with all that was pushed back and whether the end was seen. -/
theorem answers_of_feed (m : Markers) (s : Stream) (closed : Bool) (calls : List Call) :
    let asked := run (Reader.read m) Reader.pushBack { stream := s, closed } calls
    run Feed.read Feed.pushBack (.ofStream m 0 s closed) calls = (asked.1, asked.2.feed m) ∧
    (∃ taken, s.reads = taken ++ asked.2.stream.reads ∧ asked.2.position = lineCount taken) ∧
    ∀ why next, asked.2.read m = (.error why, next) →
      next.position = asked.2.position ∧ next.pending = asked.2.pending ∧ next.atEnd = asked.2.atEnd := by
  intro asked
  have begun : Reader.Took s [] { stream := s, closed } := ⟨rfl, rfl⟩
  obtain ⟨taken, took⟩ : ∃ taken, Reader.Took s taken asked.2 :=
    run_keeps (P := fun r => ∃ taken, Reader.Took s taken r) (fun r ⟨_, took⟩ => took.read (r.reads_read m))
      (fun r position ds ⟨taken, took⟩ => ⟨taken, took.pushBack position ds⟩) ⟨[], begun⟩ calls
  refine ⟨?_, ⟨taken, took.reads, took.position⟩, fun why next failed => ?_⟩
  · exact run_map (Reader.feed_read m) (fun r position ds => (r.feed_pushBack m position ds).symm)
      { stream := s, closed } calls
  · have reads := asked.2.reads_read m
    rw [failed] at reads
    exact reads.same_of_error

/-- A read of the second line that fails the first time, after two directives were pushed back and one before them. -/
theorem answers_of_feed_nested :
    ∃ r next,
      run (Reader.read {}) Reader.pushBack
          { stream := ⟨[.ok "a", .error (.refused .notFound ⟨.root, []⟩), .ok "b"], none⟩ }
          [.read, .pushBack 1 [.watch, .thenBlock], .read, .pushBack 7 [.noop], .read, .read] =
        ([.ok (1, .text "a"), .ok (1, .watch), .ok (7, .noop), .ok (1, .thenBlock)], r) ∧
      r.feed {} =
        ⟨[.error (.fault (.refused .notFound ⟨.root, []⟩)), .ok (2, .text "b")], .ok (2, .close)⟩ ∧
      r.read {} = (.error (.fault (.refused .notFound ⟨.root, []⟩)), next) ∧
      next.position = 1 ∧ next.pending = [] ∧ next.atEnd = false := by
  obtain ⟨fed, -, failed⟩ := answers_of_feed {}
    ⟨[.ok "a", .error (.refused .notFound ⟨.root, []⟩), .ok "b"], none⟩ false
    [.read, .pushBack 1 [.watch, .thenBlock], .read, .pushBack 7 [.noop], .read, .read]
  exact ⟨_, _, rfl, (congrArg Prod.snd fed).symm, rfl, failed _ _ rfl⟩

end Call

end Menu
