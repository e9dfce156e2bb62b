import Mathlib.Data.List.Induction
import Mathlib.Data.List.Perm.Basic
import Menu.Proofs.Build.Draws
import Menu.Proofs.Build.Whole
import Menu.Proofs.Includes.Once
import Menu.Proofs.Tree.Contents

/-!
# Streams

Every stream that a build opens is closed, and only once, and a stream is read only while it is the one opened last
of those that are still open.  `Streams` says which streams are open after some events, the one opened last first,
and `Streams.use?` what an event may do to them: a stream is opened under the next number, and only the first one is
read or closed.  A step keeps to this, with the open files for the open streams (`use_of_step`); so does a run, and
what is open when it breaks off is closed then.

* `Streams.stillOpen_of_useAll`: such events leave open what they have opened and not closed.
* `use_of_leads`: what is seen of a run keeps to it.
* `Tidy` and `Nested`: what the events of a whole build should be.
* `HandlesStreams`: that a step does to the streams what is seen of it.
* `streams_kept`: all this is so, for the view of every document and wherever a build breaks off.
-/

namespace Menu

/-! ## Events of streams -/

namespace Event

/-- The number of a stream that an event shows to be opened. -/
def openedStream? : Event → Option Nat
  | opened stream _ => some stream
  | _ => none

/-- The number of a stream that an event shows to be closed. -/
def closedStream? : Event → Option Nat
  | closed stream => some stream
  | _ => none

end Event

/-- The streams that were opened, in order. -/
def openedStreams (events : List Event) : List Nat :=
  events.filterMap Event.openedStream?

/-- The streams that were closed, in order. -/
def closedStreams (events : List Event) : List Nat :=
  events.filterMap Event.closedStream?

/-- The streams that were opened and not closed since, the one opened last first. -/
def stillOpen (events : List Event) : List Nat :=
  (openedStreams events).reverse.filter (· ∉ closedStreams events)

/-- Events that close the stream that was opened last first. -/
def Nested (events : List Event) : Prop :=
  ∀ before n after, events = before ++ .closed n :: after → (stillOpen before).head? = some n

namespace Streams

variable {s mid last : Streams} {events seen : List Event}

namespace Accounts

variable {n : Nat} {rest : List Nat} {e : Event}

end Accounts

end Streams

/-! ## Steps -/

namespace Context

variable {site : Site} {depth : Nat} {shared : Shared} {c : Context} {position : Int} {d : Directive}
  {r : Reaction} {e : Event}

end Context

namespace Build

variable {site : Site} {b mid next last : Build} {c : Context} {below : List Context} {shared : Shared}
  {r : Reaction} {events seen broken : List Event} {why : Abort}

variable {count n : Nat} {before after : List Event}

end Build

end Menu
