import Menu.Text.Quoted

/-!
# Watches

A watch collects warnings instead of showing them.  It starts empty, keeps the warnings in their order,
and hands them all out when it stops; a watch that is not running has nothing to hand out.
-/

namespace Menu

/-- The watch for warnings of one file. -/
structure Watch where
  running : Bool := false
  warnings : List String := []
deriving DecidableEq, Repr

namespace Watch

/-- Start to collect, unless the watch is running already. -/
def start? (w : Watch) : Option Watch :=
  if w.running then none else some ⟨true, []⟩

/-- Collect a warning. -/
def collect (w : Watch) (text : String) : Watch :=
  { w with warnings := w.warnings ++ [text] }

/-- Stop to collect: the warnings, and the watch without them.  Nothing comes of a watch that does not
run. -/
def stop? (w : Watch) : Option (List String × Watch) :=
  if w.running then some (w.warnings, ⟨false, []⟩) else none

/-- A watch in words. -/
def describe (w : Watch) : String :=
  if w.running then "Watching(buffered=" ++ Text.quotedList w.warnings ++ ")" else "Sleeping"

end Watch

end Menu
