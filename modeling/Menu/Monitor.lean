import Menu.Message
import Menu.Tree.Edit

/-!
# Watching files

A monitor remembers when each of some files was last changed, or that a file was not there.  A file has
changed if that is no longer so: it has another time, or it came or went.
-/

namespace Menu

/-- Files and the times of their last changes, each file once. -/
structure Monitor where
  stamps : List (Path × Option Stamp) := []
deriving DecidableEq, Repr

namespace Monitor

/-- Watch these files, as they are now. -/
def arm (tree : Tree) (paths : List Path) : Monitor :=
  ⟨paths.eraseDups.map fun path => (path, tree.stamp? path)⟩

/-- Watch files that someone names, as they are now, if all their paths get as far as the system. -/
def ofPaths (tree : Tree) (paths : List Path) : Except Unchanged Monitor :=
  match paths.find? fun path => !tree.takesPath path with
  | some path => .error (tree.flawed path)
  | none => .ok (arm tree paths)

/-- The files that are watched. -/
def paths (m : Monitor) : List Path :=
  m.stamps.map Prod.fst

/-- The first file that has changed, if one has. -/
def changed? (m : Monitor) (tree : Tree) : Option Path :=
  (m.stamps.find? fun (path, stamp) => tree.stamp? path != stamp).map Prod.fst

/-- Watch again what was watched, as it is now. -/
def rearm (m : Monitor) (tree : Tree) : Monitor :=
  arm tree m.paths

/-- Nothing has changed right after the watch began. -/
theorem changed?_arm (tree : Tree) (paths : List Path) : (arm tree paths).changed? tree = none := by
  simp [changed?, arm, List.find?_eq_none]

end Monitor

end Menu
