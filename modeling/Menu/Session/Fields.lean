import Menu.Session

/-!
# The fields of a state

A state may be made from named values, of which only those count that name one of its fields; the two
directories are always given apart.
-/

namespace Menu.State

/-- The fields that no named value sets. -/
def directories : List String := ["inputdir", "outputdir"]

/-- Fields with the values that were given under their names. -/
def overlay {α : Type} (fields given : List (String × α)) : List (String × α) :=
  fields.map fun (name, value) =>
    if name ∈ directories then (name, value) else (name, (given.lookup name).getD value)

end Menu.State
