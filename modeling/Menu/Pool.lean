/-!
# Shared values

Several holders may share one value that changes, and each sees the changes of the others.  A pool has the
values, and a holder the handle of one.  A handle stays valid for good: a pool only grows (`add`), and a
change under one handle leaves the values under all others (`get_modify_of_ne`).
-/

namespace Menu

/-- What a holder of a shared value has of it. -/
abbrev Handle := Nat

/-- Values to share, each under a handle. -/
structure Pool (α : Type) where
  values : List α := []

namespace Pool

variable {α : Type}

/-- The value under a handle, and `default` under a handle that the pool did not give out. -/
def get [Inhabited α] (p : Pool α) (h : Handle) : α :=
  p.values[h]?.getD default

/-- Put a new value into the pool; it comes under a new handle. -/
def add (p : Pool α) (a : α) : Pool α × Handle :=
  (⟨p.values ++ [a]⟩, p.values.length)

/-- Change the value under a handle. -/
def modify (p : Pool α) (h : Handle) (f : α → α) : Pool α :=
  ⟨p.values.modify h f⟩

/-- Whether the pool has given out a handle. -/
def Holds (p : Pool α) (h : Handle) : Prop :=
  h < p.values.length

variable [Inhabited α]

@[simp] theorem get_add_self (p : Pool α) (a : α) : (p.add a).1.get (p.add a).2 = a := by
  simp [get, add]

theorem get_add_of_holds {p : Pool α} {h : Handle} (a : α) (held : p.Holds h) :
    (p.add a).1.get h = p.get h := by
  unfold Holds at held
  simp [get, add, List.getElem?_append_left held]

theorem get_modify_self {p : Pool α} {h : Handle} (f : α → α) (held : p.Holds h) :
    (p.modify h f).get h = f (p.get h) := by
  unfold Holds at held
  simp [get, modify, List.getElem?_eq_getElem held]

theorem get_modify_of_ne {p : Pool α} {h k : Handle} (f : α → α) (ne : h ≠ k) :
    (p.modify h f).get k = p.get k := by
  simp [get, modify, List.getElem?_modify_ne f p.values ne]

end Pool

end Menu
