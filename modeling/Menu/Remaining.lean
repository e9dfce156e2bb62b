/-!
# What a search has not met yet

A search over finitely many things ends if it never takes a thing twice.  `remaining all seen` counts the
members of `all` that are not in `seen`; it falls with each new member (`remaining_cons_lt`) and never
rises as more is seen (`remaining_le`).
-/

namespace Menu

variable {α : Type} [DecidableEq α]

/-- How many members of `all` are not in `seen`. -/
def remaining (all seen : List α) : Nat :=
  all.countP fun a => a ∉ seen

/-- Seeing more leaves no more. -/
theorem remaining_le {all seen more : List α} (h : seen ⊆ more) :
    remaining all more ≤ remaining all seen :=
  List.countP_mono_left fun a _ ha => by
    simp only [decide_not, Bool.not_eq_true', decide_eq_false_iff_not] at ha ⊢
    exact fun m => ha (h m)

/-- A new member of `all` leaves fewer. -/
theorem remaining_cons_lt {all seen : List α} {a : α} (member : a ∈ all) (fresh : a ∉ seen) :
    remaining all (a :: seen) < remaining all seen := by
  obtain ⟨before, after, rfl⟩ := List.append_of_mem member
  have h₁ : remaining before (a :: seen) ≤ remaining before seen :=
    remaining_le (List.subset_cons_self a seen)
  have h₂ : remaining after (a :: seen) ≤ remaining after seen :=
    remaining_le (List.subset_cons_self a seen)
  simp only [remaining, List.countP_append, List.countP_cons] at h₁ h₂ ⊢
  simp only [List.mem_cons, true_or, fresh, not_true, not_false_iff, decide_true, decide_false]
  simp only [List.mem_cons] at h₁ h₂
  simp
  simp at h₁ h₂
  omega

end Menu
