import Menu.Build.Ends

/-!
# Running a build

A build that ends is run to its end: step after step until no file is open or a step fails, with all that is
seen on the way (`run`).  `run_of_step` takes a run apart at its first step.
-/

namespace Menu.Build

variable {site : Site}

theorem Ends.next {b next : Build} {events : List Event} (ends : Ends site b) (more : b.stack ≠ [])
    (h : b.step site = (.ok next, events)) : Ends site next :=
  ends.inv ⟨more, site.openFile, by rw [h]⟩

/-- Run a build; `past` is what was seen before, the last event first. -/
def runAfter (site : Site) (past : List Event) (b : Build) (ends : Ends site b) :
    Except Abort Build × List Event :=
  if more : b.stack = [] then (.ok b, past.reverse)
  else match step : b.step site with
    | (.error why, events) => (.error why, (b.closing.reverseAux (events.reverseAux past)).reverse)
    | (.ok next, events) => runAfter site (events.reverseAux past) next (ends.next more step)
termination_by (⟨b, ends⟩ : { b : Build // Acc (Follows site) b })
decreasing_by exact ⟨more, site.openFile, by rw [step]⟩

/-- Run a build to its end. -/
def run (site : Site) (b : Build) (ends : Ends site b) : Except Abort Build × List Event :=
  runAfter site [] b ends

/-- A build with no file open is over. -/
theorem run_of_nil {b : Build} (ends : Ends site b) (h : b.stack = []) :
    b.run site ends = (.ok b, []) := by
  rw [run, runAfter, dif_pos h, List.reverse_nil]

theorem runAfter_of_error (past : List Event) {b : Build} {why : Abort} {events : List Event}
    (ends : Ends site b) (more : b.stack ≠ []) (h : b.step site = (.error why, events)) :
    runAfter site past b ends =
      (.error why, (b.closing.reverseAux (events.reverseAux past)).reverse) := by
  rw [runAfter, dif_neg more]
  split
  · rename_i e; rw [h] at e; cases e; rfl
  · rename_i e; rw [h] at e; cases e

theorem runAfter_of_step (past : List Event) {b next : Build} {events : List Event}
    (ends : Ends site b) (more : b.stack ≠ []) (h : b.step site = (.ok next, events)) :
    runAfter site past b ends =
      runAfter site (events.reverseAux past) next (ends.next more h) := by
  rw [runAfter, dif_neg more]
  split
  · rename_i e; rw [h] at e; cases e
  · rename_i e; rw [h] at e; cases e; rfl

theorem runAfter_eq (past : List Event) (b : Build) (ends : Ends site b) :
    runAfter site past b ends = ((b.run site ends).1, past.reverse ++ (b.run site ends).2) := by
  induction (show Acc (Follows site) b from ends) generalizing past with
  | intro b _ ih =>
    by_cases empty : b.stack = []
    · rw [run, runAfter, runAfter, dif_pos empty, dif_pos empty]; simp
    · generalize h : b.step site = result
      obtain ⟨outcome, events⟩ := result
      cases outcome with
      | error why => rw [run, runAfter_of_error _ _ empty h, runAfter_of_error _ _ empty h]; simp
      | ok next =>
        have follows : Follows site next b := ⟨empty, site.openFile, by rw [h]⟩
        rw [run, runAfter_of_step _ _ empty h, runAfter_of_step _ _ empty h,
          ih next follows, ih next follows (events.reverseAux [])]
        simp

/-- A build whose next step fails, and what is seen of it. -/
theorem run_of_error {b : Build} {why : Abort} {events : List Event} (ends : Ends site b)
    (more : b.stack ≠ []) (h : b.step site = (.error why, events)) :
    b.run site ends = (.error why, events ++ b.closing) := by
  rw [run, runAfter_of_error _ _ more h]; simp

/-- A run is its first step and the run from there. -/
theorem run_of_step {b next : Build} {events : List Event} (ends : Ends site b)
    (more : b.stack ≠ []) (h : b.step site = (.ok next, events)) :
    b.run site ends =
      ((next.run site (ends.next more h)).1, events ++ (next.run site (ends.next more h)).2) := by
  rw [run, runAfter_of_step _ _ more h, runAfter_eq]; simp

end Menu.Build
