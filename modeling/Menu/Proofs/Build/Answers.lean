import Menu.Proofs.Build.Whole

/-!
# What a build asks its site

A step asks its site about inclusions, and about nothing else: where a target leads, and, if the file was not taken
in before, what it holds.  So two sites with the same markers that answer these questions alike are one site to a
build.

* `Build.AnsweredAlike`: two sites have the same answers for the next step.
* `Build.run_of_answered`: if that is so on all the way, the build is the same.
* `View.read_of_answered`: then a document has the same view, or fails in the same way.
-/

namespace Menu

namespace Context

variable {site site' : Site} {depth : Nat} {shared : Shared} {c : Context} {position : Int}

/-- Only an inclusion asks the site for anything. -/
theorem react_of_answered {d : Directive}
    (same : ∀ how target, d = .inclusion how target →
      c.includeFile site' depth shared position how target = c.includeFile site depth shared position how target) :
    c.react site' depth shared position d = c.react site depth shared position d := by
  cases d with
  | inclusion how target => exact same how target rfl
  | _ => rfl

theorem includeFile_of_answered {how : Inclusion} {target : String}
    (resolved : site'.resolve target c.directory = site.resolve target c.directory)
    (opened : ∀ file, site.resolve target c.directory = .ok file → shared.alreadyTaken c.lineage how file = false →
      site'.openTarget file = site.openTarget file) :
    c.includeFile site' depth shared position how target = c.includeFile site depth shared position how target := by
  rw [includeFile, includeFile, resolved]
  cases found : site.resolve target c.directory with
  | error obstacle => cases obstacle <;> rfl
  | ok file =>
    cases taken : shared.alreadyTaken c.lineage how file with
    | true => simp only [taken, if_true]
    | false => simp only [opened file found taken]

end Context

namespace Build

variable {site site' : Site} {b : Build} {events : List Event}

/-- Sites with the same answers to what the next step of a build asks for. -/
def AnsweredAlike (site site' : Site) (b : Build) : Prop :=
  ∀ c below how target, b.stack = c :: below → b.dispatched? site.markers = some (.inclusion how target) →
    site'.resolve target c.directory = site.resolve target c.directory ∧
      ∀ file, site.resolve target c.directory = .ok file → b.shared.alreadyTaken c.lineage how file = false →
        site'.openTarget file = site.openTarget file

theorem step_of_answered (markers : site'.markers = site.markers) (answered : b.AnsweredAlike site site') :
    b.step site' = b.step site := by
  obtain ⟨stack, shared⟩ := b
  cases stack with
  | nil => rfl
  | cons c below =>
    have same : reactionTo site' shared (c.readOn site.markers) below (c.reader.read site.markers).1 =
        reactionTo site shared (c.readOn site.markers) below (c.reader.read site.markers).1 := by
      cases read : (c.reader.read site.markers).1 with
      | error why => cases why <;> rfl
      | ok item =>
        refine Context.react_of_answered fun how target inclusion => ?_
        have dispatched : dispatched? site.markers ⟨c :: below, shared⟩ = some (.inclusion how target) :=
          (dispatched?_of_read read).trans (congrArg some inclusion)
        obtain ⟨resolved, opened⟩ := answered c below how target rfl dispatched
        exact Context.includeFile_of_answered resolved opened
    unfold step
    rw [markers]
    simp only [Context.readOn] at same
    simp only [same]

/-- What holds of a build and of all that its first step leads to holds of all that it leads to. -/
theorem forall_leads {p : Build → Prop} {next : Build} (here : p b) (taken : b.step site = (.ok next, events))
    (onward : ∀ seen mid, Leads site next seen mid → p mid) : ∀ seen mid, Leads site b seen mid → p mid := by
  intro seen mid leads
  cases leads with
  | refl => exact here
  | step _ taken' later =>
    rw [taken] at taken'
    cases taken'
    exact onward _ _ later

/-- Sites with the same answers on all the way lead to the same end. -/
theorem run_of_answered (markers : site'.markers = site.markers)
    (answered : ∀ seen mid, Leads site b seen mid → mid.AnsweredAlike site site') (ends : Ends site b)
    (ends' : Ends site' b) : b.run site' ends' = b.run site ends := by
  induction (show Acc (Follows site) b from ends) with
  | intro b _ ih =>
    by_cases empty : b.stack = []
    · rw [run_of_nil ends empty, run_of_nil ends' empty]
    · have same := step_of_answered markers (answered _ _ (.refl b))
      generalize taken : b.step site = result at same
      obtain ⟨outcome, seen⟩ := result
      cases outcome with
      | error why => rw [run_of_error ends empty taken, run_of_error ends' empty same]
      | ok next =>
        have follows : Follows site next b := ⟨empty, site.openFile, by rw [taken]⟩
        have onward : ∀ later mid, Leads site next later mid → mid.AnsweredAlike site site' := by
          intro later mid leads
          obtain ⟨stack, shared⟩ := b
          cases stack with
          | nil => exact absurd rfl empty
          | cons c below => exact answered _ _ (.step trivial taken leads)
        rw [run_of_step ends empty taken, run_of_step ends' empty same,
          ih next follows onward (ends.next empty taken) (ends'.next empty same)]

/-- The builds that the build of the document at a path leads to. -/
def Reached (site : Site) (path : Path) (b : Build) : Prop :=
  ∃ root stream seen, site.openDocument path = .ok (root, stream) ∧ Leads site (start root stream) seen b

end Build

open Build

/-- Sites that open a document alike, and have the same answers on all the way from there, build it alike. -/
theorem View.read_of_answered {site site' : Site} {path path' : Path} (markers : site'.markers = site.markers)
    (document : site'.openDocument path' = site.openDocument path)
    (answered : ∀ b, Reached site path b → b.AnsweredAlike site site') : read site' path' = read site path := by
  rw [read, read, document]
  cases opened : site.openDocument path with
  | error why => rfl
  | ok found =>
    have onward : ∀ seen mid, Leads site (start found.1 found.2) seen mid → mid.AnsweredAlike site site' :=
      fun seen mid leads => answered mid ⟨found.1, found.2, seen, opened, leads⟩
    have same := run_of_answered markers onward (ends_start found.1 found.2) (ends_start found.1 found.2)
    simp only [same]

end Menu
