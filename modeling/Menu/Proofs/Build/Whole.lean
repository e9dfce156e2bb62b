import Menu.Proofs.Build.Underway
import Menu.View

/-!
# Whole builds

A build that is run to its end without a failure is a sequence of steps that leads to where no file is open, and
the view of a document is what such a sequence shows.

* `leads_of_run` and `run_of_leads`: from a run to the steps, and back.
* `leads_of_failed_run`: a run that fails leads to a step that fails.
* `View.read_ok_iff`: when a document has a view, and which one.
* `View.failed_of_read` and `View.ofText_of_read`: why a document has no view.
-/

namespace Menu

namespace Build

variable {site : Site} {b last : Build} {events : List Event}

/-- A run that does not fail leads to where no file is open. -/
theorem leads_of_run (ends : Ends site b) (h : b.run site ends = (.ok last, events)) :
    Leads site b events last ∧ last.stack = [] := by
  induction (show Acc (Follows site) b from ends) generalizing events with
  | intro b _ ih =>
    by_cases empty : b.stack = []
    · rw [run_of_nil ends empty] at h
      cases h
      exact ⟨.refl _, empty⟩
    · generalize taken : b.step site = result
      obtain ⟨outcome, seen⟩ := result
      cases outcome with
      | error why =>
        rw [run_of_error ends empty taken] at h
        cases h
      | ok next =>
        have follows : Follows site next b := ⟨empty, site.openFile, by rw [taken]⟩
        rw [run_of_step ends empty taken, Prod.mk.injEq] at h
        obtain ⟨done, rfl⟩ := h
        obtain ⟨leads, ended⟩ := ih next follows (ends.next empty taken) (Prod.ext done rfl)
        obtain ⟨stack, shared⟩ := b
        cases stack with
        | nil => exact absurd rfl empty
        | cons c below => exact ⟨.step trivial taken leads, ended⟩

/-- A run that fails leads to a build whose next step fails; the files that are open then are closed. -/
theorem leads_of_failed_run {why : Abort} (ends : Ends site b) (h : b.run site ends = (.error why, events)) :
    ∃ seen mid broken, Leads site b seen mid ∧ mid.step site = (.error why, broken) ∧
      events = seen ++ broken ++ mid.closing := by
  induction (show Acc (Follows site) b from ends) generalizing events with
  | intro b _ ih =>
    by_cases empty : b.stack = []
    · rw [run_of_nil ends empty] at h
      cases h
    · generalize taken : b.step site = result
      obtain ⟨outcome, first⟩ := result
      cases outcome with
      | error why' =>
        rw [run_of_error ends empty taken] at h
        cases h
        exact ⟨[], b, first, .refl _, taken, rfl⟩
      | ok next =>
        have follows : Follows site next b := ⟨empty, site.openFile, by rw [taken]⟩
        rw [run_of_step ends empty taken, Prod.mk.injEq] at h
        obtain ⟨failed, rfl⟩ := h
        obtain ⟨seen, mid, broken, leads, stuck, shown⟩ := ih next follows (ends.next empty taken) (Prod.ext failed rfl)
        obtain ⟨stack, shared⟩ := b
        cases stack with
        | nil => exact absurd rfl empty
        | cons c below =>
          refine ⟨first ++ seen, mid, broken, .step trivial taken leads, stuck, ?_⟩
          simp only [shown, List.append_assoc]

/-- Steps that lead to where no file is open are a run. -/
theorem run_of_leads (leads : Leads site b events last) (ended : last.stack = []) (ends : Ends site b) :
    b.run site ends = (.ok last, events) := by
  induction leads with
  | refl => exact run_of_nil ends ended
  | step _ taken _ ih =>
    rw [run_of_step ends (List.cons_ne_nil _ _) taken, ih ended]

end Build

open Build

/-- Steps from the start of a document to where no file is open, with all that is seen of building its view. -/
theorem View.read_of_leads {site : Site} {path root : Path} {stream : Stream} {events : List Event} {last : Build}
    (opened : site.openDocument path = .ok (root, stream)) (leads : Leads site (start root stream) events last)
    (ended : last.stack = []) :
    read site path =
      (.ok (ofBuild root last.shared events),
        .opened 0 root :: .message (.building root) :: events ++
          [.message (.built (entriesOf events).length last.shared.sources.length)]) := by
  rw [read, opened]
  simp only [run_of_leads leads ended (ends_start root stream)]
  rfl

/-- The view of a document is what the steps of its build show, from its start to where no file is open. -/
theorem View.read_ok_iff {site : Site} {path : Path} {view : View} :
    (read site path).1 = .ok view ↔
      ∃ root stream events last, site.openDocument path = .ok (root, stream) ∧
        Leads site (start root stream) events last ∧ last.stack = [] ∧ view = ofBuild root last.shared events := by
  constructor
  · intro h
    rw [read] at h
    cases opened : site.openDocument path with
    | error why =>
      rw [opened] at h
      cases h
    | ok document =>
      obtain ⟨root, stream⟩ := document
      rw [opened] at h
      dsimp only at h
      generalize ran : (start root stream).run site (ends_start root stream) = result at h
      obtain ⟨outcome, events⟩ := result
      cases outcome with
      | error why => cases h
      | ok last =>
        cases h
        obtain ⟨leads, ended⟩ := leads_of_run _ ran
        exact ⟨root, stream, events, last, rfl, leads, ended, rfl⟩
  · rintro ⟨root, stream, events, last, opened, leads, ended, rfl⟩
    rw [read_of_leads opened leads ended]

/-- Otherwise the document was not opened, or its build leads to a step that fails. -/
theorem View.failed_of_read {site : Site} {path : Path} {why : Abort} (failed : (read site path).1 = .error why) :
    site.openDocument path = .error why ∨
      ∃ root stream seen mid broken, site.openDocument path = .ok (root, stream) ∧
        Leads site (start root stream) seen mid ∧ mid.step site = (.error why, broken) := by
  rw [read] at failed
  cases opened : site.openDocument path with
  | error why' =>
    rw [opened] at failed
    cases failed
    exact .inl rfl
  | ok document =>
    obtain ⟨root, stream⟩ := document
    rw [opened] at failed
    dsimp only at failed
    generalize ran : (start root stream).run site (ends_start root stream) = result at failed
    obtain ⟨outcome, events⟩ := result
    cases outcome with
    | ok last => cases failed
    | error why' =>
      cases failed
      obtain ⟨seen, mid, broken, leads, stuck, -⟩ := leads_of_failed_run _ ran
      exact .inr ⟨root, stream, seen, mid, broken, rfl, leads, stuck⟩

/-- What is wrong is a fault, or lies in a text. -/
theorem View.ofText_of_read {site : Site} {path : Path} {why : Abort} (failed : (read site path).1 = .error why)
    (other : ∀ fault, why ≠ .fault fault) : why.OfText := by
  rcases failed_of_read failed with unopened | ⟨root, stream, seen, mid, broken, -, leads, stuck⟩
  · unfold Site.openDocument at unopened
    repeat' split at unopened
    all_goals cases unopened
    · exact .flawed _
    · exact absurd rfl (other _)
    · exact absurd rfl (other _)
    · exact absurd rfl (other _)
    · exact .unknownEncoding _
    · exact .nulInEncoding
  · have unclosed := unclosed_of_leads (unclosed_start root stream) leads
    obtain ⟨stack, shared⟩ := mid
    cases stack with
    | nil => cases stuck
    | cons c below =>
      rcases failed_cases stuck with ⟨-, closed⟩ | ⟨fault, rfl, -⟩ | ⟨_, how, target, -, stopped⟩
      · exact absurd closed (Reader.read_ne_closed (unclosed c List.mem_cons_self))
      · exact absurd rfl (other fault)
      · exact Context.ofText_of_includeFile stopped

end Menu
