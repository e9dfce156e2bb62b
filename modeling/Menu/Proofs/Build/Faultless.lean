import Menu.Proofs.Build.Whole

/-!
# Builds from files that can be read

No read fails in a file that was opened as a text of a tree.  A build that takes in such files only fails with a
fault for one reason, which is that its document was not opened.

* `Faultless` and `faultless_of_step`: all open files can be read to their ends.
* `View.openDocument_of_fault`: what a fault means.
-/

namespace Menu

/-- A stream of which no read fails. -/
structure Stream.Faultless (s : Stream) : Prop where
  reads : ∀ why, .error why ∉ s.reads
  unbroken : s.broken = none

theorem Stream.faultless_ofText (cs : List Char) : (ofText cs).Faultless where
  reads why := by simp [ofText, ofLines]
  unbroken := rfl

theorem Stream.Faultless.next {s : Stream} (h : s.Faultless) :
    s.next.2.Faultless ∧ ∀ why, s.next.1 ≠ .error why := by
  obtain ⟨reads, broken⟩ := s
  obtain ⟨lines, rfl⟩ := h
  unfold Stream.next
  cases reads with
  | nil => exact ⟨⟨lines, rfl⟩, nofun⟩
  | cons line reads =>
    cases line with
    | ok line => exact ⟨⟨fun why mem => lines why (List.mem_cons_of_mem _ mem), rfl⟩, nofun⟩
    | error why => exact absurd List.mem_cons_self (lines why)

theorem Reader.faultless_read {r : Reader} (h : r.stream.Faultless) (m : Markers) :
    (r.read m).2.stream.Faultless ∧ ∀ why, (r.read m).1 ≠ .error (.fault why) := by
  have given := h.next
  unfold read
  split
  · exact ⟨h, nofun⟩
  · split
    · exact ⟨h, nofun⟩
    · split
      · exact ⟨h, nofun⟩
      · generalize r.stream.next = answer at given
        obtain ⟨item, stream⟩ := answer
        split <;> rename_i e <;> cases e
        · exact ⟨given.1, nofun⟩
        · exact ⟨given.1, nofun⟩
        · exact ⟨given.1, fun why e => given.2 why (by cases e; rfl)⟩

/-- A site that opens no file of which a read fails. -/
def Site.Faultless (site : Site) : Prop :=
  ∀ path stream, site.openFile path = .ok stream → stream.Faultless

theorem faultless_openIn {tree : Tree} {encoding : String} {path : Path} {stream : Stream}
    (opened : openIn tree encoding path = .ok stream) : stream.Faultless := by
  unfold openIn at opened
  repeat' split at opened
  all_goals cases opened
  exact Stream.faultless_ofText _

theorem Site.Faultless.openTarget {site : Site} (reads : site.Faultless) {file : Path} {stream : Stream}
    (opened : site.openTarget file = .ok stream) : stream.Faultless := by
  unfold Site.openTarget at opened
  split at opened <;> cases opened
  exact reads file stream ‹_›

theorem Site.Faultless.openDocument {site : Site} (reads : site.Faultless) {path root : Path} {stream : Stream}
    (opened : site.openDocument path = .ok (root, stream)) : stream.Faultless := by
  unfold Site.openDocument at opened
  split at opened
  · cases opened
  · cases opened
  · cases opened
  · split at opened <;> cases opened
    exact reads root stream ‹_›

namespace Build

variable {site : Site} {b next last : Build} {c : Context} {below : List Context} {shared : Shared}
  {events : List Event} {why : Fault}

/-- A build whose open files can all be read to their ends. -/
def Faultless (b : Build) : Prop :=
  ∀ c ∈ b.stack, c.reader.stream.Faultless

theorem faultless_of_step (reads : site.Faultless) (faultless : b.Faultless)
    (taken : b.step site = (.ok next, events)) : next.Faultless := by
  obtain ⟨stack, shared⟩ := b
  cases stack with
  | nil => cases taken; exact faultless
  | cons c below =>
    obtain ⟨r, h, rfl, -⟩ := exists_reaction taken
    intro file mem
    rcases mem_settle mem with old | ⟨rfl, stays⟩ | moves
    · exact faultless file (List.mem_cons_of_mem _ old)
    · obtain ⟨-, kept⟩ := stream_of_reaction h stays
      rw [kept]
      exact (Reader.faultless_read (faultless c List.mem_cons_self) site.markers).1
    · obtain ⟨_, _, how, _, _, stream, _, _, _, _, opened, _, rfl⟩ := reaction_enter h moves
      cases how <;> exact reads.openTarget opened

theorem faultless_of_leads (reads : site.Faultless) (leads : Leads site b events last) (faultless : b.Faultless) :
    last.Faultless := by
  induction leads with
  | refl => exact faultless
  | step _ taken _ ih => exact ih (faultless_of_step reads faultless taken)

theorem step_ne_fault (faultless : b.Faultless) : b.step site ≠ (.error (.fault why), events) := by
  intro failed
  obtain ⟨stack, shared⟩ := b
  cases stack with
  | nil => cases failed
  | cons c below =>
    rcases failed_cases failed with ⟨⟨⟩, -⟩ | ⟨fault, ⟨⟩, -, read⟩ | ⟨_, how, target, -, stopped⟩
    · exact (Reader.faultless_read (faultless c List.mem_cons_self) site.markers).2 why read
    · cases Context.ofText_of_includeFile stopped

end Build

open Build

/-- Where files can be read, only a document that is not opened fails with a fault. -/
theorem View.openDocument_of_fault {site : Site} {path : Path} {why : Fault} (reads : site.Faultless)
    (failed : (read site path).1 = .error (.fault why)) : site.openDocument path = .error (.fault why) := by
  rcases failed_of_read failed with unopened | ⟨root, stream, seen, mid, broken, opened, leads, stuck⟩
  · exact unopened
  · have first : (start root stream).Faultless := List.forall_mem_singleton.2 (reads.openDocument opened)
    exact absurd stuck (step_ne_fault (faultless_of_leads reads leads first))

end Menu
