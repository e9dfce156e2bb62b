import Menu.Build
import Menu.Context.Outcome

/-!
# Every build ends

A build cannot go on for ever, whatever the files include: themselves, each other, or links that lead in
circles.  Of finitely many files each is imported once at most, and sourced once at most in a lineage.  A
file opened for its lines opens no other.  A file opens another only after a line of its own was read, and
what it is given to read again takes a number of steps that is known (`replayCost`).

A build *ends* if it cannot be continued without end (`Ends`), whatever the files give that are opened on
the way: the tree stays the same, but one path may give another stream each time.  A file on top of others is
read until it is left, and then those below it are read on with what is shared by then, which has only grown:
so a build ends if the build without the file on top ends whatever has been shared meanwhile
(`ends_of_regular`).
-/

namespace Menu

/-- What a read may give: what is pending, the end of the file, or one line less. -/
theorem Reader.read_cases {m : Markers} {r reader : Reader} {position : Int} {d : Directive}
    (h : r.read m = (.ok (position, d), reader)) :
    (∃ rest, r.pending = (position, d) :: rest ∧ reader = { r with pending := rest }) ∨
      d = .close ∨
      r.pending = [] ∧ reader.pending = [] ∧
        reader.stream.reads.length < r.stream.reads.length ∧ d.isWritten = true := by
  unfold read at h
  split at h
  · cases h; exact .inl ⟨_, ‹_›, rfl⟩
  · split at h
    · cases h; exact .inr (.inl rfl)
    · split at h
      · cases h
      · split at h
        · rename_i line stream e
          cases h
          refine .inr (.inr ⟨‹_›, ‹_›, ?_, m.isWritten_parse line⟩)
          unfold Stream.next at e
          repeat' split at e
          all_goals cases e
          simp_all
        · cases h; exact .inr (.inl rfl)
        · cases h

/-- What a file opened for its lines reacts to. -/
theorem Scopes.apply_literal (d : Directive) :
    apply [⟨.literal, true⟩] d = .close ∨ (apply [⟨.literal, true⟩] d).isQuiet = true := by
  cases d <;> simp [Rule.apply, Directive.isQuiet]

namespace Context

/-- What becomes of a file on top after one step, by the measures of its reading. -/
inductive Advances (files : List Path) (c : Context) (shared : Shared) (r : Reaction) : Prop
  | leaves : r.move = .leave → shared.Grows r.shared → Advances files c shared r
  | stays :
    r.move = .stay → r.context.lineage = c.lineage → shared.Grows r.shared → r.context.Regular →
    (r.context.linesLeft < c.linesLeft ∨
      r.context.linesLeft = c.linesLeft ∧ r.context.cost < c.cost) →
    Advances files c shared r
  | enters (child : Context) :
    r.move = .enter child → r.context.lineage = c.lineage → shared.Grows r.shared →
    r.context.Regular → r.context.linesLeft < c.linesLeft →
    c.Nested files shared r.shared child → Advances files c shared r

end Context

namespace Build

variable {site : Site}

/-- `next` is the build `b` one step later, in whatever way files are opened in this step. -/
def Follows (site : Site) (next b : Build) : Prop :=
  b.stack ≠ [] ∧ ∃ openFile, (b.step { site with openFile }).1 = .ok next

/-- A build that cannot be continued without end. -/
def Ends (site : Site) (b : Build) : Prop :=
  Acc (Follows site) b

/-- A build one step later, by the reaction of the file on top. -/
theorem eq_settle_of_follows {c : Context} {below : List Context} {shared : Shared} {next : Build}
    (h : Follows site next ⟨c :: below, shared⟩) :
    ∃ openFile r,
      reactionTo { site with openFile } shared { c with reader := (c.reader.read site.markers).2 } below
        (c.reader.read site.markers).1 = .ok r ∧ next = settle below r := by
  obtain ⟨-, openFile, ok⟩ := h
  simp only [step] at ok
  split at ok
  · cases ok
  · cases ok; exact ⟨openFile, _, ‹_›, rfl⟩

/-- A file opened for its lines is left or has one line less. -/
theorem literal_of_reaction {c : Context} {below : List Context} {shared : Shared} {r : Reaction}
    (literal : c.Literal)
    (h : reactionTo site shared { c with reader := (c.reader.read site.markers).2 } below
      (c.reader.read site.markers).1 = .ok r) :
    shared.Grows r.shared ∧
      (r.move = .leave ∨ r.move = .stay ∧ r.context.Literal ∧ r.context.linesLeft < c.linesLeft) := by
  generalize e : c.reader.read site.markers = answer at h
  obtain ⟨item, reader⟩ := answer
  rcases reactionTo_cases h with ⟨position, d, rfl, h⟩ | ⟨why, -, rfl⟩
  · simp only [literal.scopes] at h
    rcases Reader.read_cases e with ⟨rest, pending, _⟩ | rfl | ⟨_, pending, fewer, _⟩
    · rw [literal.pending] at pending; cases pending
    · cases h; exact ⟨.refl _, .inl rfl⟩
    · rcases Scopes.apply_literal d with closed | quiet
      · rw [closed] at h
        cases h; exact ⟨.refl _, .inl rfl⟩
      · have ⟨steady, scopes, same⟩ := Context.react_of_isQuiet quiet h
        refine ⟨steady.grows, .inr ⟨steady.stays, ⟨?_, ?_⟩, ?_⟩⟩
        · exact scopes
        · rw [same]; exact pending
        · rw [Context.linesLeft, same]; exact fewer
  · exact ⟨.refl _, .inl rfl⟩

/-- What a step makes of any other file on top. -/
theorem advances_of_reaction {c : Context} {below : List Context} {shared : Shared} {r : Reaction}
    (regular : c.Regular) (held : shared.lineages.Holds c.lineage)
    (h : reactionTo site shared { c with reader := (c.reader.read site.markers).2 } below
      (c.reader.read site.markers).1 = .ok r) :
    c.Advances site.tree.files shared r := by
  generalize e : c.reader.read site.markers = answer at h
  obtain ⟨item, reader⟩ := answer
  rcases reactionTo_cases h with ⟨position, d, rfl, h⟩ | ⟨why, -, rfl⟩
  · rcases Reader.read_cases e with ⟨rest, pending, rfl⟩ | rfl | ⟨_, pending, fewer, written⟩
    · have again : Replay (d :: rest.map Prod.snd) := by simpa [pending] using regular.replay
      have ⟨steady, regular, less⟩ :=
        Context.steady_of_replay (c := { c with reader := { c.reader with pending := rest } })
          regular.scopes again h
      refine .stays steady.stays steady.lineage steady.grows regular (.inr ⟨?_, ?_⟩)
      · simp [Context.linesLeft, steady.stream]
      · simpa [Context.cost, pending] using less
    · rw [Scopes.apply_close] at h
      cases h; exact .leaves rfl (.refl _)
    · cases Context.outcome_of_line (c := { c with reader }) regular.scopes pending held written h with
      | leaves moves grows => exact .leaves moves grows
      | stays steady regular =>
        refine .stays steady.stays steady.lineage steady.grows regular (.inl ?_)
        rw [Context.linesLeft, steady.stream]; exact fewer
      | enters child moves same grows nested =>
        refine .enters child moves (by rw [same]) grows ?_ ?_ ?_
        · rw [same]; exact ⟨regular.scopes, by simp [pending, Replay.nil]⟩
        · rw [same]; exact fewer
        · cases nested with
          | importing regular held fewer => exact .importing regular held fewer
          | sourcing regular lineage fewer => exact .sourcing regular lineage fewer
          | lines literal => exact .lines literal
  · exact .leaves rfl (.refl _)

theorem ends_of_nil (shared : Shared) : Ends site ⟨[], shared⟩ :=
  .intro _ fun _ follows => absurd rfl follows.1

theorem ends_of_literal {below : List Context} (c : Context) (shared : Shared) (literal : c.Literal)
    (rest : ∀ t, shared.Grows t → Ends site ⟨below, t⟩) : Ends site ⟨c :: below, shared⟩ :=
  .intro _ fun next follows => by
    obtain ⟨openFile, r, h, rfl⟩ := eq_settle_of_follows follows
    rcases literal_of_reaction literal h with ⟨grows, moves | ⟨moves, literal, fewer⟩⟩
    · rw [settle, moves]; exact rest _ grows
    · rw [settle, moves]
      exact ends_of_literal r.context r.shared literal fun t more => rest t (grows.trans more)
termination_by c.linesLeft

theorem ends_of_regular {below : List Context} (c : Context) (shared : Shared) (regular : c.Regular)
    (held : shared.lineages.Holds c.lineage)
    (rest : ∀ t, shared.Grows t → Ends site ⟨below, t⟩) : Ends site ⟨c :: below, shared⟩ :=
  .intro _ fun next follows => by
    obtain ⟨openFile, r, h, rfl⟩ := eq_settle_of_follows follows
    have later : ∀ {t lineage}, shared.Grows t → lineage = c.lineage →
        remaining site.tree.files t.imported ≤ remaining site.tree.files shared.imported ∧
        remaining site.tree.files (t.lineages.get lineage) ≤
          remaining site.tree.files (shared.lineages.get c.lineage) := fun grows same => by
      subst same
      exact ⟨remaining_le grows.imported, remaining_le (grows.lineages _ held).2⟩
    have advances : c.Advances site.tree.files shared r :=
      @advances_of_reaction { site with openFile } c below shared r regular held h
    cases advances with
    | leaves moves grows => rw [settle, moves]; exact rest _ grows
    | stays moves lineage grows regular fewer =>
      have := later grows lineage
      rw [settle, moves]
      exact ends_of_regular r.context r.shared regular (lineage ▸ (grows.lineages _ held).1)
        fun t more => rest t (grows.trans more)
    | enters child moves lineage grows regular fewer nested =>
      have resume : ∀ t, r.shared.Grows t → Ends site ⟨r.context :: below, t⟩ := fun t more =>
        have := later (grows.trans more) lineage
        ends_of_regular r.context t regular (lineage ▸ ((grows.trans more).lineages _ held).1)
          fun u evenMore => rest u ((grows.trans more).trans evenMore)
      have := later grows lineage
      rw [settle, moves]
      cases nested with
      | importing regular held fewer => exact ends_of_regular child r.shared regular held resume
      | sourcing regular same fewer =>
        exact ends_of_regular child r.shared regular (same ▸ (grows.lineages _ held).1) resume
      | lines literal => exact ends_of_literal child r.shared literal resume
termination_by (remaining site.tree.files shared.imported,
  remaining site.tree.files (shared.lineages.get c.lineage), c.linesLeft, c.cost)
decreasing_by
  all_goals simp only [Prod.lex_def]; omega

/-- The build of a document ends. -/
theorem ends_start (path : Path) (stream : Stream) : Ends site (start path stream) :=
  ends_of_regular _ _ ⟨.nil, .nil⟩ (Context.holds_of_newLineage _ [path]) fun _ _ => ends_of_nil _

end Build

end Menu
