import Menu.Context.React
import Menu.Remaining
import Menu.Scope.Replay

/-!
# Progress

What one reaction does to the measures by which a build ends.  What the files of a build share only grows
(`Shared.Grows`), and a file stays in its lineage and keeps its stream as long as it is open
(`Context.Steady`).

A file that is read for its lines keeps its one scope and is given nothing to read again (`Context.Literal`).
Every other file has regular scopes, and what it is given to read again is a replay (`Context.Regular`).
-/

namespace Menu

namespace Shared

/-- What is shared later on: what was imported and what was taken into a lineage stays. -/
structure Grows (s t : Shared) : Prop where
  imported : s.imported ⊆ t.imported
  lineages : ∀ h, s.lineages.Holds h → t.lineages.Holds h ∧ s.lineages.get h ⊆ t.lineages.get h

namespace Grows

theorem of_eq {s t : Shared} (imported : t.imported = s.imported) (lineages : t.lineages = s.lineages) :
    s.Grows t :=
  ⟨by simp [imported], fun _ held => by simp [lineages, held]⟩

theorem refl (s : Shared) : s.Grows s := .of_eq rfl rfl

theorem trans {s t u : Shared} (st : s.Grows t) (tu : t.Grows u) : s.Grows u :=
  ⟨fun _ m => tu.imported (st.imported m), fun h held =>
    have ⟨heldLater, more⟩ := st.lineages h held
    have ⟨heldLast, evenMore⟩ := tu.lineages h heldLater
    ⟨heldLast, fun _ m => evenMore (more m)⟩⟩

end Grows

end Shared

/-- Whether a directive leaves the blocks and the readers of all files as they are. -/
def Directive.isQuiet : Directive → Bool
  | .close => false
  | .inclusion _ _ => false
  | .endBlock _ => false
  | .ignoreWarnings => false
  | .ignoreText => false
  | .thenBlock => false
  | .elseBlock => false
  | .multiple _ => false
  | _ => true

namespace Context

/-- A file that was opened for its lines. -/
structure Literal (c : Context) : Prop where
  scopes : c.scopes = [⟨.literal, true⟩]
  pending : c.reader.pending = []

/-- A file that is read for more than its lines. -/
structure Regular (c : Context) : Prop where
  scopes : c.scopes.Regular
  replay : Replay (c.reader.pending.map Prod.snd)

/-- The number of reads that the stream of a file still answers. -/
def linesLeft (c : Context) : Nat :=
  c.reader.stream.reads.length

/-- The number of steps that it takes at most to read what a file was given to read again. -/
def cost (c : Context) : Nat :=
  replayCost c.scopes (c.reader.pending.map Prod.snd)

/-- A reaction that leaves a file on top. -/
structure Steady (c : Context) (shared : Shared) (r : Reaction) : Prop where
  stays : r.move = .stay
  lineage : r.context.lineage = c.lineage
  stream : r.context.reader.stream = c.reader.stream
  grows : shared.Grows r.shared

variable {site : Site} {depth : Nat} {shared : Shared} {c : Context} {position : Int} {d : Directive}
  {r : Reaction}

theorem react_of_isQuiet (quiet : d.isQuiet = true)
    (h : c.react site depth shared position d = .ok r) :
    c.Steady shared r ∧ r.context.scopes = c.scopes ∧ r.context.reader = c.reader := by
  have same : ∀ s, shared.Grows { shared with cells := s } := fun _ => .of_eq rfl rfl
  have titled : ∀ s, shared.Grows { shared with title := s } := fun _ => .of_eq rfl rfl
  have refl := Shared.Grows.refl shared
  cases d <;> simp only [Directive.isQuiet, Bool.false_eq_true] at quiet <;>
    simp only [react] at h <;> (try split at h) <;> cases h <;>
    exact ⟨⟨rfl, rfl, rfl, by first | exact refl | exact same _ | exact titled _⟩, rfl, rfl⟩

theorem steady_of_resolveWatch (rule : List String → Rule) (complaint : String) :
    c.Steady shared (c.resolveWatch shared position rule complaint) ∧
      (c.resolveWatch shared position rule complaint).context.reader = c.reader ∧
      ((c.resolveWatch shared position rule complaint).context.scopes = c.scopes ∨
        ∃ ws, (c.resolveWatch shared position rule complaint).context.scopes =
          ⟨rule ws, false⟩ :: c.scopes) := by
  unfold resolveWatch
  cases c.watch.stop? with
  | none => exact ⟨⟨rfl, rfl, rfl, .refl _⟩, rfl, .inl rfl⟩
  | some w => exact ⟨⟨rfl, rfl, rfl, .refl _⟩, rfl, .inr ⟨_, rfl⟩⟩

/-- What begins a block adds at most one scope. -/
theorem react_of_opens (opens : d.opens = true) (h : c.react site depth shared position d = .ok r) :
    c.Steady shared r ∧ r.context.reader = c.reader ∧
      (r.context.scopes = c.scopes ∨
        ∃ rule, rule ≠ .literal ∧ r.context.scopes = ⟨rule, false⟩ :: c.scopes) := by
  have resolved := @steady_of_resolveWatch shared c position
  cases d <;> simp only [Directive.opens, Bool.false_eq_true] at opens <;>
    simp only [react] at h <;> cases h
  · exact ⟨⟨rfl, rfl, rfl, .refl _⟩, rfl, .inr ⟨_, by simp, rfl⟩⟩
  · exact ⟨⟨rfl, rfl, rfl, .refl _⟩, rfl, .inr ⟨_, by simp, rfl⟩⟩
  · obtain ⟨s, reader, e | ⟨ws, e⟩⟩ := resolved .thenBlock "then: no watch to resolve"
    · exact ⟨s, reader, .inl e⟩
    · exact ⟨s, reader, .inr ⟨_, by simp, e⟩⟩
  · obtain ⟨s, reader, e | ⟨ws, e⟩⟩ := resolved .elseBlock "else: no watch to resolve"
    · exact ⟨s, reader, .inl e⟩
    · exact ⟨s, reader, .inr ⟨_, by simp, e⟩⟩

/-- The end of a block takes away the innermost one, or nothing. -/
theorem steady_of_endBlock (shared : Shared) (c : Context) (position : Int) (automatic : Bool) :
    c.Steady shared (c.endBlock shared position automatic) ∧
      (c.endBlock shared position automatic).context.reader = c.reader ∧
      ((c.endBlock shared position automatic).context.scopes = c.scopes ∨
        (c.endBlock shared position automatic).context.scopes = c.scopes.tail) := by
  unfold endBlock
  cases e : c.scopes with
  | nil => exact ⟨⟨rfl, rfl, rfl, .refl _⟩, rfl, .inl e⟩
  | cons s outer =>
    dsimp only
    split
    · exact ⟨⟨rfl, rfl, rfl, .refl _⟩, rfl, .inr rfl⟩
    · exact ⟨⟨rfl, rfl, rfl, .refl _⟩, rfl, .inl e⟩

/-- Among regular scopes, the end of a block that a line began takes away the innermost one. -/
theorem scopes_of_endBlock (shared : Shared) (position : Int) (h : c.scopes.Regular) :
    (c.endBlock shared position false).context.scopes = c.scopes.tail := by
  unfold endBlock
  cases e : c.scopes with
  | nil => exact e
  | cons s outer =>
    rw [e] at h
    simp [(h.manual s List.mem_cons_self).1]

/-- A file that was opened on top of `c`, with what is shared before and after. -/
inductive Nested (files : List Path) (c : Context) (before after : Shared) (child : Context) : Prop
  | importing :
    child.Regular → after.lineages.Holds child.lineage →
    remaining files after.imported < remaining files before.imported →
    Nested files c before after child
  | sourcing :
    child.Regular → child.lineage = c.lineage →
    remaining files (after.lineages.get child.lineage) <
      remaining files (before.lineages.get c.lineage) →
    Nested files c before after child
  | lines : child.Literal → Nested files c before after child

theorem holds_of_newLineage (shared : Shared) (files : List Path) :
    (shared.newLineage files).1.lineages.Holds (shared.newLineage files).2 := by
  simp [Shared.newLineage, Pool.add, Pool.Holds]

theorem grows_of_newLineage (files : List Path) : shared.Grows (shared.newLineage files).1 :=
  ⟨fun _ m => m, fun h held => by
    refine ⟨?_, ?_⟩
    · simp only [Shared.newLineage, Pool.add, Pool.Holds, List.length_append] at held ⊢
      exact Nat.lt_add_right _ held
    · rw [Shared.newLineage, Pool.get_add_of_holds files held]
      exact fun _ m => m⟩

/-- A file that was not taken in before leaves fewer to be taken in. -/
theorem nested_child {files : List Path} {how : Inclusion} {path : Path} (stream : Stream)
    (member : path ∈ files) (held : shared.lineages.Holds c.lineage)
    (fresh : shared.alreadyTaken c.lineage how path = false) :
    shared.Grows (c.child shared how path stream).2 ∧
      c.Nested files shared (c.child shared how path stream).2 (c.child shared how path stream).1 := by
  have visited : shared.Grows (shared.visit path) := .of_eq rfl rfl
  have celled : shared.Grows (shared.visit path).newCell.1 := .of_eq rfl rfl
  cases how with
  | importing =>
    simp only [Shared.alreadyTaken, decide_eq_false_iff_not] at fresh
    have grown := celled.trans (grows_of_newLineage [path])
    exact ⟨⟨fun _ m => List.mem_cons_of_mem _ m, grown.lineages⟩,
      .importing ⟨.nil, .nil⟩ (holds_of_newLineage _ [path])
        (remaining_cons_lt member fresh)⟩
  | sourcing =>
    simp only [Shared.alreadyTaken, decide_eq_false_iff_not] at fresh
    have more := Pool.get_modify_self (path :: ·) held
    refine ⟨⟨fun _ m => m, fun h holds => ⟨?_, ?_⟩⟩, .sourcing ⟨.nil, .nil⟩ rfl ?_⟩
    · simpa [child, Shared.visit, Pool.modify, Pool.Holds] using holds
    · by_cases e : c.lineage = h
      · subst e
        exact fun _ m => by
          simp only [child, Shared.visit]
          rw [more]
          exact List.mem_cons_of_mem _ m
      · simp only [child, Shared.visit]
        rw [Pool.get_modify_of_ne _ e]
        exact fun _ m => m
    · simp only [child, Shared.visit]
      rw [more]
      exact remaining_cons_lt member fresh
  | lines => exact ⟨visited.trans (grows_of_newLineage []), .lines ⟨rfl, rfl⟩⟩

/-- An inclusion changes nothing but the reader, or opens a file. -/
theorem includeFile_cases {how : Inclusion} {target : String}
    (held : shared.lineages.Holds c.lineage)
    (h : c.includeFile site depth shared position how target = .ok r) :
    c.Steady shared r ∧ r.context.scopes = c.scopes ∧
        (r.context.reader = c.reader ∨
          ∃ w, r.context.reader = c.reader.pushBack position [.warning w]) ∨
      r.context = c ∧ shared.Grows r.shared ∧
        ∃ child, r.move = .enter child ∧ c.Nested site.tree.files shared r.shared child := by
  unfold includeFile at h
  cases resolved : site.resolve target c.directory with
  | error obstacle =>
    rw [resolved] at h
    cases obstacle with
    | stop why => cases h
    | bad why => cases h; exact .inl ⟨⟨rfl, rfl, rfl, .refl _⟩, rfl, .inr ⟨_, rfl⟩⟩
  | ok path =>
    rw [resolved] at h
    dsimp only at h
    cases fresh : shared.alreadyTaken c.lineage how path with
    | true => rw [fresh, if_pos rfl] at h; cases h; exact .inl ⟨⟨rfl, rfl, rfl, .refl _⟩, rfl, .inl rfl⟩
    | false =>
      rw [fresh, if_neg (by simp)] at h
      cases opened : site.openTarget path with
      | error obstacle =>
        rw [opened] at h
        cases obstacle with
        | stop why => cases h
        | bad why => cases h; exact .inl ⟨⟨rfl, rfl, rfl, .refl _⟩, rfl, .inr ⟨_, rfl⟩⟩
      | ok stream =>
        rw [opened] at h
        cases h
        have ⟨grows, nested⟩ :=
          nested_child stream (site.mem_files_of_resolve resolved) held fresh
        exact .inr ⟨rfl, grows, _, rfl, nested⟩

end Context

end Menu
