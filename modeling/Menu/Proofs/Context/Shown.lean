import Menu.Proofs.Context.Reactions

/-!
# What a directive shows

A directive shows little.  `Context.Shows` lists the entries, each with the directive that shows it, and
`shows_of_react` says that there are no others.  Where an entry comes from and which command it carries is read off
from there.
-/

namespace Menu.Context

variable {site : Site} {depth : Nat} {shared : Shared} {c : Context} {position : Int} {d : Directive}
  {r : Reaction} {entries : List Entry}

/-- What may be shown by a directive that was read at a position. -/
inductive Shows (c : Context) (shared : Shared) (position : Int) : Directive → List Entry → Prop
  | nothing (d : Directive) : Shows c shared position d []
  | warned (d : Directive) (text : String) : Shows c shared position d [c.warningEntry position text]
  | empty : Shows c shared position .empty [⟨"", c.path, position, .normal, {}⟩]
  | subtitle (text : String) : Shows c shared position (.subtitle text) [⟨text, c.path, position, .title, {}⟩]
  | text (text : String) :
    Shows c shared position (.text text) [⟨text, c.path, position, .normal, shared.cells.get c.cell⟩]
  | left :
    c.watch.running = true →
    Shows c shared position .close
      (("watch was not closed by then or else before end of file" :: c.watch.warnings).map
        (c.warningEntry c.reader.position))

theorem entriesOf_leaving_asleep (asleep : c.watch.running = false) : entriesOf (c.leaving depth) = [] := by
  rw [entriesOf_leaving_eq, flush, Watch.stop?, asleep]
  rfl

theorem shows_of_leaving (c : Context) (shared : Shared) (position : Int) (depth : Nat) :
    c.Shows shared position .close (entriesOf (c.leaving depth)) := by
  cases running : c.watch.running with
  | true => rw [entriesOf_leaving running]; exact .left running
  | false => rw [entriesOf_leaving_asleep running]; exact .nothing _

theorem shows_of_endBlock (c : Context) (shared : Shared) (position : Int) (automatic : Bool) :
    c.Shows shared position (.endBlock automatic) (entriesOf (c.endBlock shared position automatic).events) := by
  unfold endBlock
  repeat' split
  · exact .warned _ _
  · exact .nothing _
  · exact .warned _ _
  · exact .warned _ _

theorem shows_of_resolveWatch (c : Context) (shared : Shared) (position : Int) (d : Directive)
    (rule : List String → Rule) (complaint : String) :
    c.Shows shared position d (entriesOf (c.resolveWatch shared position rule complaint).events) := by
  unfold resolveWatch
  split
  · exact .warned _ _
  · exact .nothing _

/-- Nothing else is shown. -/
theorem shows_of_react (h : c.react site depth shared position d = .ok r) :
    c.Shows shared position d (entriesOf r.events) := by
  cases d with
  | empty => cases h; exact .empty
  | subtitle text => cases h; exact .subtitle text
  | text text => cases h; exact .text text
  | close => cases h; exact shows_of_leaving c shared position depth
  | endBlock automatic => cases h; exact shows_of_endBlock c shared position automatic
  | thenBlock => cases h; exact shows_of_resolveWatch c shared position _ _ _
  | elseBlock => cases h; exact shows_of_resolveWatch c shared position _ _ _
  | displayWarnings => cases h; exact .warned _ _
  | warning text =>
    simp only [react] at h
    split at h <;> cases h
    · exact .nothing _
    · exact .warned _ _
  | watch =>
    simp only [react] at h
    split at h <;> cases h
    · exact .nothing _
    · exact .warned _ _
  | inclusion how target =>
    simp only [react, includeFile] at h
    repeat' split at h
    all_goals cases h
    · exact .nothing _
    · cases how <;> exact .nothing _
    · exact .nothing _
    · exact .nothing _
  | _ =>
    simp only [react] at h
    repeat' split at h
    all_goals cases h
    all_goals exact .nothing _

namespace Shows

/-- Every entry comes from the file, and from where the directive was read or from where the file is left. -/
theorem from_file (shows : c.Shows shared position d entries) :
    ∀ e ∈ entries, e.source = c.path ∧
      (e.position = position ∨ d = .close ∧ c.watch.running = true ∧ e.position = c.reader.position) := by
  cases shows with
  | nothing => exact List.forall_mem_nil _
  | left running =>
    intro e mem
    obtain ⟨text, -, rfl⟩ := List.mem_map.1 mem
    exact ⟨rfl, .inr ⟨rfl, running, rfl⟩⟩
  | _ => exact List.forall_mem_singleton.2 ⟨rfl, .inl rfl⟩

/-- Only the entry of a text carries a command. -/
theorem command (shows : c.Shows shared position d entries) (other : ∀ text, d ≠ .text text) :
    ∀ e ∈ entries, e.command = {} := by
  cases shows with
  | nothing => exact List.forall_mem_nil _
  | text text => exact absurd rfl (other text)
  | left running =>
    intro e mem
    obtain ⟨text, -, rfl⟩ := List.mem_map.1 mem
    rfl
  | _ => exact List.forall_mem_singleton.2 rfl

end Shows

end Menu.Context
