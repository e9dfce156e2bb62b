import Menu.Proofs.Context.Reactions

/-!
# What a directive does to commands

The files of a build share commands.  A directive creates a command for its file, gives one more argument to the
command of its file, or leaves all commands as they are.

* `commands_of_react`: what becomes of the commands if no file is put on top.
* `commands_of_child`: the command that a file has when it is put on top.
* `Scopes.literal_cases` and `shared_eq_of_literal`: a file that is read for its lines changes nothing that is shared.
-/

namespace Menu

/-- An argument that a line gives to the command of its file. -/
inductive Argument
  | before (arg : String)
  | after (arg : String)
deriving DecidableEq, Repr

namespace Argument

/-- A command with one more argument. -/
def addTo : Argument → Template → Template
  | before arg, t => t.addBefore arg
  | after arg, t => t.addAfter arg

/-- An argument before the text of a line. -/
def before? : Argument → Option String
  | before arg => some arg
  | after _ => none

/-- An argument after the text of a line. -/
def after? : Argument → Option String
  | before _ => none
  | after arg => some arg

end Argument

/-- The argument that a directive gives. -/
def Directive.argument? : Directive → Option Argument
  | .before arg => some (.before arg)
  | .after arg => some (.after arg)
  | _ => none

namespace Template

/-- The command that was given these arguments, one after the other. -/
def ofArguments (args : List Argument) : Template :=
  ⟨args.filterMap Argument.before?, args.filterMap Argument.after?⟩

theorem ofArguments_concat (args : List Argument) (a : Argument) :
    ofArguments (args ++ [a]) = a.addTo (ofArguments args) := by
  cases a <;> simp [ofArguments, Argument.addTo, addBefore, addAfter, Argument.before?, Argument.after?]

/-- The arguments of `u` are those of `t` and perhaps more behind them. -/
structure Extends (t u : Template) : Prop where
  before : t.before <+: u.before
  after : t.after <+: u.after

namespace Extends

variable {t u : Template}

theorem refl (t : Template) : t.Extends t :=
  ⟨List.prefix_rfl, List.prefix_rfl⟩

theorem addTo (extends_ : t.Extends u) (a : Argument) : t.Extends (a.addTo u) := by
  cases a with
  | before arg => exact ⟨extends_.before.trans (List.prefix_append _ _), extends_.after⟩
  | after arg => exact ⟨extends_.before, extends_.after.trans (List.prefix_append _ _)⟩

end Extends

end Template

/-! ## Files that are read for their lines -/

/-- The block of such a file lets texts, empty lines and the end of the file pass, and nothing else. -/
theorem Scopes.literal_cases (d : Directive) :
    apply [⟨.literal, true⟩] d = d ∧ (d = .close ∨ d = .empty ∨ ∃ text, d = .text text) ∨
      apply [⟨.literal, true⟩] d = .noop ∧ d ≠ .close ∧ d ≠ .empty ∧ ∀ text, d ≠ .text text := by
  cases d <;> simp [Rule.apply]

namespace Context

variable {site : Site} {depth : Nat} {shared : Shared} {c : Context} {position : Int} {d : Directive}
  {r : Reaction}

/-- In a file that is read for its lines, a directive changes nothing that is shared. -/
theorem shared_eq_of_literal (literal : c.scopes = [⟨.literal, true⟩])
    (h : c.react site depth shared position (c.scopes.apply d) = .ok r) : r.shared = shared := by
  rw [literal] at h
  rcases Scopes.literal_cases d with ⟨passed, kinds⟩ | ⟨dropped, -⟩
  · rw [passed] at h
    rcases kinds with rfl | rfl | ⟨text, rfl⟩ <;> cases h <;> rfl
  · rw [dropped] at h
    cases h
    rfl

/-! ## Commands -/

/-- What may become of the command of a file, and of all commands, by a directive. -/
inductive Commands (c : Context) (cells : Pool Template) : Directive → Handle → Pool Template → Prop
  | same {d : Directive} : d ≠ .clean → d.argument? = none → Commands c cells d c.cell cells
  | clean : Commands c cells .clean (cells.add {}).2 (cells.add {}).1
  | argument {d : Directive} {a : Argument} :
    d.argument? = some a → Commands c cells d c.cell (cells.modify c.cell a.addTo)

theorem shared_endBlock (shared : Shared) (c : Context) (position : Int) (automatic : Bool) :
    (c.endBlock shared position automatic).shared = shared ∧
      (c.endBlock shared position automatic).context.cell = c.cell := by
  unfold endBlock
  repeat' split
  all_goals exact ⟨rfl, rfl⟩

theorem shared_resolveWatch (shared : Shared) (c : Context) (position : Int) (rule : List String → Rule)
    (complaint : String) :
    (c.resolveWatch shared position rule complaint).shared = shared ∧
      (c.resolveWatch shared position rule complaint).context.cell = c.cell := by
  unfold resolveWatch
  split <;> exact ⟨rfl, rfl⟩

/-- A directive that puts no file on top changes no other command than that of its file. -/
theorem commands_of_react (h : c.react site depth shared position d = .ok r)
    (moves : ∀ child, r.move ≠ .enter child) :
    c.Commands shared.cells d r.context.cell r.shared.cells := by
  have same : ∀ {r : Reaction}, r.shared = shared ∧ r.context.cell = c.cell → d ≠ .clean →
      d.argument? = none → c.Commands shared.cells d r.context.cell r.shared.cells := by
    rintro r ⟨kept, cell⟩ other none
    rw [kept, cell]
    exact .same other none
  cases d with
  | clean => cases h; exact .clean
  | before arg => cases h; exact .argument (a := .before arg) rfl
  | after arg => cases h; exact .argument (a := .after arg) rfl
  | endBlock automatic => cases h; exact same (shared_endBlock shared c position automatic) (by simp) rfl
  | thenBlock => cases h; exact same (shared_resolveWatch shared c position _ _) (by simp) rfl
  | elseBlock => cases h; exact same (shared_resolveWatch shared c position _ _) (by simp) rfl
  | inclusion how target =>
    simp only [react, includeFile] at h
    repeat' split at h
    all_goals cases h
    · exact .same (by simp) rfl
    · exact .same (by simp) rfl
    · exact .same (by simp) rfl
    · exact absurd rfl (moves _)
  | _ =>
    simp only [react] at h
    repeat' split at h
    all_goals cases h
    all_goals exact .same (by simp) rfl

/-- An imported file has a command of its own, and any other the one of the file that includes it. -/
theorem commands_of_child (c : Context) (shared : Shared) (how : Inclusion) (file : Path) (stream : Stream) :
    (how = .importing ∧ (c.child shared how file stream).1.cell = (shared.cells.add {}).2 ∧
        (c.child shared how file stream).2.cells = (shared.cells.add {}).1) ∨
      (how ≠ .importing ∧ (c.child shared how file stream).1.cell = c.cell ∧
        (c.child shared how file stream).2.cells = shared.cells) := by
  cases how with
  | importing => exact .inl ⟨rfl, rfl, rfl⟩
  | sourcing => exact .inr ⟨by simp, rfl, rfl⟩
  | lines => exact .inr ⟨by simp, rfl, rfl⟩

end Context

end Menu
