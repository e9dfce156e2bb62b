import Menu.Directive
import Menu.Text.Quoted

/-!
# Scopes

A block of a document is a scope: a rule that changes the directives read inside of it.  Scopes are
kept innermost first, and a directive goes through all of them, from the innermost outwards, so that each
sees what the one inside of it made (`Scopes.apply`).

A rule that suppresses a block makes nothing of its directives.  Only two pass: the end of the file, and
the end of a block at the innermost scope, which is the end of the suppressed block itself.

A `then` block that meets `else` as the innermost scope closes itself and collects its warnings anew for
the block that `else` opens: it makes of the directive those that do so.
-/

namespace Menu

/-- The five ways a block changes the directives in it. -/
inductive Rule
  | ignoreWarnings
  | ignoreText
  /-- Only text, empty lines and the end of the file. -/
  | literal
  /-- What to do if no warning was collected. -/
  | thenBlock (warnings : List String)
  /-- What to do if there was one. -/
  | elseBlock (warnings : List String)
deriving DecidableEq, Repr

/-- A block that is open. -/
structure Scope where
  rule : Rule
  /-- Whether the block ends with its file and not with a line of its own. -/
  automatic : Bool := false
deriving DecidableEq, Repr

/-- The open blocks of a file, innermost first. -/
abbrev Scopes := List Scope

/-- Whether a suppressed block lets a directive through. -/
def Directive.isStructural (innermost : Bool) : Directive → Bool
  | .close => true
  | .endBlock _ => innermost
  | _ => false

/-- What may come of a directive: itself, nothing, or others. -/
inductive Directive.Yields (d : Directive) : Directive → Prop
  | same : Yields d d
  | nothing : Yields d .noop
  | others (ds : List Directive) : Yields d (.multiple ds)

theorem Directive.Yields.trans {d e f : Directive} (first : d.Yields e) (second : e.Yields f) : d.Yields f := by
  cases second with
  | same => exact first
  | nothing => exact .nothing
  | others ds => exact .others ds

namespace Rule

/-- What a `then` block that ends in `else` becomes: its end, a new watch with the same warnings, and the
`else` once more. -/
def turned (warnings : List String) : List Directive :=
  .endBlock false :: .watch :: (warnings.map .warning ++ [.elseBlock])

/-- The directive that turns a `then` block around. -/
def turn (warnings : List String) : Directive :=
  .multiple (turned warnings)

/-- What a rule makes of a directive; `innermost` says whether its scope is the innermost one. -/
def apply (innermost : Bool) : Rule → Directive → Directive
  | ignoreWarnings, d =>
    match d with
    | .warning _ => .noop
    | _ => d
  | ignoreText, d =>
    match d with
    | .text _ => .noop
    | _ => d
  | literal, d =>
    match d with
    | .close => d
    | .empty => d
    | .text _ => d
    | _ => .noop
  | thenBlock warnings, d =>
    match d, innermost with
    | .elseBlock, true => turn warnings
    | _, _ => if warnings.isEmpty || d.isStructural innermost then d else .noop
  | elseBlock warnings, d =>
    if warnings.isEmpty then if d.isStructural innermost then d else .noop
    else match d with
      | .displayWarnings => .multiple (warnings.map .warning)
      | _ => d

/-- Whether a rule suppresses the directives of its block. -/
def blocks : Rule → Bool
  | literal => true
  | thenBlock warnings => !warnings.isEmpty
  | elseBlock warnings => warnings.isEmpty
  | _ => false

/-- The name of a rule. -/
def name : Rule → String
  | ignoreWarnings => "ignore_warnings"
  | ignoreText => "ignore_text"
  | literal => "lines_only"
  | thenBlock _ => "then"
  | elseBlock _ => "else"

/-- The rules of a watch in words, with the warnings that they hold. -/
def describe? : Rule → Option String
  | thenBlock warnings => some ("ThenMapper(warnings=" ++ Text.quotedList warnings ++ ")")
  | elseBlock warnings => some ("ElseMapper(warnings=" ++ Text.quotedList warnings ++ ")")
  | _ => none

@[simp] theorem apply_noop (innermost : Bool) (r : Rule) : r.apply innermost .noop = .noop := by
  cases r <;> simp [apply]

/-- The end of a file passes every rule. -/
@[simp] theorem apply_close (innermost : Bool) (r : Rule) :
    r.apply innermost .close = .close := by
  cases r <;> simp [apply, Directive.isStructural]

/-- The end of a block passes the rule of the innermost scope. -/
theorem apply_endBlock {r : Rule} (automatic : Bool) (h : r ≠ .literal) :
    r.apply true (.endBlock automatic) = .endBlock automatic := by
  cases r <;> simp_all [apply, Directive.isStructural]

/-- What an outer rule that suppresses nothing may do to a directive: leave it, drop a warning or a text,
or put warnings in the place of `displayWarnings`. -/
theorem apply_of_not_blocks {r : Rule} (d : Directive) (h : r.blocks = false) :
    r.apply false d = d ∨ (∃ w, d = .warning w) ∧ r.apply false d = .noop ∨
      (∃ t, d = .text t) ∧ r.apply false d = .noop ∨
      d = .displayWarnings ∧ ∃ ws : List String, r.apply false d = .multiple (ws.map .warning) := by
  by_cases shown : d = .displayWarnings
  · subst shown
    cases r with
    | elseBlock ws => exact .inr (.inr (.inr ⟨rfl, ws, by simp_all [apply, blocks]⟩))
    | _ => exact .inl (by simp_all [apply, blocks, Directive.isStructural])
  · cases r <;> cases d <;> simp_all [apply, blocks]

/-- What the rule of the innermost scope may do to a directive: leave it, drop it, turn `else` around, or
put warnings in the place of `displayWarnings`. -/
theorem apply_innermost (r : Rule) (d : Directive) :
    r.apply true d = d ∨ r.apply true d = .noop ∨
      (∃ ws, r = .thenBlock ws ∧ d = .elseBlock ∧ r.apply true d = turn ws) ∨
      ∃ ws : List String, d = .displayWarnings ∧ r.apply true d = .multiple (ws.map .warning) := by
  cases r <;> cases d <;> simp [apply] <;> grind

/-- A rule leaves a directive, drops it, or puts others in its place. -/
theorem yields_apply (innermost : Bool) (r : Rule) (d : Directive) : d.Yields (r.apply innermost d) := by
  have given : r.apply innermost d = d ∨ r.apply innermost d = .noop ∨ ∃ ds, r.apply innermost d = .multiple ds := by
    cases r with
    | elseBlock warnings => cases d <;> simp [apply] <;> grind
    | thenBlock warnings => cases innermost <;> cases d <;> simp [apply, turn] <;> grind
    | _ => cases d <;> simp [apply]
  rcases given with e | e | ⟨ds, e⟩
  · rw [e]; exact .same
  · rw [e]; exact .nothing
  · rw [e]; exact .others ds

end Rule

namespace Scopes

/-- What scopes that are not the innermost one make of a directive. -/
def applyOuter (scopes : Scopes) (d : Directive) : Directive :=
  scopes.foldl (fun d s => s.rule.apply false d) d

/-- What the open scopes make of a directive. -/
def apply : Scopes → Directive → Directive
  | [], d => d
  | s :: outer, d => applyOuter outer (s.rule.apply true d)

/-- The names of the scopes, innermost first. -/
def names (scopes : Scopes) : List String :=
  scopes.map (·.rule.name)

@[simp] theorem applyOuter_nil (d : Directive) : applyOuter [] d = d := rfl

@[simp] theorem applyOuter_cons (s : Scope) (scopes : Scopes) (d : Directive) :
    applyOuter (s :: scopes) d = applyOuter scopes (s.rule.apply false d) := rfl

@[simp] theorem apply_nil (d : Directive) : apply [] d = d := rfl

@[simp] theorem apply_cons (s : Scope) (outer : Scopes) (d : Directive) :
    apply (s :: outer) d = applyOuter outer (s.rule.apply true d) := rfl

@[simp] theorem applyOuter_noop (scopes : Scopes) : applyOuter scopes .noop = .noop := by
  induction scopes <;> simp_all

@[simp] theorem applyOuter_close (scopes : Scopes) : applyOuter scopes .close = .close := by
  induction scopes <;> simp_all

/-- The end of a file passes all scopes. -/
@[simp] theorem apply_close (scopes : Scopes) : apply scopes .close = .close := by
  cases scopes <;> simp

theorem yields_applyOuter (scopes : Scopes) (d : Directive) : d.Yields (applyOuter scopes d) := by
  induction scopes generalizing d with
  | nil => exact .same
  | cons s scopes ih => exact (s.rule.yields_apply false d).trans (ih _)

/-- So do scopes. -/
theorem yields_apply (scopes : Scopes) (d : Directive) : d.Yields (apply scopes d) := by
  cases scopes with
  | nil => exact .same
  | cons s outer => exact (s.rule.yields_apply true d).trans (yields_applyOuter outer _)

/-- A single directive that comes out of scopes is the one that went in. -/
theorem eq_of_apply {scopes : Scopes} {d out : Directive} (h : apply scopes d = out) (some : out ≠ .noop)
    (single : ∀ ds, out ≠ .multiple ds) : d = out := by
  have yields := yields_apply scopes d
  rw [h] at yields
  cases yields with
  | same => rfl
  | nothing => exact absurd rfl some
  | others ds => exact absurd rfl (single ds)

/-- Scopes none of which suppresses anything. -/
def Clear (scopes : Scopes) : Prop :=
  ∀ s ∈ scopes, s.rule.blocks = false

theorem Clear.tail {s : Scope} {scopes : Scopes} (h : Clear (s :: scopes)) : Clear scopes :=
  fun t m => h t (List.mem_cons_of_mem _ m)

theorem Clear.head {s : Scope} {scopes : Scopes} (h : Clear (s :: scopes)) :
    s.rule.blocks = false :=
  h s List.mem_cons_self

theorem applyOuter_multiple {scopes : Scopes} (h : Clear scopes) (ds : List Directive) :
    applyOuter scopes (.multiple ds) = .multiple ds := by
  induction scopes with
  | nil => rfl
  | cons s scopes ih =>
    rcases Rule.apply_of_not_blocks (.multiple ds) h.head with e | e | e | e
    · rw [applyOuter_cons, e, ih h.tail]
    all_goals simp at e

/-- What outer scopes that suppress nothing may do to a directive. -/
theorem applyOuter_of_clear {scopes : Scopes} (h : Clear scopes) (d : Directive) :
    applyOuter scopes d = d ∨ (∃ w, d = .warning w) ∧ applyOuter scopes d = .noop ∨
      (∃ t, d = .text t) ∧ applyOuter scopes d = .noop ∨
      d = .displayWarnings ∧
        ∃ ws : List String, applyOuter scopes d = .multiple (ws.map .warning) := by
  induction scopes with
  | nil => exact .inl rfl
  | cons s scopes ih =>
    rcases Rule.apply_of_not_blocks d h.head with e | ⟨k, e⟩ | ⟨k, e⟩ | ⟨k, ws, e⟩
    · rw [applyOuter_cons, e]; exact ih h.tail
    · exact .inr (.inl ⟨k, by rw [applyOuter_cons, e, applyOuter_noop]⟩)
    · exact .inr (.inr (.inl ⟨k, by rw [applyOuter_cons, e, applyOuter_noop]⟩))
    · exact .inr (.inr (.inr ⟨k, ws, by rw [applyOuter_cons, e, applyOuter_multiple h.tail]⟩))

end Scopes

end Menu
