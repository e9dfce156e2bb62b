import Menu.Scope

/-!
# What open blocks make of a directive

Each of the open blocks sees what the one inside of it made of a directive.  In the end this comes to little: a
directive passes all of them, or one of them drops it, or one of them puts others in its place and all that are
further out let these pass.  Which of them it is can be told without going through them one by one.

* `Scopes.applyOuter_of_drops`: a directive that each rule leaves or drops is dropped if one of them drops it.
* `Scopes.applyOuter_displayWarnings`: the innermost `else` block with warnings has its warnings shown.
* `Scopes.apply_eq`: what comes of each directive, in closed form.
-/

namespace Menu

/-- Whether every rule leaves a directive or drops it, wherever its block stands. -/
def Directive.isOrdinary : Directive → Bool
  | .close => false
  | .endBlock _ => false
  | .elseBlock => false
  | .displayWarnings => false
  | _ => true

/-- Whether a directive ends a block, turns it around, or stands for others. -/
def Directive.endsOrReplaces : Directive → Bool
  | .endBlock _ => true
  | .elseBlock => true
  | .multiple _ => true
  | _ => false

/-! ## One rule -/

namespace Rule

/-- Whether a rule makes nothing of a directive when it is alone. -/
def drops (d : Directive) (r : Rule) : Bool :=
  match r.apply true d with
  | .noop => true
  | _ => false

/-- The warnings that a rule puts in the place of `displayWarnings`. -/
def shown? : Rule → Option (List String)
  | elseBlock (w :: ws) => some (w :: ws)
  | _ => none

/-- Whatever its place, a rule leaves an ordinary directive or drops it. -/
theorem apply_of_isOrdinary (innermost : Bool) (r : Rule) {d : Directive} (ordinary : d.isOrdinary = true) :
    r.apply innermost d = if r.drops d then .noop else d := by
  cases r with
  | thenBlock ws => cases d <;> cases innermost <;> cases ws <;> first | rfl | cases ordinary
  | elseBlock ws => cases d <;> cases innermost <;> cases ws <;> first | rfl | cases ordinary
  | _ => cases d <;> rfl

/-- Further out, directives that end or replace something pass what does not suppress its block. -/
theorem apply_outer_of_endsOrReplaces (r : Rule) {d : Directive} (passing : d.endsOrReplaces = true) :
    r.apply false d = if r.blocks then .noop else d := by
  cases r with
  | thenBlock ws => cases d <;> cases ws <;> first | rfl | cases passing
  | elseBlock ws => cases d <;> cases ws <;> first | rfl | cases passing
  | _ => cases d <;> first | rfl | cases passing

/-- Whatever its place, a rule drops `displayWarnings`, puts its warnings there, or leaves it. -/
theorem apply_displayWarnings (innermost : Bool) (r : Rule) :
    r.apply innermost .displayWarnings =
      if r.blocks then .noop
      else match r.shown? with
        | some ws => .multiple (ws.map .warning)
        | none => .displayWarnings := by
  cases r with
  | thenBlock ws => cases ws <;> rfl
  | elseBlock ws => cases ws <;> rfl
  | _ => rfl

/-- The innermost block lets its own end pass, unless it is meant for lines only. -/
theorem apply_innermost_endBlock (r : Rule) (automatic : Bool) :
    r.apply true (.endBlock automatic) = if r = .literal then .noop else .endBlock automatic := by
  cases r with
  | thenBlock ws => cases ws <;> rfl
  | elseBlock ws => cases ws <;> rfl
  | _ => rfl

end Rule

namespace Scopes

variable {d : Directive}

/-- Whether one of the blocks suppresses what is in it. -/
def anyBlocks (scopes : Scopes) : Bool :=
  scopes.any (·.rule.blocks)

/-- The warnings of the innermost block, if it is a `then` block. -/
def thenWarnings? : Scopes → Option (List String)
  | ⟨.thenBlock ws, _⟩ :: _ => some ws
  | _ => none

/-- The warnings of the innermost `else` block that has any. -/
def elseWarnings? (scopes : Scopes) : Option (List String) :=
  scopes.findSome? (·.rule.shown?)

/-- A directive that each rule leaves or drops is dropped if one of them drops it. -/
theorem applyOuter_of_drops {drops : Rule → Bool} (h : ∀ r : Rule, r.apply false d = if drops r then .noop else d)
    (scopes : Scopes) : applyOuter scopes d = if scopes.any (drops ·.rule) then .noop else d := by
  induction scopes with
  | nil => rfl
  | cons s scopes ih =>
    rw [applyOuter_cons, h, List.any_cons]
    cases drops s.rule with
    | true => exact applyOuter_noop scopes
    | false => exact ih

/-- What ends or replaces something, as an inner block may do with a directive, may be dropped further out. -/
theorem applyOuter_of_endsOrReplaces (scopes : Scopes) (passing : d.endsOrReplaces = true) :
    applyOuter scopes d = if scopes.anyBlocks then .noop else d :=
  applyOuter_of_drops (fun r => r.apply_outer_of_endsOrReplaces passing) scopes

/-- The innermost `else` block with warnings has its warnings shown, unless something is suppressed. -/
theorem applyOuter_displayWarnings (scopes : Scopes) :
    applyOuter scopes .displayWarnings =
      if scopes.anyBlocks then .noop
      else match scopes.elseWarnings? with
        | some ws => .multiple (ws.map .warning)
        | none => .displayWarnings := by
  induction scopes with
  | nil => rfl
  | cons s scopes ih =>
    rw [applyOuter_cons, Rule.apply_displayWarnings, anyBlocks, List.any_cons, elseWarnings?, List.findSome?_cons]
    cases s.rule.blocks with
    | true => exact applyOuter_noop scopes
    | false =>
      cases s.rule.shown? with
      | none => exact ih
      | some ws => exact applyOuter_of_endsOrReplaces scopes rfl

/-! ## All blocks -/

theorem apply_endBlock_eq (scopes : Scopes) (automatic : Bool) :
    apply scopes (.endBlock automatic) =
      if scopes.any (·.rule = .literal) ∨ anyBlocks scopes.tail then .noop else .endBlock automatic := by
  cases scopes with
  | nil => rfl
  | cons s outer =>
    rw [apply_cons, Rule.apply_innermost_endBlock, List.tail_cons, List.any_cons]
    by_cases literal : s.rule = .literal
    · simp [literal]
    · -- further out, a block for lines is one of those that suppress what is in them
      have covered : outer.any (·.rule = .literal) = true → anyBlocks outer = true := fun further => by
        obtain ⟨t, mem, same⟩ := List.any_eq_true.1 further
        exact List.any_eq_true.2 ⟨t, mem, by simp [of_decide_eq_true same, Rule.blocks]⟩
      rw [if_neg literal, applyOuter_of_endsOrReplaces outer rfl]
      cases outermost : anyBlocks outer <;> simp_all

theorem apply_elseBlock_eq (scopes : Scopes) :
    apply scopes .elseBlock =
      match scopes.thenWarnings? with
      | some ws =>
        if anyBlocks scopes.tail then .noop
        else .multiple ([.endBlock false, .watch] ++ ws.map .warning ++ [.elseBlock])
      | none => if scopes.anyBlocks then .noop else .elseBlock := by
  cases scopes with
  | nil => rfl
  | cons s outer =>
    obtain ⟨rule, automatic⟩ := s
    have passes := applyOuter_of_endsOrReplaces (d := .elseBlock) (⟨rule, automatic⟩ :: outer) rfl
    cases rule with
    | thenBlock ws => exact applyOuter_of_endsOrReplaces (d := .multiple (Rule.turned ws)) outer rfl
    | _ => exact passes

theorem apply_displayWarnings_eq (scopes : Scopes) :
    apply scopes .displayWarnings =
      if scopes.anyBlocks then .noop
      else match scopes.elseWarnings? with
        | some ws => .multiple (ws.map .warning)
        | none => .displayWarnings := by
  cases scopes with
  | nil => rfl
  | cons s outer =>
    rw [← applyOuter_displayWarnings, apply_cons, applyOuter_cons, Rule.apply_displayWarnings,
      Rule.apply_displayWarnings]

theorem apply_of_isOrdinary (scopes : Scopes) (ordinary : d.isOrdinary = true) :
    apply scopes d = if scopes.any (·.rule.drops d) then .noop else d := by
  cases scopes with
  | nil => rfl
  | cons s outer =>
    rw [← applyOuter_of_drops (fun r => r.apply_of_isOrdinary false ordinary), apply_cons, applyOuter_cons,
      Rule.apply_of_isOrdinary _ _ ordinary, Rule.apply_of_isOrdinary _ _ ordinary]

/-- **What the open blocks make of a directive**, told by the innermost block, by what suppresses something, and for
most directives by what each rule makes of it alone.  The end of a file passes.  The end of a block passes unless the
file is read for its lines or a block further out is suppressed.  An `else` turns an innermost `then` block around, and
`displayWarnings` has the warnings of the innermost `else` block shown that has any, if nothing around suppresses it. -/
theorem apply_eq (scopes : Scopes) (d : Directive) :
    scopes.apply d =
      match d with
      | .close => .close
      | .endBlock automatic =>
        if scopes.any (·.rule = .literal) ∨ anyBlocks scopes.tail then .noop else .endBlock automatic
      | .elseBlock =>
        match scopes.thenWarnings? with
        | some ws =>
          if anyBlocks scopes.tail then .noop
          else .multiple ([.endBlock false, .watch] ++ ws.map .warning ++ [.elseBlock])
        | none => if scopes.anyBlocks then .noop else .elseBlock
      | .displayWarnings =>
        if scopes.anyBlocks then .noop
        else match scopes.elseWarnings? with
          | some ws => .multiple (ws.map .warning)
          | none => .displayWarnings
      | d => if scopes.any (·.rule.drops d) then .noop else d := by
  cases d with
  | close => exact apply_close scopes
  | endBlock automatic => exact apply_endBlock_eq scopes automatic
  | elseBlock => exact apply_elseBlock_eq scopes
  | displayWarnings => exact apply_displayWarnings_eq scopes
  | _ => exact apply_of_isOrdinary scopes rfl

/-- What turns a `then` block around is dropped in a suppressed `else` block around it. -/
example : apply [⟨.thenBlock ["w"], false⟩, ⟨.ignoreText, false⟩, ⟨.elseBlock [], false⟩] .elseBlock = .noop := rfl

end Scopes

end Menu
