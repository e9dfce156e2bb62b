import Menu.Scope

/-!
# Regular scopes

In a file that is read for more than its lines, a line ends each block that a line began, and of the open
blocks only the innermost one may suppress anything: what would begin a block inside of a suppressed one is
suppressed as well.  `Scopes.Regular` says so.

Regular scopes do little to a directive (`apply_of_regular`), never touch the end of a block
(`apply_endBlock`), and let the beginning of a block pass only if nothing is suppressed
(`clear_of_apply_eq`), so that the scopes are regular with the new block as well (`Regular.push`).
-/

namespace Menu

/-- Whether a directive begins a block. -/
def Directive.opens : Directive → Bool
  | .ignoreWarnings => true
  | .ignoreText => true
  | .thenBlock => true
  | .elseBlock => true
  | _ => false

namespace Scopes

/-- Blocks that are all ended by a line, the innermost of which alone may suppress anything. -/
structure Regular (scopes : Scopes) : Prop where
  manual : ∀ s ∈ scopes, s.automatic = false ∧ s.rule ≠ .literal
  clear : Clear scopes.tail

namespace Regular

theorem nil : Regular [] := ⟨by simp, by simp [Clear]⟩

theorem pop {s : Scope} {scopes : Scopes} (h : Regular (s :: scopes)) : Regular scopes :=
  ⟨fun t m => h.manual t (List.mem_cons_of_mem _ m), fun t m => h.clear t (List.mem_of_mem_tail m)⟩

theorem tail {scopes : Scopes} (h : Regular scopes) : Regular scopes.tail := by
  cases scopes with
  | nil => exact nil
  | cons s outer => exact h.pop

theorem push {scopes : Scopes} {r : Rule} (h : Regular scopes) (clear : Clear scopes)
    (hr : r ≠ .literal) : Regular (⟨r, false⟩ :: scopes) :=
  ⟨by simpa [hr] using h.manual, clear⟩

end Regular

/-- What regular scopes may do to a directive: leave it, drop it, turn `else` around, or put warnings in the
place of `displayWarnings`. -/
theorem apply_of_regular {scopes : Scopes} (h : Regular scopes) (d : Directive) :
    apply scopes d = d ∨ apply scopes d = .noop ∨
      (∃ ws automatic outer, scopes = ⟨.thenBlock ws, automatic⟩ :: outer ∧ d = .elseBlock ∧
        apply scopes d = Rule.turn ws) ∨
      d = .displayWarnings ∧ ∃ ws : List String, apply scopes d = .multiple (ws.map .warning) := by
  cases scopes with
  | nil => exact .inl rfl
  | cons s outer =>
    have clear : Clear outer := h.clear
    rw [apply_cons]
    rcases Rule.apply_innermost s.rule d with e | e | ⟨ws, hr, hd, e⟩ | ⟨ws, hd, e⟩
    · rw [e]
      rcases applyOuter_of_clear clear d with o | ⟨_, o⟩ | ⟨_, o⟩ | ⟨hd, ws, o⟩
      · exact .inl o
      · exact .inr (.inl o)
      · exact .inr (.inl o)
      · exact .inr (.inr (.inr ⟨hd, ws, o⟩))
    · exact .inr (.inl (by rw [e, applyOuter_noop]))
    · refine .inr (.inr (.inl ⟨ws, s.automatic, outer, ?_, hd, ?_⟩))
      · rw [← hr]
      · rw [e, Rule.turn, applyOuter_multiple clear]
    · exact .inr (.inr (.inr ⟨hd, ws, by rw [e, applyOuter_multiple clear]⟩))

/-- The end of a block passes regular scopes. -/
theorem apply_endBlock {scopes : Scopes} (h : Regular scopes) (automatic : Bool) :
    apply scopes (.endBlock automatic) = .endBlock automatic := by
  cases scopes with
  | nil => rfl
  | cons s outer =>
    rw [apply_cons, Rule.apply_endBlock automatic (h.manual s List.mem_cons_self).2]
    rcases applyOuter_of_clear (show Clear outer from h.clear) (.endBlock automatic)
      with o | ⟨⟨_, e⟩, _⟩ | ⟨⟨_, e⟩, _⟩ | ⟨e, _⟩
    · exact o
    all_goals simp at e

/-- A directive that begins a block passes only if nothing is suppressed. -/
theorem clear_of_apply_eq {scopes : Scopes} (h : Regular scopes) {d : Directive}
    (opens : d.opens = true) (e : apply scopes d = d) : Clear scopes := by
  cases scopes with
  | nil => simp [Clear]
  | cons s outer =>
    have clear : Clear outer := h.clear
    have passed : s.rule.apply true d = d := by
      rw [apply_cons] at e
      rcases Rule.apply_innermost s.rule d with e' | e' | ⟨ws, hr, hd, e'⟩ | ⟨ws, hd, e'⟩
      · exact e'
      · rw [e', applyOuter_noop] at e; subst e; simp [Directive.opens] at opens
      · rw [e', Rule.turn, applyOuter_multiple clear] at e; subst e; simp at hd
      · subst hd; simp [Directive.opens] at opens
    intro t m
    rcases List.mem_cons.1 m with rfl | m
    · have lit := (h.manual t List.mem_cons_self).2
      revert passed lit
      cases t.rule <;> cases d <;> simp_all [Directive.opens, Rule.blocks, Rule.apply, Rule.turn,
        Directive.isStructural]
    · exact clear t m

end Scopes

end Menu
