import Menu.Scope.Regular

/-!
# Replays

What the blocks of a file and its inclusions give it to read again is a replay: warnings, watches and ends of
blocks, and at the end of it all perhaps one `else`.

A replay takes a number of steps that is known beforehand (`replayCost`).  Its `else` may call for another
replay, and then the block that is turned around goes, whose weight is more than what is new.
-/

namespace Menu

/-- What turning a block around takes, and more. -/
def Rule.weight : Rule → Nat
  | .thenBlock warnings => warnings.length + 4
  | _ => 0

/-- The weight of all open blocks. -/
def Scopes.weight (scopes : Scopes) : Nat :=
  scopes.foldr (fun s total => s.rule.weight + total) 0

/-- Directives that a file is given to read again. -/
inductive Replay : List Directive → Prop
  | nil : Replay []
  | elseBlock : Replay [.elseBlock]
  | warning {ds : List Directive} (text : String) : Replay ds → Replay (.warning text :: ds)
  | watch {ds : List Directive} : Replay ds → Replay (.watch :: ds)
  | endBlock {ds : List Directive} : Replay ds → Replay (.endBlock false :: ds)

namespace Replay

theorem warnings (ws : List String) {ds : List Directive} (h : Replay ds) :
    Replay (ws.map .warning ++ ds) := by
  induction ws with
  | nil => exact h
  | cons w ws ih => exact .warning w ih

theorem turned (ws : List String) : Replay (Rule.turned ws) :=
  .endBlock (.watch (.warnings ws .elseBlock))

end Replay

/-- The number of steps that a replay takes at most. -/
def replayCost (scopes : Scopes) : List Directive → Nat
  | [] => 0
  | .endBlock _ :: ds => replayCost scopes.tail ds + 1
  | .elseBlock :: ds => replayCost scopes ds + scopes.weight + 1
  | _ :: ds => replayCost scopes ds + 1

theorem replayCost_warnings (scopes : Scopes) (ws : List String) (ds : List Directive) :
    replayCost scopes (ws.map .warning ++ ds) = ws.length + replayCost scopes ds := by
  induction ws with
  | nil => simp
  | cons w ws ih =>
    simp only [List.map_cons, List.cons_append, replayCost, ih, List.length_cons]
    omega

/-- Turning a block around is taken into account by its weight. -/
theorem replayCost_turned (ws : List String) (automatic : Bool) (outer : Scopes) :
    replayCost (⟨.thenBlock ws, automatic⟩ :: outer) (Rule.turned ws) <
      replayCost (⟨.thenBlock ws, automatic⟩ :: outer) [.elseBlock] := by
  simp only [Rule.turned, replayCost, replayCost_warnings, Scopes.weight, List.tail_cons, List.foldr_cons,
    Rule.weight]
  omega

end Menu
