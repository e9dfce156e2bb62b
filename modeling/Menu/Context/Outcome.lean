import Menu.Context.Progress

/-!
# Outcomes

What becomes of a file that is read for more than its lines.  A line of it makes the file be left, leaves it
on top with regular scopes, or puts another file on top of it (`outcome_of_line`).  A directive that it was
given to read again always leaves it on top, and with less to read again (`steady_of_replay`).
-/

namespace Menu

theorem Reader.pending_pushBack (r : Reader) (position : Int) (ds : List Directive) :
    (r.pushBack position ds).pending.map Prod.snd = ds ++ r.pending.map Prod.snd := by
  simp [Reader.pushBack, Function.comp_def]

namespace Context

variable {site : Site} {depth : Nat} {shared : Shared} {c : Context} {position : Int} {d : Directive}
  {r : Reaction}

/-- What becomes of a file when a line of it was read. -/
inductive Outcome (files : List Path) (c : Context) (shared : Shared) (r : Reaction) : Prop
  | leaves : r.move = .leave → shared.Grows r.shared → Outcome files c shared r
  | stays : c.Steady shared r → r.context.Regular → Outcome files c shared r
  | enters (child : Context) :
    r.move = .enter child → r.context = c → shared.Grows r.shared →
    c.Nested files shared r.shared child → Outcome files c shared r

/-- Other directives put in the place of one are read next. -/
theorem react_multiple (ds : List Directive)
    (h : c.react site depth shared position (.multiple ds) = .ok r) :
    c.Steady shared r ∧ r.context.scopes = c.scopes ∧
      r.context.reader.pending.map Prod.snd = ds ++ c.reader.pending.map Prod.snd := by
  cases h
  exact ⟨⟨rfl, rfl, rfl, .refl _⟩, rfl, c.reader.pending_pushBack position ds⟩

theorem outcome_of_line (regular : c.scopes.Regular) (empty : c.reader.pending = [])
    (held : shared.lineages.Holds c.lineage) (written : d.isWritten = true)
    (h : c.react site depth shared position (c.scopes.apply d) = .ok r) :
    c.Outcome site.tree.files shared r := by
  have still : ∀ {r : Reaction}, r.context.scopes.Regular → r.context.reader = c.reader →
      r.context.Regular := fun scopes reader => ⟨scopes, by simp [reader, empty, Replay.nil]⟩
  have quiet : ∀ {d : Directive}, d.isQuiet = true → c.react site depth shared position d = .ok r →
      c.Outcome site.tree.files shared r := fun q h =>
    have ⟨steady, scopes, reader⟩ := react_of_isQuiet q h
    .stays steady (still (scopes ▸ regular) reader)
  have replay : ∀ {ds : List Directive}, Replay ds →
      c.react site depth shared position (.multiple ds) = .ok r →
      c.Outcome site.tree.files shared r := fun p h =>
    have ⟨steady, scopes, pending⟩ := react_multiple _ h
    .stays steady ⟨scopes ▸ regular, by simpa [pending, empty] using p⟩
  rcases Scopes.apply_of_regular regular d with e | e | ⟨ws, _, _, _, _, e⟩ | ⟨_, ws, e⟩
  · have passed := e
    rw [e] at h
    cases opens : d.opens with
    | true =>
      have ⟨steady, reader, scopes⟩ := react_of_opens opens h
      refine .stays steady (still ?_ reader)
      rcases scopes with e | ⟨rule, other, e⟩
      · exact e ▸ regular
      · exact e ▸ regular.push (Scopes.clear_of_apply_eq regular opens passed) other
    | false =>
      cases d with
      | close => cases h; exact .leaves rfl (.refl _)
      | inclusion how target =>
        rcases includeFile_cases held h with ⟨steady, scopes, reader⟩ | ⟨same, grows, child, moves, nested⟩
        · refine .stays steady ?_
          rcases reader with reader | ⟨w, reader⟩
          · exact still (scopes ▸ regular) reader
          · exact ⟨scopes ▸ regular, by
              rw [reader, Reader.pending_pushBack, empty]; exact .warning w .nil⟩
        · exact .enters child moves same grows nested
      | endBlock automatic =>
        cases h
        have ⟨steady, reader, scopes⟩ :=
          steady_of_endBlock shared c position automatic
        refine .stays steady (still ?_ reader)
        rcases scopes with e | e
        · exact e ▸ regular
        · exact e ▸ regular.tail
      | multiple ds => cases written
      | ignoreWarnings => cases opens
      | ignoreText => cases opens
      | thenBlock => cases opens
      | elseBlock => cases opens
      | _ => exact quiet rfl h
  · exact quiet rfl (e ▸ h)
  · rw [e, Rule.turn] at h
    exact replay (.turned ws) h
  · have p := Replay.warnings ws .nil
    rw [List.append_nil] at p
    exact replay p (e ▸ h)

/-- A directive that is read again leaves less to read again. -/
theorem steady_of_replay (regular : c.scopes.Regular)
    (again : Replay (d :: c.reader.pending.map Prod.snd))
    (h : c.react site depth shared position (c.scopes.apply d) = .ok r) :
    c.Steady shared r ∧ r.context.Regular ∧
      r.context.cost < replayCost c.scopes (d :: c.reader.pending.map Prod.snd) := by
  generalize e : c.reader.pending.map Prod.snd = rest at again
  have still : c.Steady shared r → r.context.reader = c.reader → r.context.scopes.Regular →
      Replay rest → replayCost r.context.scopes rest < replayCost c.scopes (d :: rest) →
      c.Steady shared r ∧ r.context.Regular ∧ r.context.cost < replayCost c.scopes (d :: rest) :=
    fun steady reader scopes p lt =>
      ⟨steady, ⟨scopes, by rw [reader, e]; exact p⟩, by rw [cost, reader, e]; exact lt⟩
  have quiet : ∀ {d' : Directive}, d'.isQuiet = true →
      c.react site depth shared position d' = .ok r → Replay rest →
      replayCost c.scopes rest < replayCost c.scopes (d :: rest) →
      c.Steady shared r ∧ r.context.Regular ∧ r.context.cost < replayCost c.scopes (d :: rest) :=
    fun q h p lt => by
      obtain ⟨steady, scopes, reader⟩ := react_of_isQuiet q h
      exact still steady reader (scopes ▸ regular) p (by rw [scopes]; exact lt)
  have cases := Scopes.apply_of_regular regular d
  cases again with
  | elseBlock =>
    rcases cases with passed | dropped | ⟨ws, automatic, outer, scopes, _, turned⟩ | ⟨absurd, _⟩
    · have clear := Scopes.clear_of_apply_eq regular rfl passed
      obtain ⟨steady, reader, scopes⟩ := react_of_opens rfl (passed ▸ h)
      refine still steady reader ?_ .nil (Nat.succ_pos _)
      rcases scopes with e | ⟨rule, other, e⟩
      · exact e ▸ regular
      · exact e ▸ regular.push clear other
    · exact quiet rfl (dropped ▸ h) .nil (Nat.succ_pos _)
    · rw [turned, Rule.turn] at h
      obtain ⟨steady, same, pending⟩ := react_multiple _ h
      rw [e, List.append_nil] at pending
      refine ⟨steady, ⟨same ▸ regular, pending ▸ .turned ws⟩, ?_⟩
      rw [cost, same, pending, scopes]
      exact replayCost_turned ws automatic outer
    · cases absurd
  | warning text p =>
    have lt := Nat.lt_succ_self (replayCost c.scopes rest)
    rcases cases with passed | dropped | ⟨_, _, _, _, absurd, _⟩ | ⟨absurd, _⟩
    · exact quiet rfl (passed ▸ h) p lt
    · exact quiet rfl (dropped ▸ h) p lt
    · cases absurd
    · cases absurd
  | watch p =>
    have lt := Nat.lt_succ_self (replayCost c.scopes rest)
    rcases cases with passed | dropped | ⟨_, _, _, _, absurd, _⟩ | ⟨absurd, _⟩
    · exact quiet rfl (passed ▸ h) p lt
    · exact quiet rfl (dropped ▸ h) p lt
    · cases absurd
    · cases absurd
  | endBlock p =>
    rw [Scopes.apply_endBlock regular] at h
    cases h
    obtain ⟨steady, reader, _⟩ :=
      steady_of_endBlock shared c position false
    have popped := scopes_of_endBlock shared position regular
    exact still steady reader (popped ▸ regular.tail) p
      (by rw [popped]; exact Nat.lt_succ_self _)

end Context

end Menu
