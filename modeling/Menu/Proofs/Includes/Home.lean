import Menu.Proofs.Build.Underway

/-!
# The home directory

A target that begins with `~/` is seen from the home directory, and one more `~/` in front of it takes this meaning
away.  What follows `~/` is put behind the home directory as any path is put behind another.  So if it begins with a
slash it stands alone, and the target may lead to anywhere.

* `Site.expand?_home` and `Site.expand?_targetFor`: what targets of both kinds stand for.
* `Site.resolve_of_anchor`: a target with an anchor is seen from everywhere alike.
* `Site.stays_home_iff`: when a target that begins with `~/` stays in the home directory.
-/

namespace Menu

/-- Whether a target begins with `~/`. -/
def AtHome (target : String) : Prop :=
  "~/".toList <+: target.toList

instance (target : String) : Decidable (AtHome target) :=
  inferInstanceAs (Decidable (_ <+: _))

/-- The target that stands for the path that a text spells, whatever the text begins with. -/
def targetFor (t : String) : String :=
  if AtHome t then "~/" ++ t else t

namespace Path

theorem anchorOf_eq_here_iff {cs : List Char} : anchorOf cs = .here ↔ cs.head? ≠ some '/' := by
  cases cs with
  | nil => simp [anchorOf]
  | cons c cs =>
    by_cases slash : c = '/'
    · subst slash
      unfold anchorOf
      split <;> simp_all
    · unfold anchorOf
      split <;> simp_all

/-- What is put behind a path goes on from there unless it has an anchor of its own; then it does by chance at most. -/
theorem join_eq_iff (home path : Path) :
    home.join path = ⟨home.anchor, home.names ++ path.names⟩ ↔
      path.anchor = .here ∨ home.names = [] ∧ home.anchor = path.anchor := by
  by_cases relative : path.anchor = .here
  · exact iff_of_true (by rw [join, if_pos relative]) (.inl relative)
  · obtain ⟨anchor, names⟩ := path
    rw [join_of_anchor relative, mk.injEq, List.self_eq_append_left]
    constructor
    · rintro ⟨same, none⟩
      exact .inr ⟨none, same.symm⟩
    · rintro (here | ⟨none, same⟩)
      · exact absurd here relative
      · exact ⟨same.symm, none⟩

/-- What is put behind a path with an anchor has one. -/
theorem anchor_join {a b : Path} (anchored : a.anchor ≠ .here) : (a.join b).anchor ≠ .here := by
  unfold join
  split
  · exact anchored
  · assumption

end Path

theorem afterTilde?_append (t : String) : afterTilde? ("~/" ++ t).toList = some t.toList := by
  rw [String.toList_append]
  rfl

theorem afterTilde?_eq_none_iff {t : String} : afterTilde? t.toList = none ↔ ¬ AtHome t := by
  have home : "~/".toList = ['~', '/'] := rfl
  rw [AtHome, home]
  unfold afterTilde?
  split
  · rename_i rest begun
    simp [begun]
  · rename_i other
    refine iff_of_true rfl fun ⟨rest, begun⟩ => other rest begun.symm

namespace Site

variable {s : Site} {home : Spelling} {path directory : Path} {target r t : String}

theorem expand?_of_not_atHome (s : Site) (plain : ¬ AtHome t) : s.expand? t = some (.ofText t) := by
  rw [expand?, afterTilde?_eq_none_iff.2 plain]

/-- With `~/` twice, the first one goes. -/
theorem expand?_of_atHome (s : Site) (again : AtHome r) : s.expand? ("~/" ++ r) = some (.ofText r) := by
  obtain ⟨rest, doubled⟩ := Option.ne_none_iff_exists'.1 (mt afterTilde?_eq_none_iff.1 (not_not_intro again))
  simp only [expand?, afterTilde?_append, doubled, String.ofList_toList]

/-- With `~/` once, what follows is put behind the home directory. -/
theorem expand?_home (known : s.home? = some home) (once : ¬ AtHome r) :
    s.expand? ("~/" ++ r) = some (home.toPath.join (.ofText r)) := by
  simp only [expand?, afterTilde?_append, afterTilde?_eq_none_iff.2 once, known, String.ofList_toList, Option.map_some]

/-- Every path has a target that stands for it, with a home directory or without. -/
theorem expand?_targetFor (s : Site) (t : String) : s.expand? (targetFor t) = some (.ofText t) := by
  unfold targetFor
  split
  · exact s.expand?_of_atHome ‹_›
  · exact s.expand?_of_not_atHome ‹_›

/-- A target that stands for a path with an anchor of its own is seen from everywhere alike. -/
theorem resolve_of_anchor (expanded : s.expand? target = some path) (anchored : path.anchor ≠ .here)
    (here elsewhere : Path) : s.resolve target here = s.resolve target elsewhere := by
  simp only [resolve, expanded, Path.join_of_anchor anchored]

/-- **A target that begins with `~/` once stays in the home directory** exactly if no slash follows, or if the home
directory is the very root that the slashes after `~/` stand for.  It is seen from everywhere alike, and one that begins
with `~/` twice stands for what follows the first one, so that every path has a target that stands for it. -/
theorem stays_home_iff (s : Site) (known : s.home? = some home) (absolute : home.anchor ≠ .here) :
    (∀ r, AtHome r → s.expand? ("~/" ++ r) = some (.ofText r)) ∧
    (∀ r, ¬ AtHome r →
      (s.expand? ("~/" ++ r) = some ⟨home.anchor, home.names ++ (Path.ofText r).names⟩ ↔
        r.toList.head? ≠ some '/' ∨ home.names = [] ∧ home.anchor = (Path.ofText r).anchor) ∧
      ∀ here elsewhere, s.resolve ("~/" ++ r) here = s.resolve ("~/" ++ r) elsewhere) ∧
    ∀ t, s.expand? (targetFor t) = some (.ofText t) := by
  refine ⟨fun r => s.expand?_of_atHome, fun r once => ?_, s.expand?_targetFor⟩
  have expanded : s.expand? ("~/" ++ r) = some (home.toPath.join (.ofText r)) := expand?_home known once
  refine ⟨?_, resolve_of_anchor expanded (Path.anchor_join absolute)⟩
  rw [expanded, Option.some_inj, Path.join_eq_iff, Path.ofText, Path.anchorOf_eq_here_iff]

/-- A site with nothing in its tree and a home directory. -/
def homely : Site :=
  { bare with home? := some ⟨⟨.root, ["home", "user"]⟩, by simp⟩ }

/-- A note in a directory of the home directory, seen from two directories, and one in a directory with the name of a
tilde. -/
theorem stays_home_of_note :
    homely.expand? "~/notes//today/." = some ⟨.root, ["home", "user", "notes", "today"]⟩ ∧
      homely.resolve "~/notes//today/." ⟨.root, ["a"]⟩ = homely.resolve "~/notes//today/." ⟨.here, []⟩ ∧
      homely.expand? "~/~/today" = some ⟨.here, ["~", "today"]⟩ := by
  have known : homely.home? = some ⟨⟨.root, ["home", "user"]⟩, _⟩ := rfl
  obtain ⟨-, once, every⟩ := stays_home_iff homely known nofun
  obtain ⟨stays, alike⟩ := once "notes//today/." (by decide)
  refine ⟨(stays.2 (.inl (by decide))).trans ?_, alike _ _, (every "~/today").trans ?_⟩
  · decide +kernel
  · decide +kernel

/-- A slash too many leads out of the home directory. -/
theorem leaves_home_of_slash :
    homely.home?.map Spelling.toPath = some ⟨.root, ["home", "user"]⟩ ∧ ¬ AtHome "/notes" ∧
      homely.expand? ("~/" ++ "/notes") = some ⟨.root, ["notes"]⟩ ∧
      homely.expand? ("~/" ++ "/notes") ≠ some ⟨.root, ["home", "user"] ++ (Path.ofText "/notes").names⟩ := by
  have out : homely.expand? ("~/" ++ "/notes") = some ⟨.root, ["notes"]⟩ := by decide +kernel
  refine ⟨rfl, by decide, out, ?_⟩
  rw [out]
  decide +kernel

end Site
end Menu
