import Menu.Proofs.Directive.Quoted

/-!
# Escaped texts

A line that starts with a comment marker is a comment, so a text that starts with one is written with one marker more
(`Markers.escape`).  Whether a line is a directive is asked first, and so both kinds of lines must be told apart: the
directive marker starts with the comment marker, and goes on in another way than with a second one (`Markers.Apart`).

* `Markers.parseChars_of_doubled`, `Markers.parseChars_of_plain`: the two kinds of lines that are texts.
* `Markers.text_cases`: there are no others but directives.
* `Markers.text_round_trips`: the lines that are texts, but for the blanks at their ends and for directives, are the
  escaped texts, each of its own text.
-/

namespace Menu

open Text

namespace Markers

variable {m : Markers} {line cs rest : List Char} {marker : String}

/-- Markers by which directives, texts that are escaped, and comments are told apart.  None of them is empty. -/
structure Apart (m : Markers) : Prop where
  begins : m.comment.toList <+: m.directive.toList
  notWithin : ¬ m.directive.toList <+: m.comment.toList ++ m.comment.toList
  notBeyond : ¬ m.comment.toList ++ m.comment.toList <+: m.directive.toList

/-- A text as it is written in a line. -/
def escape (m : Markers) (t : String) : String :=
  if m.comment.toList <+: t.toList then m.comment ++ t else t

/-- Whether a line starts with the directive marker. -/
def IsDirective (m : Markers) (line : String) : Prop :=
  m.directive.toList <+: trimEnd line.toList

example : Apart {} := ⟨by decide, by decide, by decide⟩

/-! ## Cutting markers off -/

theorem cut?_append (marker : String) (cs : List Char) : cut? marker (marker.toList ++ cs) = some cs := by
  rw [cut?, if_pos (List.isPrefixOf_iff_prefix.2 (List.prefix_append _ _)), List.drop_left]

theorem cut?_of_other (other : ¬ marker.toList <+: cs) : cut? marker cs = none := by
  rw [cut?, if_neg (mt List.isPrefixOf_iff_prefix.1 other)]

/-! ## Lines that are texts -/

/-- A line with two comment markers is a text with one, if it is no directive. -/
theorem parseChars_of_doubled (trimmed : trimEnd line = m.comment.toList ++ m.comment.toList ++ rest)
    (filled : trimEnd line ≠ []) (other : ¬ m.directive.toList <+: trimEnd line) :
    m.parseChars line = .text (String.ofList (m.comment.toList ++ rest)) := by
  have doubled : cut? (m.comment ++ m.comment) (m.comment.toList ++ m.comment.toList ++ rest) = some rest := by
    rw [← String.toList_append]
    exact cut?_append _ _
  have single : cut? m.comment (m.comment.toList ++ m.comment.toList ++ rest) = some (m.comment.toList ++ rest) := by
    rw [List.append_assoc]
    exact cut?_append _ _
  rw [trimmed] at filled other
  simp only [parseChars, trimmed, if_neg filled, cut?_of_other other, doubled, single, Option.getD_some]

/-- A line without any marker is a text as it stands. -/
theorem parseChars_of_plain (filled : trimEnd line ≠ []) (other : ¬ m.directive.toList <+: trimEnd line)
    (plain : ¬ m.comment.toList <+: trimEnd line) : m.parseChars line = .text (String.ofList (trimEnd line)) := by
  have single : ¬ (m.comment ++ m.comment).toList <+: trimEnd line := fun doubled =>
    plain (((List.prefix_append _ _).trans (String.toList_append ▸ doubled)))
  simp only [parseChars, if_neg filled, cut?_of_other other, cut?_of_other single, cut?_of_other plain]

/-- No other line is a text without being a directive. -/
theorem text_cases {t : String} (read : m.parseChars line = .text t) (other : ¬ m.directive.toList <+: trimEnd line) :
    trimEnd line ≠ [] ∧
      ((∃ rest, trimEnd line = m.comment.toList ++ m.comment.toList ++ rest ∧
          t = String.ofList (m.comment.toList ++ rest)) ∨
        ¬ m.comment.toList <+: trimEnd line ∧ t = String.ofList (trimEnd line)) := by
  have filled : trimEnd line ≠ [] := fun none => by simp [parseChars, none] at read
  refine ⟨filled, ?_⟩
  by_cases doubled : m.comment.toList ++ m.comment.toList <+: trimEnd line
  · obtain ⟨rest, trimmed⟩ := doubled
    rw [parseChars_of_doubled trimmed.symm filled other] at read
    cases read
    exact .inl ⟨rest, trimmed.symm, rfl⟩
  · by_cases plain : m.comment.toList <+: trimEnd line
    · obtain ⟨rest, trimmed⟩ := plain
      have twice : ¬ (m.comment ++ m.comment).toList <+: trimEnd line := by rwa [String.toList_append]
      have once : cut? m.comment (trimEnd line) = some rest := trimmed ▸ cut?_append _ _
      -- one comment marker alone makes a comment
      simp only [parseChars, if_neg filled, cut?_of_other other, cut?_of_other twice, once] at read
      cases read
    · rw [parseChars_of_plain filled other plain] at read
      cases read
      exact .inr ⟨plain, rfl⟩

/-! ## Escaping and reading -/

variable {t ws : String}

theorem toList_escape_of_marked (begun : m.comment.toList <+: t.toList) :
    (m.escape t).toList = m.comment.toList ++ t.toList := by
  rw [escape, if_pos begun, String.toList_append]

theorem toList_escape_of_unmarked (plain : ¬ m.comment.toList <+: t.toList) : (m.escape t).toList = t.toList := by
  rw [escape, if_neg plain]

/-- An escaped text has no blanks at its end if the text has none. -/
theorem trimEnd_escape (m : Markers) (filled : t.toList ≠ []) (last : ∀ c ∈ t.toList.getLast?, isBlank c = false)
    (blank : AllBlank ws.toList) : trimEnd (m.escape t ++ ws).toList = (m.escape t).toList := by
  rw [String.toList_append, trimEnd_append blank]
  by_cases begun : m.comment.toList <+: t.toList
  · rw [toList_escape_of_marked begun]
    exact trimEnd_append_of_last last filled _
  · rw [toList_escape_of_unmarked begun]
    exact trimEnd_of_last last

/-- What is escaped is no directive. -/
theorem Apart.not_prefix_escape (apart : m.Apart) (t : String) : ¬ m.directive.toList <+: (m.escape t).toList := by
  intro directive
  by_cases begun : m.comment.toList <+: t.toList
  · obtain ⟨rest, text⟩ := begun
    rw [toList_escape_of_marked ⟨rest, text⟩, ← text, ← List.append_assoc] at directive
    -- two beginnings of one line, of which the shorter one begins the longer one
    rcases List.prefix_or_prefix_of_prefix directive (List.prefix_append _ rest) with within | beyond
    · exact apart.notWithin within
    · exact apart.notBeyond beyond
  · rw [toList_escape_of_unmarked begun] at directive
    exact begun (apart.begins.trans directive)

/-- An escaped text is read as the text, whatever blanks stand behind it, and is no directive. -/
theorem Apart.parse_escape (apart : m.Apart) (visible : ¬ AllBlank t.toList)
    (last : ∀ c ∈ t.toList.getLast?, isBlank c = false) (blank : AllBlank ws.toList) :
    m.parse (m.escape t ++ ws) = .text t ∧ ¬ m.IsDirective (m.escape t ++ ws) := by
  have filled : t.toList ≠ [] := fun none => visible (none ▸ List.forall_mem_nil _)
  have trimmed : trimEnd (m.escape t ++ ws).toList = (m.escape t).toList := trimEnd_escape m filled last blank
  have other : ¬ m.directive.toList <+: trimEnd (m.escape t ++ ws).toList := trimmed ▸ apart.not_prefix_escape t
  refine ⟨?_, other⟩
  by_cases begun : m.comment.toList <+: t.toList
  · obtain ⟨rest, text⟩ := begun
    have doubled : trimEnd (m.escape t ++ ws).toList = m.comment.toList ++ m.comment.toList ++ rest := by
      rw [trimmed, toList_escape_of_marked ⟨rest, text⟩, ← text, List.append_assoc]
    have some : trimEnd (m.escape t ++ ws).toList ≠ [] := by
      rw [trimmed, toList_escape_of_marked ⟨rest, text⟩]
      exact List.append_ne_nil_of_right_ne_nil _ filled
    rw [parse, parseChars_of_doubled doubled some other, text, String.ofList_toList]
  · have plain : trimEnd (m.escape t ++ ws).toList = t.toList := trimmed.trans (toList_escape_of_unmarked begun)
    rw [parse, parseChars_of_plain (plain ▸ filled) other (plain ▸ begun), plain, String.ofList_toList]

/-- A line that is a text and no directive is the text escaped, but for the blanks at its end, and the text is one
that can be escaped. -/
theorem escape_of_parse {line : String} (read : m.parse line = .text t) (other : ¬ m.IsDirective line) :
    m.escape t = String.ofList (trimEnd line.toList) ∧ ¬ AllBlank t.toList ∧
      ∀ c ∈ t.toList.getLast?, isBlank c = false := by
  obtain ⟨filled, lines⟩ := text_cases read other
  have final : ∀ c ∈ (trimEnd line.toList).getLast?, isBlank c = false := fun c last => isBlank_getLast_trimEnd last
  suffices same : (m.escape t).toList = trimEnd line.toList ∧ t.toList ≠ [] ∧
      ∀ c ∈ t.toList.getLast?, isBlank c = false by
    obtain ⟨written, some, last⟩ := same
    refine ⟨by rw [← written, String.ofList_toList], fun blank => ?_, last⟩
    have visible := last _ (List.getLast?_eq_some_getLast some)
    exact Bool.false_ne_true (visible.symm.trans (blank _ (List.getLast_mem some)))
  rcases lines with ⟨rest, doubled, rfl⟩ | ⟨plain, rfl⟩
  · have begun : m.comment.toList <+: (String.ofList (m.comment.toList ++ rest)).toList := by
      rw [String.toList_ofList]
      exact List.prefix_append _ _
    have some : m.comment.toList ++ rest ≠ [] := fun none => by
      obtain ⟨empty, rfl⟩ := List.append_eq_nil_iff.1 none
      exact filled (by rw [doubled, empty]; rfl)
    rw [toList_escape_of_marked begun, String.toList_ofList, doubled, List.append_assoc]
    refine ⟨rfl, some, ?_⟩
    rw [doubled, List.append_assoc, List.getLast?_append, List.getLast?_eq_some_getLast some, Option.some_or,
      ← List.getLast?_eq_some_getLast some] at final
    exact final
  · rw [toList_escape_of_unmarked (by rwa [String.toList_ofList]), String.toList_ofList]
    exact ⟨rfl, filled, final⟩

/-- **Escaped texts are the lines that are texts.**  A text that is not all blank and has no blanks at its end is read
from the line in which it is escaped, whatever blanks stand behind it, and this line is no directive.  Every line that
is a text without being a directive is, but for the blanks at its end, such a text escaped. -/
theorem text_round_trips (m : Markers) (apart : m.Apart) :
    (∀ t ws : String, ¬ AllBlank t.toList → (∀ c ∈ t.toList.getLast?, isBlank c = false) → AllBlank ws.toList →
      m.parse (m.escape t ++ ws) = .text t ∧ ¬ m.IsDirective (m.escape t ++ ws)) ∧
    ∀ line t : String, m.parse line = .text t → ¬ m.IsDirective line →
      m.escape t = String.ofList (trimEnd line.toList) ∧ ¬ AllBlank t.toList ∧
        ∀ c ∈ t.toList.getLast?, isBlank c = false :=
  ⟨fun _ _ visible last blank => apart.parse_escape visible last blank, fun _ _ read other => escape_of_parse read other⟩

/-- A text that starts with the directive marker, which is two slashes and an exclamation mark. -/
theorem text_round_trips_of_directive :
    Markers.parse ⟨"//!", "//"⟩ "////! x \t" = .text "//! x" ∧
      Markers.escape ⟨"//!", "//"⟩ "//! x" = "////! x" := by
  have apart : Apart ⟨"//!", "//"⟩ := ⟨by decide, by decide, by decide⟩
  obtain ⟨written, read⟩ := text_round_trips ⟨"//!", "//"⟩ apart
  have visible : ¬ AllBlank "//! x".toList := by decide +kernel
  have last : ∀ c ∈ "//! x".toList.getLast?, isBlank c = false := by
    rintro c ⟨⟩
    decide
  have blank : AllBlank " \t".toList := by decide +kernel
  have line : Markers.escape ⟨"//!", "//"⟩ "//! x" ++ " \t" = "////! x \t" := by decide +kernel
  obtain ⟨text, other⟩ := written "//! x" " \t" visible last blank
  rw [line] at text other
  refine ⟨text, (read _ _ text other).1.trans ?_⟩
  decide +kernel

end Markers
end Menu
