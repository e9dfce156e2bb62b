import Menu.Directive.Line

/-!
# Quoted payloads

A payload in double quotes is read as it stands, whatever it consists of: the quotes keep the blanks at its ends from
being trimmed, and only one pair of them is taken off, so that quotes at its ends stay, too.  A payload with no blanks
at its ends that is not in quotes itself is read as it stands without them as well.  The blanks around the keyword and
the payload do not matter.

* `Directive.ofCommand_payload`, `Markers.parseChars_payload`: a command and a line with a keyword and a payload.
* `Markers.parse_quoted`: a line with a keyword and a payload in quotes, one blank apart.
* `Markers.payload_round_trips`: a payload is what is written in quotes, or without them.
-/

namespace Menu

namespace Text

variable {c : Char} {cs xs ys word rest : List Char}

/-- A text of nothing but blanks. -/
def AllBlank (cs : List Char) : Prop :=
  ∀ c ∈ cs, isBlank c = true

instance (cs : List Char) : Decidable (AllBlank cs) :=
  decidable_of_iff (cs.all isBlank = true) List.all_eq_true

/-- A text with no blank at its ends. -/
structure Trimmed (cs : List Char) : Prop where
  first : ∀ c ∈ cs.head?, isBlank c = false
  last : ∀ c ∈ cs.getLast?, isBlank c = false

theorem trimStart_append (blank : AllBlank xs) (ys : List Char) : trimStart (xs ++ ys) = trimStart ys :=
  List.dropWhile_append_of_pos blank

theorem trimStart_of_first (first : ∀ c ∈ cs.head?, isBlank c = false) : trimStart cs = cs := by
  cases cs with
  | nil => rfl
  | cons c cs => exact List.dropWhile_cons_of_neg (by simp [first c rfl])

theorem trimEnd_eq (cs : List Char) : trimEnd cs = (trimStart cs.reverse).reverse := rfl

theorem trimEnd_append (blank : AllBlank ys) (xs : List Char) : trimEnd (xs ++ ys) = trimEnd xs := by
  have turned : AllBlank ys.reverse := fun c mem => blank c (List.mem_reverse.1 mem)
  rw [trimEnd_eq, List.reverse_append, trimStart_append turned, trimEnd_eq]

theorem trimEnd_of_last (last : ∀ c ∈ cs.getLast?, isBlank c = false) : trimEnd cs = cs := by
  rw [trimEnd_eq, trimStart_of_first (by rwa [List.head?_reverse]), List.reverse_reverse]

theorem Trimmed.trim (trimmed : Trimmed cs) : trim cs = cs := by
  rw [Text.trim, trimStart_of_first trimmed.first, trimEnd_of_last trimmed.last]

/-- What stands in front of a text has its end trimmed with it. -/
theorem trimEnd_append_of_last (last : ∀ c ∈ cs.getLast?, isBlank c = false) (some : cs ≠ []) (xs : List Char) :
    trimEnd (xs ++ cs) = xs ++ cs := by
  refine trimEnd_of_last ?_
  rw [List.getLast?_append, List.getLast?_eq_some_getLast some, Option.some_or, ← List.getLast?_eq_some_getLast some]
  exact last

theorem Trimmed.trimEnd_append (trimmed : Trimmed cs) (some : cs ≠ []) (xs : List Char) :
    trimEnd (xs ++ cs) = xs ++ cs :=
  trimEnd_append_of_last trimmed.last some xs

theorem trimStart_of_word (solid : ∀ c ∈ word, isBlank c = false) (some : word ≠ []) (rest : List Char) :
    trimStart (word ++ rest) = word ++ rest := by
  obtain ⟨c, cs, rfl⟩ := List.exists_cons_of_ne_nil some
  refine trimStart_of_first fun d first => ?_
  cases first
  exact solid c List.mem_cons_self

/-- The blanks behind a word end it. -/
theorem firstWord?_of_solid (solid : ∀ c ∈ word, isBlank c = false) (some : word ≠ []) (between : AllBlank ys)
    (apart : ys ≠ []) (rest : List Char) : firstWord? (word ++ (ys ++ rest)) = .some (word, trimStart rest) := by
  obtain ⟨c, cs, rfl⟩ := List.exists_cons_of_ne_nil some
  obtain ⟨blank, blanks, rfl⟩ := List.exists_cons_of_ne_nil apart
  have whole : ∀ d ∈ cs, (!isBlank d) = true := fun d mem => by simp [solid d (List.mem_cons_of_mem _ mem)]
  have ended : isBlank blank = true := between blank List.mem_cons_self
  rw [firstWord?, trimStart_of_word solid some, List.cons_append]
  simp only [List.takeWhile_append_of_pos whole, List.dropWhile_append_of_pos whole]
  rw [List.cons_append, List.takeWhile_cons_of_neg (by simp [ended]), List.dropWhile_cons_of_neg (by simp [ended]),
    List.append_nil, ← List.cons_append, trimStart_append between]

end Text

open Text

/-! ## Payloads -/

section Payloads

variable {cs payload : List Char}

/-- A text in double quotes. -/
def quotedPayload (s : String) : List Char :=
  '"' :: s.toList ++ ['"']

theorem trimmed_quotedPayload (s : String) : Trimmed (quotedPayload s) := by
  have quote : isBlank '"' = false := by decide
  exact ⟨by simp [quotedPayload, quote], by simp [quotedPayload, List.getLast?_cons, quote]⟩

/-- One pair of quotes is taken off. -/
theorem unquote_quotedPayload (s : String) : unquote (quotedPayload s) = s.toList := by
  rw [quotedPayload, List.cons_append, unquote, if_pos (by simp), List.dropLast_concat]

/-- A text that is not in quotes is left as it is. -/
theorem unquote_of_unquoted (unquoted : ∀ inner, cs ≠ '"' :: inner ++ ['"']) : unquote cs = cs := by
  unfold unquote
  split
  · rename_i rest
    refine if_neg fun closed => ?_
    obtain ⟨inner, rfl⟩ := List.getLast?_eq_some_iff.1 closed
    exact unquoted inner rfl
  · rfl

theorem payload?_of_trimmed (trimmed : Trimmed payload) (some : payload ≠ []) :
    payload? payload = .some (String.ofList (unquote payload)) := by
  rw [payload?, trimmed.trim]
  exact if_neg some

end Payloads

/-! ## Lines -/

section Lines

variable {m : Markers} {u word v payload w : List Char}

/-- What stands behind the directive marker is a command. -/
theorem Markers.parseChars_of_directive {line command : List Char}
    (trimmed : trimEnd line = m.directive.toList ++ command) (some : command ≠ []) :
    m.parseChars line = .ofCommand command := by
  have cut : cut? m.directive (m.directive.toList ++ command) = .some command := by
    rw [cut?, if_pos (by simp), List.drop_left]
  have filled : m.directive.toList ++ command ≠ [] := by simp [some]
  simp only [parseChars, trimmed, if_neg filled, cut]

/-- A command with a keyword and a payload. -/
theorem Directive.ofCommand_payload (before : AllBlank u) (solid : ∀ c ∈ word, isBlank c = false) (named : word ≠ [])
    (between : AllBlank v) (apart : v ≠ []) (trimmed : Trimmed payload) (some : payload ≠ []) :
    ofCommand (u ++ (word ++ (v ++ payload))) =
      ofKeyword (String.ofList word) (.some (String.ofList (unquote payload))) := by
  have whole : trim (u ++ (word ++ (v ++ payload))) = word ++ (v ++ payload) := by
    rw [trim, trimStart_append before, trimStart_of_word solid named, ← List.append_assoc,
      trimmed.trimEnd_append some]
  have rest : trimStart payload = payload := trimStart_of_first trimmed.first
  rw [ofCommand, whole, ofCommand?, if_neg (by simp [named]), firstWord?_of_solid solid named between apart, rest]
  simp only [Option.map_some, payload?_of_trimmed trimmed some, Option.getD_some]

variable (m) in
/-- A line with a keyword and a payload. -/
theorem Markers.parseChars_payload (before : AllBlank u) (solid : ∀ c ∈ word, isBlank c = false) (named : word ≠ [])
    (between : AllBlank v) (apart : v ≠ []) (trimmed : Trimmed payload) (some : payload ≠ []) (after : AllBlank w) :
    m.parseChars (m.directive.toList ++ (u ++ (word ++ (v ++ payload))) ++ w) =
      .ofKeyword (String.ofList word) (.some (String.ofList (unquote payload))) := by
  have cut : trimEnd (m.directive.toList ++ (u ++ (word ++ (v ++ payload))) ++ w) =
      m.directive.toList ++ (u ++ (word ++ (v ++ payload))) := by
    rw [trimEnd_append after]
    simp only [← List.append_assoc]
    exact trimmed.trimEnd_append some _
  rw [parseChars_of_directive cut (by simp [named]), Directive.ofCommand_payload before solid named between apart
    trimmed some]

variable (m) in
/-- A line with a keyword and a payload in quotes, one blank apart. -/
theorem Markers.parse_quoted (solid : ∀ c ∈ word, isBlank c = false) (named : word ≠ []) (s : String) :
    m.parseChars (m.directive.toList ++ (word ++ ' ' :: quotedPayload s)) =
      .ofKeyword (String.ofList word) (.some s) := by
  have blank : AllBlank [' '] := List.forall_mem_singleton.2 (by decide)
  have none : AllBlank [] := List.forall_mem_nil _
  have read := m.parseChars_payload none solid named blank (List.cons_ne_nil _ _) (trimmed_quotedPayload s)
    (List.cons_ne_nil _ _) none
  rw [unquote_quotedPayload, String.ofList_toList, List.append_nil] at read
  exact read

end Lines

/-! ## Written out -/

/-- The keywords that must have a payload, and what they mean by it. -/
def payloadWords : List (String × (String → Directive)) :=
  [("pre", .before), ("suf", .after), ("title", .title), ("subtitle", .subtitle), ("warning", .warning),
    ("text", .text), ("import", .inclusion .importing), ("source", .inclusion .sourcing), ("lines", .inclusion .lines)]

section Words

variable {word u v w : String} {meaning : String → Directive}

theorem ofKeyword_of_mem (known : (word, meaning) ∈ payloadWords) (p : String) :
    Directive.ofKeyword word (some p) = meaning p := by
  simp only [payloadWords, List.mem_cons, List.not_mem_nil, or_false, Prod.mk.injEq] at known
  rcases known with ⟨rfl, rfl⟩ | ⟨rfl, rfl⟩ | ⟨rfl, rfl⟩ | ⟨rfl, rfl⟩ | ⟨rfl, rfl⟩ | ⟨rfl, rfl⟩ | ⟨rfl, rfl⟩ |
    ⟨rfl, rfl⟩ | ⟨rfl, rfl⟩ <;> rfl

theorem solid_of_mem (known : (word, meaning) ∈ payloadWords) :
    (∀ c ∈ word.toList, isBlank c = false) ∧ word.toList ≠ [] := by
  have all : payloadWords.all (fun entry => entry.1.toList.all (!isBlank ·) && entry.1.toList ≠ []) = true := by
    decide +kernel
  simpa using List.all_eq_true.1 all _ known

/-- A line with one of these keywords and a payload. -/
theorem Markers.parse_payload (m : Markers) (known : (word, meaning) ∈ payloadWords) (before : AllBlank u.toList)
    (between : AllBlank v.toList) (apart : v ≠ "") {payload : String} (trimmed : Trimmed payload.toList)
    (some : payload.toList ≠ []) (after : AllBlank w.toList) :
    m.parse (m.directive ++ u ++ word ++ v ++ payload ++ w) = meaning (String.ofList (unquote payload.toList)) := by
  obtain ⟨solid, named⟩ := solid_of_mem known
  have read := m.parseChars_payload before solid named between (mt String.toList_eq_nil_iff.1 apart) trimmed some after
  rw [String.ofList_toList, ofKeyword_of_mem known] at read
  rw [parse, ← read]
  simp only [String.toList_append, List.append_assoc]

/-- **A payload is what is written in quotes**, whatever it is, and whatever blanks there are around it and the
keyword.  A payload that has no blanks at its ends, is not all blank and not in quotes itself is also what is written
without quotes. -/
theorem Markers.payload_round_trips (m : Markers) (known : (word, meaning) ∈ payloadWords)
    (before : AllBlank u.toList) (between : AllBlank v.toList) (apart : v ≠ "") (after : AllBlank w.toList)
    (p : String) :
    m.parse (m.directive ++ u ++ word ++ v ++ "\"" ++ p ++ "\"" ++ w) = meaning p ∧
    (¬ AllBlank p.toList → Trimmed p.toList → (∀ inner, p ≠ "\"" ++ inner ++ "\"") →
      m.parse (m.directive ++ u ++ word ++ v ++ p ++ w) = meaning p) := by
  refine ⟨?quoted, fun visible trimmed unquoted => ?bare⟩
  case quoted =>
    have quoted : ("\"" ++ p ++ "\"").toList = quotedPayload p := by
      simp [quotedPayload]
    have read := m.parse_payload known before between apart (quoted ▸ trimmed_quotedPayload p)
      (quoted ▸ List.cons_ne_nil _ _) after
    rw [quoted, unquote_quotedPayload, String.ofList_toList] at read
    rw [← read]
    simp only [String.append_assoc]
  case bare =>
    have some : p.toList ≠ [] := fun none => visible (none ▸ List.forall_mem_nil _)
    have plain : unquote p.toList = p.toList := unquote_of_unquoted fun inner same => by
      refine unquoted (String.ofList inner) (String.toList_inj.1 ?_)
      simp [same]
    rw [m.parse_payload known before between apart trimmed some after, plain, String.ofList_toList]

/-- A payload that is one double quote, with other markers, and blanks of all kinds around it. -/
theorem Markers.payload_round_trips_of_quote :
    Markers.parse ⟨"//!", "//"⟩ "//! title \t\"\"\" \n" = .title "\"" ∧
      Markers.parse ⟨"//!", "//"⟩ "//! title \t\" \n" = .title "\"" := by
  have known : ("title", Directive.title) ∈ payloadWords := by simp [payloadWords]
  have before : AllBlank " ".toList := by decide +kernel
  have between : AllBlank " \t".toList := by decide +kernel
  have after : AllBlank " \n".toList := by decide +kernel
  obtain ⟨quoted, bare⟩ := payload_round_trips ⟨"//!", "//"⟩ known before between (by decide +kernel) after "\""
  have quote : isBlank '"' = false := by decide
  have single : Trimmed "\"".toList := ⟨by simp [quote], by simp [quote]⟩
  refine ⟨quoted, bare (by decide +kernel) single fun inner same => ?_⟩
  simpa using congrArg String.length same

end Words

end Menu
