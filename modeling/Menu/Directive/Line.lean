import Menu.Directive
import Menu.Text.Blank

/-!
# The line grammar

How a line of a document becomes a directive.  The blanks at its end are cut off, and then the first of
these rules that fits decides.

* A line of nothing but blanks is empty.
* What follows the directive marker is a command: a keyword and its payload.
* Two comment markers in a row stand for one at the start of a text.
* What follows one comment marker is a comment.
* Every other line is text, with the blanks it starts with.

A payload is trimmed, and one pair of double quotes around it is taken off, so that quotes keep blanks at
its ends and an empty payload can be written.  Every line is some directive: a command that cannot be
read, an unknown keyword and a missing payload are warnings.
-/

namespace Menu

open Text

/-- The texts that commands and comments start with. -/
structure Markers where
  directive : String := "#-"
  comment : String := "#"
deriving DecidableEq, Repr

/-- What a keyword asks of its payload. -/
inductive Keyword
  /-- A keyword that stands alone; a payload is passed over. -/
  | alone (meaning : Directive)
  /-- A keyword with a payload or without. -/
  | optional (meaning : String → Directive)
  /-- A keyword that must have a payload. -/
  | payload (meaning : String → Directive)

namespace Keyword

/-- The keywords and their meaning. -/
def table : List (String × Keyword) :=
  [("clean", alone .clean),
   ("empty", alone .empty),
   ("close", alone .close),
   ("ignore-warnings", alone .ignoreWarnings),
   ("ignore-text", alone .ignoreText),
   ("watch", alone .watch),
   ("then", alone .thenBlock),
   ("else", alone .elseBlock),
   ("display-warnings", alone .displayWarnings),
   ("debug", alone .debug),
   ("end", alone (.endBlock false)),
   ("comment", optional .comment),
   ("pre", payload .before),
   ("suf", payload .after),
   ("title", payload .title),
   ("subtitle", payload .subtitle),
   ("warning", payload .warning),
   ("text", payload .text),
   ("import", payload (.inclusion .importing)),
   ("source", payload (.inclusion .sourcing)),
   ("lines", payload (.inclusion .lines))]

/-- The keyword that a word is. -/
def ofWord? (word : String) : Option Keyword :=
  table.lookup word

/-- Whether a word is a keyword that must have a payload. -/
def needsPayload (word : String) : Bool :=
  match ofWord? word with
  | some (payload _) => true
  | _ => false

end Keyword

/-- The text in a pair of double quotes; a text without them is left as it is. -/
def unquote (cs : List Char) : List Char :=
  match cs with
  | '"' :: rest => if rest.getLast? = some '"' then rest.dropLast else cs
  | _ => cs

/-- The payload in the rest of a command, if there is any. -/
def payload? (rest : List Char) : Option String :=
  let payload := trim rest
  if payload = [] then none else some (String.ofList (unquote payload))

namespace Directive

/-- The directive of a keyword with its payload. -/
def ofKeyword (word : String) (payload : Option String) : Directive :=
  match Keyword.ofWord? word, payload with
  | none, _ => .warning (word ++ " is not a directive")
  | some (.alone meaning), _ => meaning
  | some (.optional meaning), _ => meaning (payload.getD "")
  | some (.payload meaning), some given => meaning given
  | some (.payload _), none => .warning ("directive " ++ word ++ " requires an argument")

/-- What an empty command means. -/
def unread : Directive :=
  .warning "could not parse directive \"\""

/-- The directive that a command spells.  A command of nothing but blanks has no keyword and spells none;
an empty one is a warning. -/
def ofCommand? (command : List Char) : Option Directive :=
  if command = [] then some unread
  else (firstWord? command).map fun (word, rest) => ofKeyword (String.ofList word) (payload? rest)

/-- The directive that a trimmed command spells. -/
def ofCommand (command : List Char) : Directive :=
  (ofCommand? (trim command)).getD unread

end Directive

namespace Markers

/-- The rest of a text that starts with a marker. -/
def cut? (marker : String) (cs : List Char) : Option (List Char) :=
  if marker.toList.isPrefixOf cs then some (cs.drop marker.toList.length) else none

/-- The directive that a line is, given as its characters. -/
def parseChars (m : Markers) (line : List Char) : Directive :=
  let line := trimEnd line
  if line = [] then .empty
  else match cut? m.directive line with
    | some command => .ofCommand command
    | none =>
      match cut? (m.comment ++ m.comment) line, cut? m.comment line with
      | some _, rest => .text (String.ofList (rest.getD line))
      | none, some rest => .comment (String.ofList (trim rest))
      | none, none => .text (String.ofList line)

/-- The directive that a line is. -/
def parse (m : Markers) (line : String) : Directive :=
  m.parseChars line.toList

end Markers

/-! ## What a line may be -/

/-- Whether a directive may stand for a line of a document. -/
def Directive.isWritten : Directive → Bool
  | .noop => false
  | .endBlock automatic => !automatic
  | .multiple _ => false
  | _ => true

/-- What a keyword may mean. -/
inductive Keyword.Means : Keyword → Directive → Prop
  | alone (meaning : Directive) : Means (.alone meaning) meaning
  | optional (meaning : String → Directive) (text : String) : Means (.optional meaning) (meaning text)
  | payload (meaning : String → Directive) (text : String) : Means (.payload meaning) (meaning text)

theorem Keyword.isWritten_of_mem (entry : String × Keyword) (h : entry ∈ table) {d : Directive}
    (means : entry.2.Means d) : d.isWritten = true := by
  simp only [table, List.mem_cons, List.not_mem_nil, or_false] at h
  rcases h with rfl | rfl | rfl | rfl | rfl | rfl | rfl | rfl | rfl | rfl | rfl | rfl | rfl | rfl | rfl |
    rfl | rfl | rfl | rfl | rfl | rfl <;> (cases means; rfl)

theorem Directive.isWritten_ofKeyword (word : String) (payload : Option String) :
    (ofKeyword word payload).isWritten = true := by
  unfold ofKeyword
  have known : ∀ {k d}, Keyword.ofWord? word = some k → k.Means d → d.isWritten = true := by
    intro k d e
    obtain ⟨before, after, e, -⟩ := List.lookup_eq_some_iff.1 e
    exact Keyword.isWritten_of_mem (word, k) (by simp [e])
  split
  · rfl
  · exact known ‹_› (.alone _)
  · exact known ‹_› (.optional _ _)
  · exact known ‹_› (.payload _ _)
  · rfl

theorem Directive.isWritten_ofCommand (command : List Char) : (ofCommand command).isWritten = true := by
  unfold ofCommand ofCommand?
  split
  · rfl
  · cases Text.firstWord? (Text.trim command) with
    | none => rfl
    | some p => exact isWritten_ofKeyword _ _

/-- No line stands for nothing at all, for other directives, or for the end of a block that ends by itself. -/
theorem Markers.isWritten_parse (m : Markers) (line : String) : (m.parse line).isWritten = true := by
  unfold parse parseChars
  dsimp only
  repeat' split
  all_goals first | rfl | exact Directive.isWritten_ofCommand _

end Menu
