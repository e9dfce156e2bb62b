import Menu.Text.Blank
import Menu.Text.Break

/-!
# Variable files

A variable file sets variables line by line: an optional `export`, a name, an equals sign and a value, and a
comment after `#`.  A value in single quotes knows the escapes `\\` and `\'`, a value in double quotes those
of control characters too, and both may go over several lines; any backslash in them keeps the character
behind it from closing the quotes.  A value without quotes ends at a blank before `#`.  A name without an
equals sign is named but not set.  What fits no rule is passed over up to the end of its line.

In every value, `${name}` stands for another variable and `${name:-text}` for it or else for the text; the
variables of the file come before those of the environment.  A variable that is set again keeps its place.

Every line break counts as a line feed, and a byte order mark in front of the text is no part of it.
-/

namespace Menu.EnvFile

open Menu.Text

/-- Whether a character is blank and breaks no line. -/
def isInlineBlank (c : Char) : Bool :=
  isBlank c && c != '\n'

/-- The rest of a text behind blanks that break no line. -/
def skipInline (cs : List Char) : List Char :=
  cs.dropWhile isInlineBlank

/-- The rest of a text behind `export` and a blank, if it starts so. -/
def skipExport (cs : List Char) : List Char :=
  match cs with
  | 'e' :: 'x' :: 'p' :: 'o' :: 'r' :: 't' :: c :: rest =>
    if isInlineBlank c then skipInline rest else cs
  | _ => cs

/-- The name that a text starts with, and the rest.  No name stands before `#`. -/
def name? : List Char → Option (Option String × List Char)
  | [] => none
  | '#' :: rest => some (none, '#' :: rest)
  | '\'' :: rest =>
    match rest.span (· != '\'') with
    | (inner, _ :: tail) => if inner = [] then none else some (some (String.ofList inner), tail)
    | (_, []) => none
  | c :: rest =>
    match (c :: rest).span fun c => c != '=' && c != '#' && !isBlank c with
    | ([], _) => none
    | (name, tail) => some (some (String.ofList name), tail)

/-- Cut a text at its closing quote: the first one that no backslash keeps from closing. -/
def closing? (quote : Char) : List Char → Option (List Char × List Char)
  | [] => none
  | '\\' :: c :: rest => (closing? quote rest).map fun (inner, tail) => ('\\' :: c :: inner, tail)
  | c :: rest =>
    if c = quote then some ([], rest)
    else (closing? quote rest).map fun (inner, tail) => (c :: inner, tail)

/-- The character that a backslash before `c` stands for, in a value with double quotes or single ones. -/
def escape? (double : Bool) (c : Char) : Option Char :=
  if c = '\\' ∨ c = '\'' then some c
  else if !double then none
  else match c with
    | '"' => some '"'
    | 'a' => some '\x07'
    | 'b' => some '\x08'
    | 'f' => some '\x0c'
    | 'n' => some '\n'
    | 'r' => some '\r'
    | 't' => some '\t'
    | 'v' => some '\x0b'
    | _ => none

/-- A quoted value with its escapes resolved. -/
def unescape (double : Bool) : List Char → List Char
  | [] => []
  | '\\' :: c :: rest =>
    match escape? double c with
    | some d => d :: unescape double rest
    | none => '\\' :: unescape double (c :: rest)
  | c :: rest => c :: unescape double rest

/-- A value without quotes up to a blank before `#`. -/
def uncomment : List Char → List Char
  | [] => []
  | c :: rest =>
    if isBlank c && (rest.dropWhile isBlank).head? == some '#' then [] else c :: uncomment rest

/-- The value behind an equals sign, and the rest. -/
def value? (cs : List Char) : Option (String × List Char) :=
  match skipInline cs with
  | '\'' :: rest =>
    (closing? '\'' rest).map fun (inner, tail) => (String.ofList (unescape false inner), tail)
  | '"' :: rest =>
    (closing? '"' rest).map fun (inner, tail) => (String.ofList (unescape true inner), tail)
  | _ => some (String.ofList (trim (uncomment (cs.takeWhile (· != '\n')))), cs.dropWhile (· != '\n'))

/-- The rest of a text behind a comment, if it starts with one. -/
def skipComment (cs : List Char) : List Char :=
  match skipInline cs with
  | '#' :: rest => rest.dropWhile (· != '\n')
  | _ => cs

/-- The rest of a text behind the end of a line. -/
def lineEnd? (cs : List Char) : Option (List Char) :=
  match skipInline cs with
  | [] => some []
  | '\n' :: rest => some rest
  | _ => none

/-- What one line sets: a variable with a value or without, or nothing. -/
abbrev Binding := Option (String × Option String)

/-- The outcome of reading a line: what it sets and the text after it, or the text at which it fits no
rule. -/
def line (cs : List Char) : Except (List Char) (Binding × List Char) := do
  let cs := skipExport cs
  let (name, cs) ← (name? cs).elim (.error cs) .ok
  let cs := skipInline cs
  let (value, cs) ← match cs with
    | '=' :: rest => (value? rest).elim (.error rest) fun (value, tail) => .ok (some value, tail)
    | _ => .ok (none, cs)
  let cs := skipComment cs
  let cs ← (lineEnd? cs).elim (.error cs) .ok
  .ok (name.map (·, value), cs)

/-- What the lines of a text set, in at most `fuel` lines. -/
def bindingsFor : Nat → List Char → List (String × Option String)
  | 0, _ => []
  | fuel + 1, cs =>
    match cs.dropWhile isBlank with
    | [] => []
    | start =>
      match line start with
      | .ok (none, rest) => bindingsFor fuel rest
      | .ok (some binding, rest) => binding :: bindingsFor fuel rest
      | .error rest => bindingsFor fuel ((rest.dropWhile (· != '\n')).drop 1)

/-- What a text sets, line by line.  A line takes at least one character. -/
def bindings (cs : List Char) : List (String × Option String) :=
  bindingsFor (cs.length + 1) cs

/-- A reference to a variable at the start of a text: its name, the text to take if it is not set, and the
rest. -/
def reference? : List Char → Option (String × String × List Char)
  | '$' :: '{' :: rest =>
    match rest.span fun c => c != '}' && c != ':' with
    | (name, '}' :: tail) => some (String.ofList name, "", tail)
    | (name, ':' :: '-' :: more) =>
      match more.span (· != '}') with
      | (text, _ :: tail) => some (String.ofList name, String.ofList text, tail)
      | (_, []) => none
    | _ => none
  | _ => none

/-- A value with its references replaced, in at most `fuel` steps. -/
def expandFor (find? : String → Option String) : Nat → List Char → List Char
  | 0, _ => []
  | _ + 1, [] => []
  | fuel + 1, c :: rest =>
    match reference? (c :: rest) with
    | some (name, text, tail) => ((find? name).getD text).toList ++ expandFor find? fuel tail
    | none => c :: expandFor find? fuel rest

/-- A value with its references replaced. -/
def expand (find? : String → Option String) (value : String) : String :=
  String.ofList (expandFor find? (value.length + 1) value.toList)

/-- The variables with one of them set: it keeps its place, and a new one comes last. -/
def assign {α : Type} (vars : List (String × α)) (name : String) (value : α) : List (String × α) :=
  if vars.any (·.1 = name) then vars.map fun e => if e.1 = name then (name, value) else e
  else vars ++ [(name, value)]

/-- The variables of a file, with references replaced; the last value of a name counts. -/
def resolve (env : List (String × String)) (bindings : List (String × Option String)) :
    List (String × Option String) :=
  bindings.foldl (fun vars (name, value?) =>
    let find? (n : String) : Option String :=
      match vars.lookup n with
      | some value? => some (value?.getD "")
      | none => env.lookup n
    assign vars name (value?.map (expand find?))) []

/-- The characters of a file: no byte order mark, and a line feed for each line break. -/
def characters (text : String) : List Char :=
  match text.toList with
  | '\ufeff' :: rest => unifyBreaks rest
  | cs => unifyBreaks cs

/-- The variables that a text sets in an environment. -/
def assignments (env : List (String × String)) (text : String) : List (String × Option String) :=
  resolve env (bindings (characters text))

example : bindings "A=1\n# c\n\nexport B = 'x y' # z\nC\n=bad\nD=a b #c\n".toList =
    [("A", some "1"), ("B", some "x y"), ("C", none), ("D", some "a b")] := by
  decide +kernel

example : assignments [("H", "h")] "A=1\nB=${A}${H}${N:-n}${M}" = [("A", some "1"), ("B", some "1hn")] := by
  decide +kernel

end Menu.EnvFile
