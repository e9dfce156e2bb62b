import Menu.Entry
import Menu.Fault
import Menu.Message

/-!
# Running commands

A command runs in the environment it is given and two more variables: one has the number of the line that
was chosen, the other the path of the file it comes from.  Nothing runs for a command without arguments.

A process that is asked for may be refused by the system.  Some are not even asked for, since no process can
have such arguments or variables: they hold the character NUL, say.
-/

namespace Menu

/-- The variables of a process, by name. -/
abbrev Environment := List (String × String)

/-- An environment with a variable set. -/
def Environment.set (env : Environment) (name value : String) : Environment :=
  env.filter (·.1 ≠ name) ++ [(name, value)]

/-- The names of the variables that tell a command about its line. -/
structure LineVariables where
  number : String := "LINE_VIEW_LINE_NR"
  source : String := "LINE_VIEW_LINE_SRC"
deriving DecidableEq, Repr

/-- A process to start. -/
structure Launch where
  args : List String
  environment : Environment
deriving DecidableEq, Repr

/-- Why a process was not started. -/
inductive StartFailure
  | refused (why : Fault)
  /-- There is no such process, in the words of whoever was asked to start it. -/
  | invalid (message : String)
deriving DecidableEq, Repr

/-- A command whose process was refused. -/
structure LaunchFailure where
  args : List String
  why : Fault
deriving DecidableEq, Repr

/-- The words for a command whose process was refused. -/
def LaunchFailure.text (f : LaunchFailure) : String :=
  "could not spawn " ++ f.args.headD "" ++ " with args " ++ Text.quotedList (f.args.drop 1) ++ ": " ++
    f.why.text

namespace Invocation

/-- The environment of a command. -/
def environment (i : Invocation) (names : LineVariables) (env : Environment) : Environment :=
  (env.set names.number (toString i.position)).set names.source i.source.text

/-- The process to start for a command, if any. -/
def launch? (i : Invocation) (names : LineVariables) (env : Environment) : Option Launch :=
  if i.args = [] then none else some ⟨i.args, i.environment names env⟩

end Invocation

end Menu
