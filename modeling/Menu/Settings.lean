import Menu.Directive.Line
import Menu.Launch
import Menu.Number.Literal
import Menu.Settings.EnvFile
import Menu.Text.Lower

/-!
# Settings

The settings of the program and where they come from: the environment, where each goes by its name behind
`SettingName.lead` in any case, and a variable file, which counts where the environment is silent.  A watch
interval that is no number is refused, and so is a variable of the file that is set to something and names
no setting.
-/

namespace Menu

open Number

/-- The settings of the program. -/
structure Settings where
  markers : Markers := {}
  /-- The name of the encoding of documents. -/
  encoding : String := "utf-8"
  lineVariables : LineVariables := {}
  /-- The seconds between two looks at the watched files. -/
  watchInterval : Binary64 := .ofDecimal false 3 (-1)
  /-- The name of the listing in the output directory. -/
  outputFile : String := "lines.txt"
deriving Repr

/-- The names of the settings. -/
inductive SettingName
  | directiveMarker
  | commentMarker
  | encoding
  | lineNumber
  | lineSource
  | watchInterval
  | outputFile
deriving DecidableEq, Repr

namespace SettingName

/-- All settings. -/
def all : List SettingName :=
  [directiveMarker, commentMarker, encoding, lineNumber, lineSource, watchInterval, outputFile]

/-- The text of a name. -/
def text : SettingName → String
  | directiveMarker => "directive_marker"
  | commentMarker => "comment_marker"
  | encoding => "encoding"
  | lineNumber => "line_nr_env"
  | lineSource => "line_src_env"
  | watchInterval => "watch_interval"
  | outputFile => "output_file"

/-- What the variables of all settings start with, in small letters. -/
def lead : String := "lineview_"

/-- The variable of a setting, in small letters. -/
def variable_ (n : SettingName) : String :=
  lead ++ n.text

end SettingName

/-- A variable that is refused. -/
inductive SettingError
  /-- The value of a setting is no number. -/
  | notANumber (name : SettingName)
  /-- A variable names no setting. -/
  | unknown (variable_ : String)
deriving DecidableEq, Repr

/-- A refused variable, in words. -/
def SettingError.text : SettingError → String
  | notANumber name => name.text ++ ": not a number"
  | unknown variable_ => variable_ ++ ": not a setting"

namespace Settings

/-- The settings with one of them set to a text. -/
def set (s : Settings) (name : SettingName) (value : String) : Except SettingError Settings :=
  match name with
  | .directiveMarker => .ok { s with markers := { s.markers with directive := value } }
  | .commentMarker => .ok { s with markers := { s.markers with comment := value } }
  | .encoding => .ok { s with encoding := value }
  | .lineNumber => .ok { s with lineVariables := { s.lineVariables with number := value } }
  | .lineSource => .ok { s with lineVariables := { s.lineVariables with source := value } }
  | .outputFile => .ok { s with outputFile := value }
  | .watchInterval =>
    match interval? value with
    | some x => .ok { s with watchInterval := x }
    | none => .error (.notANumber .watchInterval)

/-- Variables with their names in small letters; the last one of a name counts. -/
def lowered {α : Type} (vars : List (String × α)) : List (String × α) :=
  vars.foldl (fun done (name, value) => EnvFile.assign done (Text.lower name) value) []

/-- The variables of a file that name no setting and are set to something.  The bare names of settings are
passed over. -/
def strangers (file : List (String × Option String)) : List String :=
  (file.filter fun (name, value) =>
    value.getD "" ≠ "" && !SettingName.all.any fun n => name = n.variable_ || name = n.text).map
      Prod.fst

/-- The settings that an environment and a variable file give, or everything in them that is refused. -/
def load (env : List (String × String)) (file : String) : Except (List SettingError) Settings :=
  let fromFile := lowered (EnvFile.assignments env file)
  let fromEnv := lowered env
  let value? (n : SettingName) : Option String :=
    match fromEnv.lookup n.variable_ with
    | some value => some value
    | none => (fromFile.lookup n.variable_).join
  let step (acc : Settings × List SettingError) (n : SettingName) : Settings × List SettingError :=
    match value? n with
    | none => acc
    | some value =>
      match acc.1.set n value with
      | .ok s => (s, acc.2)
      | .error e => (acc.1, acc.2 ++ [e])
  let (settings, errors) := SettingName.all.foldl step ({}, [])
  let errors := errors ++ (strangers fromFile).map .unknown
  if errors.isEmpty then .ok settings else .error errors

end Settings

end Menu
