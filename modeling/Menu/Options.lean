import Menu.Number.Literal
import Menu.Text.Quoted

/-!
# Command line options

The program takes options and nothing else.  An option goes by a long name or a short one; a long name may
be cut short as long as only one option is meant, and its value may follow an equals sign.  Short options,
which have no values, may share one dash.

The arguments are looked through twice.  First each is found to be an option, a plain argument, or the mark
`--` after which no options come; a name that could be several options is an error at once.  Then the options
take effect one after the other.  Plain arguments that no option takes are left over, and leaving any is an
error, after a missing document.
-/

namespace Menu

/-- The options. -/
inductive OptionName
  | help
  | inputFile
  | execute
  | watch
  | verbosity
  | version
deriving DecidableEq, Repr

namespace OptionName

/-- The spellings of the options, in their order. -/
def spellings : List (String × OptionName) :=
  [("-h", help), ("--help", help), ("--inputFile", inputFile), ("--execute", execute),
   ("--watch", watch), ("-v", verbosity), ("--verbosity", verbosity), ("-V", version),
   ("--version", version)]

/-- Whether an option has a value. -/
def takesValue : OptionName → Bool
  | inputFile => true
  | execute => true
  | _ => false

/-- All spellings of an option, for messages. -/
def title (o : OptionName) : String :=
  "/".intercalate ((spellings.filter (·.2 = o)).map Prod.fst)

end OptionName

/-- What an option with a value was given.  Where the value is written as the mark `--`, the mark is taken
away and nothing is left. -/
inductive Given (α : Type)
  | value (a : α)
  | nothing
deriving DecidableEq, Repr

/-- The value that was given, if there is one. -/
def Given.value? {α : Type} : Given α → Option α
  | value a => some a
  | nothing => none

/-- What the command line asks for. -/
structure Options where
  inputFile : Given String
  execute : Option (Given Int) := none
  watch : Bool := false
  verbosity : Int := 1
deriving DecidableEq, Repr

/-- A command line that is refused. -/
inductive UsageError
  | ambiguous (argument : String) (matching : List String)
  | expectedValue (o : OptionName)
  | unexpectedValue (o : OptionName) (value : String)
  | notAnInteger (o : OptionName) (value : String)
  | missingInputFile
  | unrecognized (arguments : List String)
deriving DecidableEq, Repr

/-- The words for a refused command line. -/
def UsageError.text : UsageError → String
  | ambiguous argument matching =>
    "ambiguous option: " ++ argument ++ " could match " ++ ", ".intercalate matching
  | expectedValue o => "argument " ++ o.title ++ ": expected one argument"
  | unexpectedValue o value =>
    "argument " ++ o.title ++ ": ignored explicit argument " ++ Text.quoted value
  | notAnInteger o value => "argument " ++ o.title ++ ": invalid int value: " ++ Text.quoted value
  | missingInputFile =>
    "the following arguments are required: " ++ OptionName.inputFile.title
  | unrecognized arguments => "unrecognized arguments: " ++ " ".intercalate arguments

/-- What a command line asks for. -/
inductive Request
  | run (options : Options)
  | help
  | version
  | refused (why : UsageError)
deriving DecidableEq, Repr

namespace Options

/-- What one argument is. -/
inductive Word
  /-- An option in one of its spellings, and the text that is attached to it in the same argument. -/
  | option (o : OptionName) (spelling : String) (attached : Option String)
  /-- Something like an option that there is not. -/
  | strange
  | plain
  /-- The mark `--`. -/
  | mark

/-- A text cut at its first equals sign. -/
def splitEquals (s : String) : String × Option String :=
  match s.toList.span (· != '=') with
  | (name, _ :: value) => (String.ofList name, some (String.ofList value))
  | (_, []) => (s, none)

/-- Whether a text starts with another. -/
def startsWith (s lead : String) : Bool :=
  lead.toList.isPrefixOf s.toList

/-- The options that an argument may mean whose name is not spelled out. -/
def candidates (argument : String) : List (OptionName × String × Option String) :=
  if startsWith argument "--" then
    let (name, value) := splitEquals argument
    (OptionName.spellings.filter fun e => startsWith e.1 name).map fun e => (e.2, e.1, value)
  else
    let short := String.ofList (argument.toList.take 2)
    let rest := String.ofList (argument.toList.drop 2)
    OptionName.spellings.filterMap fun e =>
      if e.1 = short then some (e.2, e.1, some rest)
      else if startsWith e.1 argument then some (e.2, e.1, none)
      else none

/-- Whether a text is a negative number: a dash, and digits with at most one point and one digit after
it.  A line feed may end it. -/
def isNegativeNumber (s : String) : Bool :=
  match s.toList with
  | '-' :: rest =>
    let body := if rest.getLast? = some '\n' then rest.dropLast else rest
    let isDigit (c : Char) : Bool := (Text.digit? c).isSome
    match body.span isDigit with
    | (ds, []) => !ds.isEmpty
    | (_, '.' :: fraction) => !fraction.isEmpty && fraction.all isDigit
    | _ => false
  | _ => false

/-- What an argument is. -/
def classify (argument : String) : Except UsageError Word :=
  if !startsWith argument "-" then .ok .plain
  else match OptionName.spellings.lookup argument with
    | some o => .ok (.option o argument none)
    | none =>
      if argument = "-" then .ok .plain
      else
        let (name, value) := splitEquals argument
        match OptionName.spellings.lookup name, value with
        | some o, some value => .ok (.option o name (some value))
        | _, _ =>
          match candidates argument with
          | [(o, spelling, attached)] => .ok (.option o spelling attached)
          | [] =>
            if isNegativeNumber argument || argument.toList.contains ' ' then .ok .plain
            else .ok .strange
          | several => .error (.ambiguous argument (several.map (·.2.1)))

/-- What each argument is; behind the mark `--` all are plain. -/
def classifyAll : List String → Except UsageError (List (String × Word))
  | [] => .ok []
  | argument :: rest =>
    if argument = "--" then .ok ((argument, .mark) :: rest.map (·, .plain))
    else do
      let word ← classify argument
      let words ← classifyAll rest
      .ok ((argument, word) :: words)

/-- The options so far: the document if it was given, the others, and the arguments left over. -/
structure Progress where
  inputFile : Option (Given String) := none
  options : Options := { inputFile := .nothing }
  extras : List String := []

/-- Why the options are read no further. -/
inductive Stop
  | help
  | version
  | refused (why : UsageError)

/-- What a stop comes to. -/
def Stop.request : Stop → Request
  | help => .help
  | version => .version
  | refused why => .refused why

/-- The effect of an option without a value. -/
def applyFlag (p : Progress) : OptionName → Except Stop Progress
  | .help => .error .help
  | .version => .error .version
  | .watch => .ok { p with options := { p.options with watch := true } }
  | .verbosity => .ok { p with options := { p.options with verbosity := p.options.verbosity + 1 } }
  | _ => .ok p

/-- The effect of an option with a value. -/
def applyValue (p : Progress) (o : OptionName) (value : String) : Except Stop Progress :=
  match o with
  | .inputFile => .ok { p with inputFile := some (.value value) }
  | .execute =>
    match Number.integer? value with
    | some n => .ok { p with options := { p.options with execute := some (.value n) } }
    | none => .error (.refused (.notAnInteger o value))
  | _ => .ok p

/-- The effect of an option with a value whose value was taken away. -/
def applyNothing (p : Progress) : OptionName → Progress
  | .inputFile => { p with inputFile := some .nothing }
  | .execute => { p with options := { p.options with execute := some .nothing } }
  | _ => p

/-- The short options that share one dash: `o` and those that the letters behind it name. -/
def unbundle (o : OptionName) : List Char → Except UsageError (List OptionName)
  | [] => .error (.unexpectedValue o "")
  | c :: rest =>
    match OptionName.spellings.lookup (String.ofList ['-', c]) with
    | none => .error (.unexpectedValue o (String.ofList (c :: rest)))
    | some next => if rest = [] then .ok [o, next] else (unbundle next rest).map (o :: ·)

/-- The effect of an option with a text attached to it. -/
def applyAttached (p : Progress) (o : OptionName) (spelling attached : String) :
    Except Stop Progress :=
  if o.takesValue then
    if attached = "--" then .ok (applyNothing p o) else applyValue p o attached
  else if startsWith spelling "--" then .error (.refused (.unexpectedValue o attached))
  else match unbundle o attached.toList with
    | .error why => .error (.refused why)
    | .ok flags => flags.foldlM applyFlag p

/-- The effect of all arguments. -/
def applyAll (p : Progress) : List (String × Word) → Except Stop Progress
  | [] => .ok p
  | (argument, .plain) :: rest => applyAll { p with extras := p.extras ++ [argument] } rest
  | (argument, .mark) :: rest => applyAll { p with extras := p.extras ++ [argument] } rest
  | (argument, .strange) :: rest => applyAll { p with extras := p.extras ++ [argument] } rest
  | (_, .option o spelling (some attached)) :: rest =>
    match applyAttached p o spelling attached with
    | .ok p => applyAll p rest
    | .error stop => .error stop
  | (_, .option o _ none) :: rest =>
    if o.takesValue then
      match rest with
      | (value, .plain) :: rest =>
        match applyValue p o value with
        | .ok p => applyAll p rest
        | .error stop => .error stop
      | _ => .error (.refused (.expectedValue o))
    else match applyFlag p o with
      | .ok p => applyAll p rest
      | .error stop => .error stop

/-- What a command line asks for. -/
def parse (arguments : List String) : Request :=
  match classifyAll arguments with
  | .error why => .refused why
  | .ok words =>
    match applyAll {} words with
    | .error stop => stop.request
    | .ok p =>
      match p.inputFile with
      | none => .refused .missingInputFile
      | some inputFile =>
        if p.extras.isEmpty then .run { p.options with inputFile }
        else .refused (.unrecognized p.extras)

example : parse ["--input", "m", "--e", "1", "-vv"] =
    .run { inputFile := .value "m", execute := some (.value 1), verbosity := 3 } := by
  decide +kernel

/-- A short option has no value. -/
example : OptionName.spellings.all fun e => startsWith e.1 "--" || !e.2.takesValue := by decide +kernel

example : parse ["-vvx"] = .refused (.unexpectedValue .verbosity "x") := by decide +kernel

example : parse ["--inputFile", "m", "--ver"] =
    .refused (.ambiguous "--ver" ["--verbosity", "--version"]) := by
  decide +kernel

end Options

end Menu
