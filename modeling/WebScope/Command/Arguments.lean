import WebScope.Text.Basic

/-!
# Command lines

A command line starts with options, names one of four commands, and goes on with the options and values of that command
in any order. An option takes its value behind `=` or from the next argument, which must not look like an option; it is
given at most once before the command and once behind it. Behind `--` everything is a value.

`Invocation.ofArguments?` reads a command line; one that it does not read is a usage error.
-/

namespace WebScope

/-- What stands between the lines of a block of headers. -/
inductive Separator
  | lf
  | crlf
  deriving DecidableEq, Repr

namespace Separator

/-- The characters of a separator. -/
def toText : Separator → Text
  | .lf => ['\n']
  | .crlf => ['\r', '\n']

/-- The separator of a name. -/
def ofName? (s : Text) : Option Separator :=
  if s = "lf".toList then some .lf else if s = "crlf".toList then some .crlf else none

end Separator

/-- **A command.** -/
inductive Command
  /-- Tells for each URL whether the pattern matches it. -/
  | test (pattern : Text) (urls : List Text)
  /-- Explains the test of one URL. -/
  | explain (pattern url : Text)
  /-- Evaluates each URL in the scope of a file. -/
  | scope (file : Text) (urls : List Text)
  /-- Reads the headers of a file. -/
  | headers (separator : Separator) (file : Text)
  deriving DecidableEq, Repr

/-- The file that a command reads. -/
def Command.file? : Command → Option Text
  | .scope file _ => some file
  | .headers _ file => some file
  | _ => none

/-- **A command with the log filter it runs under.** -/
structure Invocation where
  logFilter : Text
  command : Command
  deriving DecidableEq, Repr

/-- Arguments sorted into options and values. -/
structure Gathered where
  options : List (Text × Text) := []
  values : List Text := []
  deriving DecidableEq, Repr

namespace Gathered

/-- With one more option; none can be given twice. -/
def addOption (g : Gathered) (name value : Text) : Option Gathered :=
  if (g.options.lookup name).isSome then none else some { g with options := (name, value) :: g.options }

/-- With one more value in front. -/
def addValue (g : Gathered) (value : Text) : Gathered := { g with values := value :: g.values }

end Gathered

namespace Arguments

/-- Whether an argument looks like an option; a hyphen alone does not. -/
def isOption (a : Text) : Bool := a.head? == some '-' && a != ['-']

/-- What ends the options. -/
def endMark : Text := ['-', '-']

/-- The name of an option and the value behind `=`, if an argument is a long option. -/
def longOption? (a : Text) : Option (Text × Option Text) :=
  (Text.after? endMark a).map fun body =>
    match Text.cut? '=' body with
    | some (name, value) => (name, some value)
    | none => (body, none)

/-- **Sorts arguments into options and values**, where only the options `names` are known. -/
def gather (names : List Text) : List Text → Option Gathered
  | [] => some {}
  | a :: rest =>
    if a = endMark then some { values := rest }
    else if !isOption a then (gather names rest).map (·.addValue a)
    else
      match longOption? a with
      | none => none
      | some (name, value) =>
        if !names.contains name then none
        else
          match value, rest with
          | some value, rest => (gather names rest).bind (·.addOption name value)
          | none, [] => none
          | none, value :: rest => if isOption value then none else (gather names rest).bind (·.addOption name value)

/-- The arguments before the command, and those from it on. -/
def beforeCommand : List Text → List Text × List Text
  | [] => ([], [])
  | a :: rest =>
    if !isOption a then ([], a :: rest)
    else
      match longOption? a, rest with
      | some (_, none), value :: rest =>
        let (front, rest) := beforeCommand rest
        (a :: value :: front, rest)
      | _, rest =>
        let (front, rest) := beforeCommand rest
        (a :: front, rest)

/-- The option for the log filter. -/
def logLevel : Text := "log-level".toList

/-- The option for the file of a scope. -/
def config : Text := "config".toList

/-- The option for the separator. -/
def separator : Text := "separator".toList

/-- The options of a command. -/
def namesOf (command : Text) : List Text :=
  if command = "scope".toList then [logLevel, config]
  else if command = "headers".toList then [logLevel, separator]
  else [logLevel]

/-- A file name, which is not empty. -/
def fileOf? (s : Text) : Option Text := if s = [] then none else some s

/-- The separator that is meant; line feeds if none is given. -/
def separatorOf? (value : Option Text) : Option Separator :=
  match value with
  | none => some .lf
  | some s => Separator.ofName? s

/-- The command of a name with its options and values. -/
def command? (name : Text) (g : Gathered) : Option Command :=
  if name = "test".toList then
    match g.values with
    | pattern :: urls => some (.test pattern urls)
    | _ => none
  else if name = "explain".toList then
    match g.values with
    | [pattern, url] => some (.explain pattern url)
    | _ => none
  else if name = "scope".toList then
    ((g.options.lookup config).bind fileOf?).map fun file => .scope file g.values
  else if name = "headers".toList then
    match g.values with
    | [file] => do return .headers (← separatorOf? (g.options.lookup separator)) (← fileOf? file)
    | _ => none
  else none

end Arguments

/-- The log filter if none is given. -/
def defaultLogFilter : Text := "warn".toList

/-- **Reads a command line.** A log filter behind the command wins over one before it. -/
def Invocation.ofArguments? (args : List Text) : Option Invocation := do
  let (front, rest) := Arguments.beforeCommand args
  let outer ← Arguments.gather [Arguments.logLevel] front
  match rest with
  | [] => none
  | name :: rest =>
    let inner ← Arguments.gather (Arguments.namesOf name) rest
    let command ← Arguments.command? name inner
    let given := (inner.options.lookup Arguments.logLevel).or (outer.options.lookup Arguments.logLevel)
    return ⟨given.getD defaultLogFilter, command⟩

end WebScope
