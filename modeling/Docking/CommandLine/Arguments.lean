/-!
# Arguments

The arguments of the program are options with a value each. The value is the next argument, or
stands behind an equals sign.

## Main definitions

* `Options`: what the arguments say.
* `Request.ofArguments`: what is asked for, or what is wrong with the arguments.
-/

namespace Docking.CommandLine

/-- How the layout is printed. -/
inductive OutputFormat where
  | tree
  | json
  | yaml
  deriving DecidableEq, Repr

/-- An output format by name. -/
def OutputFormat.ofName? : String → Option OutputFormat
  | "tree" => some tree
  | "json" => some json
  | "yaml" => some yaml
  | _ => none

/-- What is wrong with the arguments. -/
inductive UsageError where
  /-- There is no such option, or it takes no value, or an argument is not an option. -/
  | unexpected (argument : String)
  /-- An option has no value. -/
  | missingValue (option : String)
  /-- An option has a value that it can not have. -/
  | invalidValue (option value : String)
  /-- An option is given twice. -/
  | repeated (option : String)
  deriving DecidableEq, Repr

/-- The wording of wrong arguments. -/
def UsageError.message : UsageError → String
  | unexpected argument => s!"unexpected argument '{argument}' found"
  | missingValue option => s!"a value is required for '--{option}' but none was supplied"
  | invalidValue option value => s!"invalid value '{value}' for '--{option}'"
  | repeated option => s!"the argument '--{option}' cannot be used multiple times"

/-- What the arguments say. -/
structure Options where
  settings : Option String
  plugins : Option String
  script : Option String
  viewport : Option String
  format : Option OutputFormat
  deriving DecidableEq, Repr

/-- What no arguments say. -/
def Options.none : Options := ⟨.none, .none, .none, .none, .none⟩

/-- What is asked for. -/
inductive Request where
  | run (options : Options)
  | version
  | help
  deriving DecidableEq, Repr

namespace Options

/-- The names of the options. -/
def names : List String := ["settings", "plugins", "script", "viewport", "format"]

/-- Notes a value that was not given before. -/
def fresh (option : String) (old : Option α) (value : α) : Except UsageError (Option α) :=
  if old.isSome then .error (.repeated option) else .ok (some value)

/-- Notes the path of a file or a folder, which must not be empty. -/
def freshPath (option : String) (old : Option String) (value : String) :
    Except UsageError (Option String) :=
  if value.isEmpty then .error (.invalidValue option value) else fresh option old value

/-- Notes the value of an option. -/
def set (o : Options) (option value : String) : Except UsageError Options :=
  match option with
  | "settings" => (freshPath option o.settings value).map fun settings => { o with settings }
  | "plugins" => (freshPath option o.plugins value).map fun plugins => { o with plugins }
  | "script" => (freshPath option o.script value).map fun script => { o with script }
  | "viewport" => (fresh option o.viewport value).map fun viewport => { o with viewport }
  | "format" =>
    match OutputFormat.ofName? value with
    | .none => .error (.invalidValue option value)
    | some format => (fresh option o.format format).map fun format => { o with format }
  | _ => .error (.unexpected option)

end Options

/-! ## Single arguments -/

/-- What an argument is. -/
inductive Argument where
  /-- An option by its long name, perhaps with a value. -/
  | long (name : String) (value : Option String)
  /-- A row of options by their short names. -/
  | short (name : Char)
  /-- The end of the options. -/
  | endOfOptions
  /-- No option. -/
  | plain

/-- The text before the first equals sign, and what stands behind it. -/
def splitValue (cs : List Char) : String × Option String :=
  match cs.span (· ≠ '=') with
  | (name, []) => (String.ofList name, none)
  | (name, _ :: value) => (String.ofList name, some (String.ofList value))

/-- What an argument is. -/
def Argument.ofText (s : String) : Argument :=
  match s.toList with
  | ['-', '-'] => endOfOptions
  | '-' :: '-' :: rest => long (splitValue rest).1 (splitValue rest).2
  | '-' :: c :: _ => short c
  | _ => plain

/-- Whether an argument can be the value of the option before it. -/
def isValue (s : String) : Bool :=
  match Argument.ofText s with
  | .plain => true
  | _ => false

/-! ## All arguments -/

/-- What the rest of the arguments ask for. The first argument that is wrong, or that asks for
something other than a run, decides. -/
def Request.ofRest (o : Options) : List String → Except UsageError Request
  | [] => .ok (.run o)
  | argument :: rest =>
    match Argument.ofText argument with
    | .plain => .error (.unexpected argument)
    | .endOfOptions =>
      match rest with
      | [] => .ok (.run o)
      | next :: _ => .error (.unexpected next)
    | .short c =>
      if c = 'h' then .ok .help
      else if c = 'V' then .ok .version
      else .error (.unexpected argument)
    | .long "help" none => .ok .help
    | .long "version" none => .ok .version
    | .long name value =>
      if !Options.names.contains name then .error (.unexpected argument)
      else
        match value, rest with
        | some value, rest =>
          match o.set name value with
          | .error e => .error e
          | .ok o => ofRest o rest
        | none, [] => .error (.missingValue name)
        | none, value :: rest =>
          if isValue value then
            match o.set name value with
            | .error e => .error e
            | .ok o => ofRest o rest
          else .error (.missingValue name)

/-- What the arguments ask for. -/
def Request.ofArguments (arguments : List String) : Except UsageError Request :=
  ofRest .none arguments

end Docking.CommandLine
