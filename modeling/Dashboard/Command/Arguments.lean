/-!
# Command line arguments

A command with its options. Options may be given as two arguments or joined by an equals sign; a
value that starts with a dash must be joined. Options that hold one value, and switches, are given
at most once. The configuration file may be named before or after the command, and the name after
the command wins.
-/

namespace Dashboard

/-- What the program is asked to do. -/
inductive Command where
  | list (json plain : Bool) (manifests : List String)
  | resolve (select : Option String) (flags manifests : List String) (json : Bool)
  | config
  | none
  deriving DecidableEq, Repr

structure Arguments where
  config : Option String
  command : Command
  deriving DecidableEq, Repr

/-- Why there is nothing to run. -/
inductive ArgumentsEnd where
  | help
  | version
  | usage
  deriving DecidableEq, Repr

namespace Arguments

/-- How an option is given. -/
inductive OptionKind where
  /-- Without a value, at most once. -/
  | switch
  /-- With a value, at most once. -/
  | single
  /-- With a value, any number of times. -/
  | repeated
  deriving DecidableEq, Repr

structure OptionSpec where
  name : String
  kind : OptionKind
  /-- Whether the value is a path, which is never empty. -/
  isPath : Bool

def configOption : OptionSpec := ⟨"config", .single, true⟩

def manifestOption : OptionSpec := ⟨"manifest", .repeated, true⟩

def listOptions : List OptionSpec :=
  [⟨"json", .switch, false⟩, ⟨"plain", .switch, false⟩, manifestOption, configOption]

def resolveOptions : List OptionSpec :=
  [⟨"select", .single, false⟩, ⟨"flag", .repeated, false⟩, manifestOption,
   ⟨"json", .switch, false⟩, configOption]

/-- An option as it was given: its name and value. -/
abbrev Given := List (String × String)

def values (given : Given) (name : String) : List String :=
  (given.filter (·.1 == name)).map (·.2)

def isOn (given : Given) (name : String) : Bool := given.any (·.1 == name)

/-- An argument that names an option, without the dashes, and the value joined to it. -/
def longOption? (argument : String) : Option (String × Option String) :=
  match argument.toList with
  | '-' :: '-' :: rest =>
    let name := rest.takeWhile (· != '=')
    match rest.drop name.length with
    | [] => some (String.ofList name, none)
    | _ :: value => some (String.ofList name, some (String.ofList value))
  | _ => none

/-- Whether an argument is an option rather than a value. A lone dash is a value. -/
def isDashed (argument : String) : Bool :=
  argument.toList.head? == some '-' && argument != "-"

/-- Adds an option with its value, which must not be missing where a path is wanted, and only once
unless the option may be repeated. -/
def add (spec : OptionSpec) (value : String) (given : Given) : Except ArgumentsEnd Given :=
  if spec.isPath && value.isEmpty then .error .usage
  else if spec.kind != .repeated && isOn given spec.name then .error .usage
  else .ok (given ++ [(spec.name, value)])

/-- Where the arguments stop being options: at the end, or at a word. -/
inductive Stop where
  | finished (given : Given)
  | word (text : String) (rest : List String) (given : Given)

/-- Reads options up to the first word. Two dashes alone end the options; a word after them is
misplaced. `short` says what the short options do. -/
def readOptions (specs : List OptionSpec) (short : Char → Option ArgumentsEnd) (given : Given) :
    List String → Except ArgumentsEnd Stop
  | [] => .ok (.finished given)
  | argument :: rest =>
    if argument = "--" then if rest.isEmpty then .ok (.finished given) else .error .usage
    else match longOption? argument with
      | some ("help", none) => .error .help
      | some (name, joined) =>
        if name = "version" && joined.isNone && short 'V' == some .version then .error .version
        else match specs.find? (·.name == name) with
          | none => .error .usage
          | some spec =>
            match spec.kind, joined with
            | .switch, some _ => .error .usage
            | .switch, none =>
              match add spec "" given with
              | .ok given => readOptions specs short given rest
              | .error e => .error e
            | _, some value =>
              match add spec value given with
              | .ok given => readOptions specs short given rest
              | .error e => .error e
            | _, none =>
              match rest with
              | [] => .error .usage
              | value :: rest =>
                if isDashed value then .error .usage
                else match add spec value given with
                  | .ok given => readOptions specs short given rest
                  | .error e => .error e
      | none =>
        if isDashed argument then
          match argument.toList with
          | _ :: c :: _ => .error ((short c).getD .usage)
          | _ => .error .usage
        else .ok (.word argument rest given)

def topShort (c : Char) : Option ArgumentsEnd :=
  if c = 'h' then some .help else if c = 'V' then some .version else none

def commandShort (c : Char) : Option ArgumentsEnd := if c = 'h' then some .help else none

/-- Reads the options of a command, which takes no words. -/
def readCommand (specs : List OptionSpec) (arguments : List String) :
    Except ArgumentsEnd Given :=
  match readOptions specs commandShort [] arguments with
  | .error e => .error e
  | .ok (.finished given) => .ok given
  | .ok (.word ..) => .error .usage

def helpTopics : List String := ["list", "resolve", "config", "help"]

def parse (arguments : List String) : Except ArgumentsEnd Arguments :=
  match readOptions [configOption] topShort [] arguments with
  | .error e => .error e
  | .ok (.finished given) => .ok ⟨(values given "config").head?, .none⟩
  | .ok (.word name rest outer) =>
    let finish (specs : List OptionSpec) (build : Given → Command) :
        Except ArgumentsEnd Arguments :=
      match readCommand specs rest with
      | .error e => .error e
      | .ok given =>
        .ok ⟨(values given "config").head? <|> (values outer "config").head?, build given⟩
    match name with
    | "list" =>
      finish listOptions fun g => .list (isOn g "json") (isOn g "plain") (values g "manifest")
    | "resolve" =>
      finish resolveOptions fun g =>
        .resolve (values g "select").head? (values g "flag") (values g "manifest") (isOn g "json")
    | "config" => finish [configOption] fun _ => .config
    | "help" =>
      match rest with
      | [] => .error .help
      | [topic] => .error (if helpTopics.contains topic then .help else .usage)
      | _ => .error .usage
    | _ => .error .usage

end Arguments

end Dashboard
