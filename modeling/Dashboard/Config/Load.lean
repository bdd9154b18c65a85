import Dashboard.Config.Diagnostic
import Dashboard.Config.Environment
import Dashboard.Config.KeyOffset
import Dashboard.Toml.Document

/-!
# Loading the configuration

The layers, from the weakest to the strongest, are the defaults, the documents and the environment.
They are merged, read as typed data and checked. A document that is not TOML ends the matter; of
what does not fit the first is reported, in the order of the keys; of the rules every violation.
-/

namespace Dashboard

open Number Data

/-- A document of the configuration: its name, whether the name is that of a file, and its text, if
its bytes are text. -/
structure ConfigSource where
  name : String
  isFile : Bool
  text : Option String

/-- A layer: what it says, and the file that says it. -/
structure Layer where
  file : Option String
  tree : ConfigTree

namespace Layer

def defaults : Layer where
  file := none
  tree := .table
    [("activation", .table [("known_plugins", .array []), ("last_selection", .null)]),
     ("dashboard", .table
       [("container", .string DashboardSection.initial.container),
        ("log_level", .string DashboardSection.initial.logLevel),
        ("name", .string DashboardSection.initial.name)]),
     ("flags", .table [("enabled_experimental_plugins", .array []), ("values", .table [])]),
     ("plugins", .table [("manifests", .array [])]),
     ("settings", .table [])]

/-- The layer of a document, or why there is none. -/
def ofSource (s : ConfigSource) : Except ConfigError Layer :=
  match s.text with
  | none => .error (.notText s.name)
  | some text =>
    match Toml.parse? text with
    | none => .error (.notToml s.name)
    | some entries => .ok ⟨if s.isFile then some s.name else none, .ofToml (.table entries)⟩

/-- What layers say together, the first being the weakest. -/
def mergeAll (layers : List Layer) : ConfigTree :=
  layers.foldl (fun t l => t.merge l.tree) (.table [])

/-- The strongest layer that says something at a path. -/
def origin? (layers : List Layer) (path : List String) : Option Layer :=
  layers.reverse.find? fun l => (l.tree.at? path).isSome

end Layer

/-- How a message about the configuration names what was found. -/
def Data.Found.describeSetting : Found → String
  | .null => "unit"
  | .boolean b => "bool " ++ (if b then "true" else "false")
  | .signed n => "signed int `" ++ integerText n ++ "`"
  | .unsigned n => "unsigned int `" ++ integerText n ++ "`"
  | .float x => "float `" ++ x.positionalText ++ "`"
  | .text s => "string " ++ Text.quoted s
  | .sequence => "sequence"
  | .mapping => "map"

namespace Config

/-- Where a key stands in its source: in the file of the strongest layer that has it or, if that is
no file, in the only document there is. -/
def spanOf (layers : List Layer) (sources : List ConfigSource) (path : List String)
    (key : String) : Option SourceSpan := do
  let file := (Layer.origin? layers path).bind (·.file)
  let source ← match file, sources with
    | some name, sources => sources.find? (·.name == name)
    | none, [source] => some source
    | none, _ => none
  let offset ← keyOffset? (← source.text) path key
  some ⟨source.name, offset, key.utf8ByteSize⟩

def misfitError (layers : List Layer) (sources : List ConfigSource) (e : DecodeError) :
    ConfigError :=
  match e.misfit with
  | .unknownField key valid =>
    .unknownKey key (suggestKey key valid) valid (spanOf layers sources e.path key)
  | .missingField key => .missingKey key
  | .invalidType found expected | .invalidValue found expected =>
    .invalidType (".".intercalate e.path) found.describeSetting expected
  | .invalidLength n expected =>
    .invalidType (".".intercalate e.path) ("length " ++ String.ofList (digitsOf n)) expected
  | .unknownVariant name valid => .invalidType (".".intercalate e.path) name (alternatives valid)

/-- The documents' layers, or the errors of all documents that have none. -/
def readSources (sources : List ConfigSource) : Except (List ConfigError) (List Layer) :=
  let results := sources.map Layer.ofSource
  let errors := results.filterMap fun | .error e => some e | .ok _ => none
  if errors.isEmpty then .ok (results.filterMap fun | .ok l => some l | .error _ => none)
  else .error errors

def check (c : Config) : Except (List ConfigError) Config :=
  match c.violations with
  | [] => .ok c
  | violations => .error (violations.map .invalid)

def ofLayers (layers : List Layer) (sources : List ConfigSource) :
    Except (List ConfigError) Config :=
  match decoder (Layer.mergeAll layers) with
  | .error e => .error [misfitError layers sources e]
  | .ok c => c.check

/-- Loads the configuration from documents, the weakest first, and from variables. -/
def load (sources : List ConfigSource) (env : List (String × String)) :
    Except (List ConfigError) Config :=
  match readSources sources with
  | .error errors => .error errors
  | .ok layers =>
    ofLayers (Layer.defaults :: layers ++ [⟨none, Environment.tree env⟩]) sources

def ofText (text : String) : Except (List ConfigError) Config :=
  load [⟨"<inline>", false, some text⟩] []

end Config

end Dashboard
