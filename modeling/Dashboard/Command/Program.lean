import Dashboard.Command.Arguments
import Dashboard.Command.Listing
import Dashboard.Command.Resolve
import Dashboard.Command.Startup
import Dashboard.Config.Load
import Dashboard.Config.Render

/-!
# The program

A run of the program, from its arguments, the files it may read and the environment: the
configuration is loaded first, then the plugins are registered as far as the command needs them, and
the command answers.
-/

namespace Dashboard

inductive ProgramEnd where
  | printed (output : String)
  | help
  | usage
  /-- The configuration cannot be used. -/
  | diagnostics (errors : List ConfigError)
  | failed (error : PluginError)

namespace ProgramEnd

def code : ProgramEnd → Nat
  | printed _ | help => 0
  | usage => 2
  | diagnostics _ | failed _ => 1

def output : ProgramEnd → String
  | printed text => text
  | _ => ""

end ProgramEnd

/-- Where the program runs: the files it can read, the variables of the environment in the order in
which the process lists them, and the home directory of the user. -/
structure Surroundings where
  files : FileAccess
  environment : List (String × String)
  home : String

namespace Program

def versionText : String := "plugboard " ++ hostVersion.text ++ "\n"

/-- The file that configures the dashboard for everyone. -/
def systemConfig : String := "/etc/plugboard/plugboard.toml"

/-- The file in the working directory that configures the dashboard. -/
def localConfig : String := "plugboard.toml"

/-- The file of the user that configures the dashboard, in the directory for configuration. -/
def userConfig (s : Surroundings) : String :=
  let directory := match s.environment.lookup "XDG_CONFIG_HOME" with
    | some path => if path.toList.head? = some '/' then path else s.home ++ "/.config"
    | none => s.home ++ "/.config"
  directory ++ "/plugboard/plugboard.toml"

/-- The documents that configure a run, the weakest first: only the given one, or those of the
system, of the user and of the working directory. -/
def configPaths (s : Surroundings) : Option String → List String
  | some path => [path]
  | none => [systemConfig, userConfig s, localConfig]

/-- The document at a path, if there is a file. -/
def source? (files : FileAccess) (path : String) : Option ConfigSource :=
  if files.isFile path then some ⟨path, true, (files.read path).toOption⟩ else none

def loadConfig (s : Surroundings) (path : Option String) : Except (List ConfigError) Config :=
  Config.load ((configPaths s path).filterMap (source? s.files)) s.environment

/-- The manifests of a run: those of the configuration, then those of the arguments. -/
def manifestFiles (files : FileAccess) (c : Config) (extra : List String) : List ManifestFile :=
  (c.manifests ++ extra).map fun path => ⟨path, files.read path⟩

/-- Registers the plugins of a run and goes on with the registry. -/
def withRegistry (files : FileAccess) (c : Config) (extra : List String)
    (next : Registry → Except PluginError String) : ProgramEnd :=
  match (Shared.new.startup (manifestFiles files c extra)).2 with
  | .error e => .failed e.toPluginError
  | .ok r =>
    match next r with
    | .ok text => .printed text
    | .error e => .failed e

/-- What a command answers under a configuration. -/
def execute (files : FileAccess) (c : Config) : Command → ProgramEnd
  | .list json _ manifests =>
    withRegistry files c manifests fun r =>
      .ok (if json then c.listingJson r else c.listingText r)
  | .resolve select flags manifests json =>
    withRegistry files c manifests fun r =>
      match c.resolve r ⟨select, flags⟩ .newestFirst with
      | .ok o => .ok (if json then o.json else o.text)
      | .error e => .error e.toPluginError
  | .config =>
    match c.render with
    | .ok text => .printed text
    | .error e => .failed (.config ("cannot render configuration: " ++ e.message))
  | .none => .printed "plugboard: use --help for available commands\n"

def run (arguments : List String) (s : Surroundings) : ProgramEnd :=
  match Arguments.parse arguments with
  | .error .help => .help
  | .error .version => .printed versionText
  | .error .usage => .usage
  | .ok a =>
    match loadConfig s a.config with
    | .error errors => .diagnostics errors
    | .ok c => execute s.files c a.command

/-- The files that a run reads before its configuration is known. -/
def firstPaths (arguments : List String) (s : Surroundings) : List String :=
  match Arguments.parse arguments with
  | .ok a => configPaths s a.config
  | .error _ => []

/-- The manifests that a run reads, given the files of its configuration. -/
def manifestPaths (arguments : List String) (s : Surroundings) : List String :=
  match Arguments.parse arguments with
  | .error _ => []
  | .ok a =>
    let extra := match a.command with
      | .list _ _ manifests => manifests
      | .resolve _ _ manifests _ => manifests
      | _ => []
    match loadConfig s a.config with
    | .error _ => []
    | .ok c => c.manifests ++ extra

end Program

end Dashboard
