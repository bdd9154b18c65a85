import Dashboard.Files
import Dashboard.Plugin.Manifest
import Dashboard.Plugin.Shared

/-!
# Startup

The catalog registers first and the manifests after it, in order, so that a built-in plugin is the
default whenever one is eligible. The first manifest that cannot be used ends the startup, and what
registered before it stays registered. The program registers in the table that all its threads
share; a table of its own serves where there are no others.
-/

namespace Dashboard

/-- Why the startup failed. -/
inductive StartupError where
  | registration (error : PluginError)
  | unreadable (path : String) (error : ReadError)
  | manifest (error : ManifestError)
  deriving DecidableEq, Repr

namespace StartupError

def toPluginError : StartupError → PluginError
  | registration e => e
  | unreadable path e => .manifest ("cannot read " ++ path ++ ": " ++ e.message)
  | manifest e => .manifest e.reason

end StartupError

structure ManifestFile where
  path : String
  content : Except ReadError String

namespace ManifestFile

def descriptor (f : ManifestFile) : Except StartupError Descriptor :=
  match f.content with
  | .error e => .error (.unreadable f.path e)
  | .ok text =>
    match Manifest.parse text with
    | .error e => .error (.manifest e)
    | .ok m => .ok m.toDescriptor

end ManifestFile

namespace Registry

def registerManifest (r : Registry) (f : ManifestFile) : Except StartupError Registry :=
  match f.descriptor with
  | .error e => .error e
  | .ok d => (r.register d).mapError .registration

/-- Registers the plugins of manifests in order, up to the first that fails. -/
def registerManifests (r : Registry) :
    List ManifestFile → Registry × Except StartupError Unit
  | [] => (r, .ok ())
  | f :: rest =>
    match r.registerManifest f with
    | .ok r => r.registerManifests rest
    | .error e => (r, .error e)

/-- Registers the catalog and then the plugins of manifests. The first part of the answer is what is
registered afterwards, whether or not the startup succeeded. -/
def startup (r : Registry) (files : List ManifestFile) : Registry × Except StartupError Unit :=
  match r.registerCatalog with
  | (r, .error e) => (r, .error (.registration e))
  | (r, .ok _) => r.registerManifests files

end Registry

namespace Shared

/-- Registers the plugins of manifests in the shared registry, in order, up to the first that
fails. -/
def registerManifests (s : Shared) : List ManifestFile → Shared × Except StartupError Unit
  | [] => (s, .ok ())
  | f :: rest =>
    match f.descriptor with
    | .error e => (s, .error e)
    | .ok d =>
      match s.register d with
      | (s, .ok ()) => s.registerManifests rest
      | (s, .error e) => (s, .error (.registration e))

/-- Registers the catalog and then the plugins of manifests in the shared registry, and answers with
the table that is published in the end. -/
def startup (s : Shared) (files : List ManifestFile) : Shared × Except StartupError Registry :=
  match s.registerCatalog with
  | (s, .error e) => (s, .error (.registration e))
  | (s, .ok _) =>
    match s.registerManifests files with
    | (s, .error e) => (s, .error e)
    | (s, .ok ()) => (s.takeSnapshot, .ok s.current)

end Shared

end Dashboard
