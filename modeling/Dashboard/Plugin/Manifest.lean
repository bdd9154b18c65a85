import Dashboard.Plugin.Codec
import Dashboard.Plugin.Descriptor
import Dashboard.Text.Blank
import Dashboard.Toml.Document
import Dashboard.Version.Requirement

/-!
# Plugin manifests

A manifest lets a plugin packaged elsewhere register. It is a TOML document with one section that
names the plugin, says how it is mounted, and may gate it by a flag, a setting, an opt-in and the
versions of the host that it supports.
-/

namespace Dashboard

open Data

def hostVersion : Version := ⟨0, 1, 0⟩

/-- The section of a manifest as it is written. -/
structure ManifestSection where
  id : String
  displayName : Option String
  mount : String
  elementName : Option String
  modulePath : Option String
  url : Option String
  requiresFlag : Option String
  requiresSetting : Option String
  experimental : Bool
  minHostVersion : Option String
  deriving DecidableEq, Repr

structure Manifest where
  id : PluginId
  displayName : String
  mount : MountPoint
  requiresFlag : Option String
  requiresSetting : Option String
  experimental : Bool
  minHostVersion : Option String
  deriving DecidableEq, Repr

/-- Why a manifest is refused. -/
inductive ManifestError where
  | notToml
  | misshapen (error : DecodeError)
  | emptyId
  | unknownMount (mount : String)
  /-- The text that the kind of mount needs is missing or blank. -/
  | missingTarget (kind : MountKind)
  | invalidRequirement (requirement : String) (error : Version.RequirementError)
  | unsupportedHost (requirement : String)
  deriving DecidableEq, Repr

namespace ManifestError

/-- The key of the text that a kind of mount needs. -/
def targetKey (kind : MountKind) : String := ((MountPoint.target? kind).map (·.1)).getD ""

def reason : ManifestError → String
  | notToml => "TOML parse error"
  | misshapen e => e.misfit.message Number.Binary64.pointedText
  | emptyId => "id must not be empty"
  | unknownMount mount =>
    "invalid mount '" ++ mount ++ "'. Expected one of: "
      ++ ", ".intercalate (MountKind.all.map MountKind.name)
  | missingTarget kind =>
    "mount '" ++ kind.name ++ "' requires a non-empty `" ++ targetKey kind ++ "`"
  | invalidRequirement requirement e =>
    "invalid min_host_version '" ++ requirement ++ "': " ++ e.message
  | unsupportedHost requirement =>
    "plugin requires host " ++ requirement ++ ", this is " ++ hostVersion.text

end ManifestError

namespace ManifestSection

/-- How the section is read: every key must be known. -/
def layout {σ : Type} [Readable σ] : Layout σ ManifestSection where
  name := "PluginSection"
  fields :=
    [.of "id" .required Decoder.text fun s v => { s with id := v },
     .of "display_name" .defaulted (Decoder.optional Decoder.text)
       fun s v => { s with displayName := v },
     .of "mount" .required Decoder.text fun s v => { s with mount := v },
     .of "element_name" .optional (Decoder.optional Decoder.text)
       fun s v => { s with elementName := v },
     .of "module_path" .optional (Decoder.optional Decoder.text)
       fun s v => { s with modulePath := v },
     .of "url" .optional (Decoder.optional Decoder.text) fun s v => { s with url := v },
     .of "requires_flag" .optional (Decoder.optional Decoder.text)
       fun s v => { s with requiresFlag := v },
     .of "requires_setting" .optional (Decoder.optional Decoder.text)
       fun s v => { s with requiresSetting := v },
     .of "experimental" .defaulted Decoder.boolean fun s v => { s with experimental := v },
     .of "min_host_version" .optional (Decoder.optional Decoder.text)
       fun s v => { s with minHostVersion := v }]
  strict := true
  initial := ⟨"", none, "", none, none, none, none, none, false, none⟩

/-- How a manifest is read: it holds the section under one key, and other keys do not matter. -/
def fileLayout {σ : Type} [Readable σ] : Layout σ ManifestSection where
  name := "PluginManifestFile"
  fields := [.of "plugin" .required layout.decode fun _ v => v]
  strict := false
  initial := ⟨"", none, "", none, none, none, none, none, false, none⟩

/-- The text that the given kind of mount needs. -/
def target (s : ManifestSection) : MountKind → Option String
  | .element => s.elementName
  | .iframe => s.modulePath
  | .bundle => s.url
  | .none => none

/-- The mount point of the given kind. Its text must be there and not blank. -/
def mountPoint (s : ManifestSection) (kind : MountKind) : Except ManifestError MountPoint :=
  if kind = .none then .ok .none
  else match s.target kind with
    | some text =>
      if Text.blank text then .error (.missingTarget kind) else .ok (.ofKind kind text)
    | none => .error (.missingTarget kind)

/-- Checks that a version requirement, if there is one, accepts this host. -/
def checkHost (requirement : Option String) : Except ManifestError Unit :=
  match requirement with
  | none => .ok ()
  | some text =>
    match Version.Requirement.ofText text with
    | .error e => .error (.invalidRequirement text e)
    | .ok r => if r.accepts hostVersion then .ok () else .error (.unsupportedHost text)

end ManifestSection

namespace Manifest

/-- Accepts or refuses the section of a manifest. The first check that fails decides: the
identifier, the kind of mount, the text it needs, and the version of the host. -/
def ofSection (s : ManifestSection) : Except ManifestError Manifest :=
  if Text.blank s.id then .error .emptyId
  else match MountKind.ofText? s.mount with
    | none => .error (.unknownMount s.mount)
    | some kind =>
      match s.mountPoint kind with
      | .error e => .error e
      | .ok mount =>
        match ManifestSection.checkHost s.minHostVersion with
        | .error e => .error e
        | .ok () => .ok
          { id := ⟨s.id⟩
            displayName := (s.displayName.filter fun name => !Text.blank name).getD s.id
            mount := mount
            requiresFlag := s.requiresFlag
            requiresSetting := s.requiresSetting
            experimental := s.experimental
            minHostVersion := s.minHostVersion }

def parse (text : String) : Except ManifestError Manifest :=
  match Toml.parse? text with
  | none => .error .notToml
  | some entries =>
    match ManifestSection.fileLayout.decode (Toml.Value.table entries) with
    | .error e => .error (.misshapen e)
    | .ok s => ofSection s

/-- What must hold for the plugin to be available: every gate that the manifest declares. -/
def predicate (m : Manifest) : Predicate :=
  let p := Predicate.always
  let p := m.requiresFlag.elim p fun name => p.and (.flag name)
  let p := m.requiresSetting.elim p fun key => p.and (.setting key)
  if m.experimental then p.and (.experimental m.id) else p

def toDescriptor (m : Manifest) : Descriptor :=
  { id := m.id, displayName := m.displayName, mount := m.mount, predicate := m.predicate }

def toJson (m : Manifest) : Json :=
  .object
    [("display_name", .string m.displayName), ("experimental", .boolean m.experimental),
     ("id", m.id.toJson), ("min_host_version", .ofOption m.minHostVersion),
     ("mount_point", m.mount.toJson), ("requires_flag", .ofOption m.requiresFlag),
     ("requires_setting", .ofOption m.requiresSetting)]

def layout : Layout Json Manifest where
  name := "PluginManifest"
  fields :=
    [.of "id" .required PluginId.decoder fun m v => { m with id := v },
     .of "display_name" .required Decoder.text fun m v => { m with displayName := v },
     .of "mount_point" .required MountPoint.decoder fun m v => { m with mount := v },
     .of "requires_flag" .optional (Decoder.optional Decoder.text)
       fun m v => { m with requiresFlag := v },
     .of "requires_setting" .optional (Decoder.optional Decoder.text)
       fun m v => { m with requiresSetting := v },
     .of "experimental" .required Decoder.boolean fun m v => { m with experimental := v },
     .of "min_host_version" .optional (Decoder.optional Decoder.text)
       fun m v => { m with minHostVersion := v }]
  strict := false
  initial := ⟨⟨""⟩, "", .none, none, none, false, none⟩

def decoder : Decoder Json Manifest := layout.decode

end Manifest

end Dashboard
