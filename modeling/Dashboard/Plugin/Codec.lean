import Dashboard.Data.Decode
import Dashboard.Plugin.Id
import Dashboard.Plugin.MountPoint

/-!
# Identifiers and mount points as JSON

An identifier is written as its text and a kind of mount point as its word. A mount point is an
object that names its kind and holds the one text the kind needs; it is also read from an array
that lists the two.
-/

namespace Dashboard

open Data

namespace PluginId

def toJson (id : PluginId) : Json := .string id.text

def decoder {σ : Type} [Readable σ] : Decoder σ PluginId := fun v => PluginId.mk <$> Decoder.text v

theorem decoder_toJson (id : PluginId) : decoder id.toJson = .ok id := rfl

end PluginId

namespace MountKind

def toJson (k : MountKind) : Json := .string k.name

/-- The kind of exactly this name. -/
def ofName (name : String) : Except DecodeError MountKind :=
  match all.find? (·.name == name) with
  | some k => .ok k
  | .none => .error (.here (.unknownVariant name (all.map MountKind.name)))

/-- Reads a kind from its word, or from an object with the word as its only key and null below. -/
def decoder : Decoder Json MountKind := fun v =>
  match v with
  | .string s => ofName s
  | .object [(key, content)] =>
    match ofName key with
    | .error e => .error e
    | .ok k =>
      match content with
      | .null => .ok k
      | other => Decoder.mismatch other "unit"
  | .object _ => .error (.here (.invalidValue .mapping "map with a single key"))
  | other => Decoder.mismatch other "string or map"

theorem decoder_toJson (k : MountKind) : decoder k.toJson = .ok k := by
  cases k <;> rfl

end MountKind

namespace MountPoint

/-- The key of the text that a kind needs, and the name of the kind in messages. -/
def target? : MountKind → Option (String × String)
  | .element => some ("element_name", "Element")
  | .iframe => some ("module_path", "Iframe")
  | .bundle => some ("url", "Bundle")
  | .none => .none

/-- The mount point of a kind with a given text. -/
def ofKind (kind : MountKind) (text : String) : MountPoint :=
  match kind with
  | .element => .element text
  | .iframe => .iframe text
  | .bundle => .bundle text
  | .none => .none

def toJson : MountPoint → Json
  | .element name => .object [("element_name", .string name), ("kind", .string "element")]
  | .iframe path => .object [("kind", .string "iframe"), ("module_path", .string path)]
  | .bundle url => .object [("kind", .string "bundle"), ("url", .string url)]
  | .none => .object [("kind", .string "none")]

/-- Reads the kind that an object or array names. -/
def readKind : Json → Except DecodeError MountKind
  | .string s => MountKind.ofName s
  | other => Decoder.mismatch other "variant identifier"

/-- Reads a mount point of a known kind from the entries of an object. -/
def ofEntries (kind : MountKind) (entries : List (String × Json)) : Except DecodeError MountPoint :=
  match target? kind with
  | .none => .ok .none
  | some (key, _) =>
    match findEntry key entries with
    | .none => .error (.here (.missingField key))
    | some v => ofKind kind <$> Decoder.text v

def itemsExpected (n : Nat) : String :=
  String.ofList (Number.digitsOf n) ++ (if n = 1 then " element" else " elements") ++ " in sequence"

/-- Reads a mount point of a known kind from the items after the kind. -/
def ofItems (kind : MountKind) (items : List Json) : Except DecodeError MountPoint :=
  match target? kind, items with
  | .none, [] => .ok .none
  | .none, items => .error (.here (.invalidLength items.length (itemsExpected 0)))
  | some (_, variant), [] =>
    let expected := "struct variant MountPoint::" ++ variant ++ " with 1 element"
    .error (.here (.invalidLength 0 expected))
  | some _, v :: rest =>
    match Decoder.text v with
    | .error e => .error e
    | .ok text =>
      if rest.isEmpty then .ok (ofKind kind text)
      else .error (.here (.invalidLength items.length (itemsExpected 1)))

def decoder : Decoder Json MountPoint := fun v =>
  match v with
  | .object entries =>
    match findEntry "kind" entries with
    | .none => .error (.here (.missingField "kind"))
    | some tag =>
      match readKind tag with
      | .error e => .error e
      | .ok kind => ofEntries kind entries
  | .array [] => .error (.here (.missingField "kind"))
  | .array (tag :: items) =>
    match readKind tag with
    | .error e => .error e
    | .ok kind => ofItems kind items
  | other => Decoder.mismatch other "internally tagged enum MountPoint"

theorem decoder_toJson (p : MountPoint) : decoder p.toJson = .ok p := by
  cases p <;> rfl

end MountPoint

end Dashboard
