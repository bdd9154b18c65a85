import Dashboard.Config.Model
import Dashboard.Json.Printer
import Dashboard.Plugin.Registry

/-!
# Listing plugins

Every registered plugin with what the configuration makes of it: whether it is enabled and whether
it is known.
-/

namespace Dashboard

structure ListingRow where
  id : PluginId
  displayName : String
  mount : MountPoint
  enabled : Bool
  known : Bool
  predicate : Predicate

namespace ListingRow

def isAvailable (r : ListingRow) : Bool := r.enabled && r.known

def toJson (r : ListingRow) : Json :=
  .object
    [("id", .string r.id.text), ("display_name", .string r.displayName),
     ("mount", .string r.mount.name), ("enabled", .boolean r.enabled),
     ("known", .boolean r.known), ("predicate", .string r.predicate.label)]

def note (r : ListingRow) : String :=
  if !r.known then " (not available)"
  else if !r.enabled then " (disabled: " ++ r.predicate.label ++ ")"
  else ""

/-- `s` with spaces behind it up to the given width. -/
def padTo (width : Nat) (s : String) : String := s ++ "".pushn ' ' (width - s.length)

def line (r : ListingRow) : String :=
  "    " ++ (if r.isAvailable then "[ON] " else "[OFF]") ++ " " ++ padTo 16 r.id.text ++ " "
    ++ padTo 18 r.displayName ++ " " ++ r.mount.name ++ r.note ++ "\n"

end ListingRow

namespace Config

def listing (c : Config) (r : Registry) : List ListingRow :=
  let known := (c.initialSnapshot r.ids).activation.known
  r.descriptors.map fun d =>
    { id := d.id
      displayName := d.displayName
      mount := d.mount
      enabled := d.isEnabled c.featureFlags c.userSettings
      known := known.contains d.id
      predicate := d.predicate }

def listingText (c : Config) (r : Registry) : String :=
  "\n  " ++ c.dashboard.name ++ " plugins\n  " ++ "".pushn '-' 50 ++ "\n"
    ++ String.join ((c.listing r).map ListingRow.line) ++ "\n"

def listingJson (c : Config) (r : Registry) : String :=
  (Json.array ((c.listing r).map ListingRow.toJson)).pretty ++ "\n"

end Config

end Dashboard
