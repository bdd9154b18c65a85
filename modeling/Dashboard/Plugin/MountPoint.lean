import Dashboard.Text.Ascii

/-!
# Mount points

How the rendering unit of a plugin is attached to the dashboard: as an element of the page, as an
embedded frame, as a bundle that is fetched first, or not at all.
-/

namespace Dashboard

inductive MountKind where
  | element
  | iframe
  | bundle
  | none
  deriving DecidableEq, Repr, Inhabited

namespace MountKind

def name : MountKind → String
  | element => "element"
  | iframe => "iframe"
  | bundle => "bundle"
  | none => "none"

/-- All kinds, in the order in which messages list them. -/
def all : List MountKind := [element, iframe, bundle, none]

/-- The kind a word names, in any case of its letters. -/
def ofText? (s : String) : Option MountKind :=
  all.find? fun k => Text.eqIgnoringCase s k.name

theorem mem_all (k : MountKind) : k ∈ all := by
  cases k <;> simp [all]

end MountKind

/-- Where the rendering unit of a plugin comes from. -/
inductive MountPoint where
  /-- A component registered as a custom element. -/
  | element (elementName : String)
  /-- An embedded frame that loads an entry module. -/
  | iframe (modulePath : String)
  /-- A bundle fetched before rendering. -/
  | bundle (url : String)
  /-- Nothing of its own: the region stays empty. -/
  | none
  deriving DecidableEq, Repr, Inhabited

namespace MountPoint

def kind : MountPoint → MountKind
  | element _ => .element
  | iframe _ => .iframe
  | bundle _ => .bundle
  | none => .none

def name (p : MountPoint) : String := p.kind.name

end MountPoint

end Dashboard
