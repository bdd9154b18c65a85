import Dashboard.Json.Basic

/-!
# User settings

Arbitrary JSON values under keys. Where a setting gates a plugin only the value `true` counts.
-/

namespace Dashboard

open Data

structure Settings where
  values : KeyMap Json

namespace Settings

def empty : Settings := ⟨.empty⟩

instance : Inhabited Settings := ⟨empty⟩

def get? (s : Settings) (key : String) : Option Json := s.values.get? key

/-- Whether the setting is exactly `true`. -/
def isOn (s : Settings) (key : String) : Bool :=
  match s.get? key with
  | some (.boolean b) => b
  | _ => false

def set (s : Settings) (key : String) (value : Json) : Settings := ⟨s.values.insert key value⟩

def isEmpty (s : Settings) : Bool := s.values.isEmpty

def same (a b : Settings) : Bool := Json.sameEntries a.values.entries b.values.entries

@[simp] theorem isOn_empty (key : String) : empty.isOn key = false := rfl

@[simp] theorem isOn_set_self (s : Settings) (key : String) (value : Bool) :
    (s.set key (.boolean value)).isOn key = value := by
  simp [isOn, get?, set]

end Settings

end Dashboard
