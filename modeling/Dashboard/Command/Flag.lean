import Dashboard.Store.Flags
import Dashboard.Text.Blank
import Dashboard.Text.Split

/-!
# Flag overrides

A flag is overridden on the command line by its name, which turns it on, or by the name, an equals
sign and `true` or `false`. Of several overrides of one flag the last one counts.
-/

namespace Dashboard

/-- Why an override is refused. -/
inductive FlagError where
  | notBoolean (name value : String)
  | noName (override : String)
  deriving DecidableEq, Repr

namespace FlagError

def reason : FlagError → String
  | notBoolean name value =>
    "flag `" ++ name ++ "` expects true or false, got `" ++ value ++ "`"
  | noName override => "flag `" ++ override ++ "` has no name"

end FlagError

structure FlagOverride where
  name : String
  value : Bool
  deriving DecidableEq, Repr

namespace FlagOverride

def boolean? (s : List Char) : Option Bool :=
  if s = ['t', 'r', 'u', 'e'] then some true
  else if s = ['f', 'a', 'l', 's', 'e'] then some false
  else none

/-- The override with a name, unless the name is blank. -/
def named (text : String) (name : List Char) (value : Bool) : Except FlagError FlagOverride :=
  let name := Text.trim name
  if name.isEmpty then .error (.noName text) else .ok ⟨String.ofList name, value⟩

def parse (text : String) : Except FlagError FlagOverride :=
  match Text.cut? '=' text.toList with
  | none => named text text.toList true
  | some (name, value) =>
    match boolean? (Text.trim value) with
    | none => .error (.notBoolean (String.ofList name) (String.ofList value))
    | some b => named text name b

end FlagOverride

namespace FeatureFlags

/-- Applies overrides in order, up to the first that is refused. -/
def override (f : FeatureFlags) : List String → Except FlagError FeatureFlags
  | [] => .ok f
  | text :: rest =>
    match FlagOverride.parse text with
    | .error e => .error e
    | .ok o => (f.withFlag o.name o.value).override rest

end FeatureFlags

end Dashboard
