import Dashboard.Config.Validation
import Dashboard.Text.Similarity

/-!
# Configuration diagnostics

What is reported about a configuration that cannot be used: each error with a code, a help text and,
for a mistyped key, a guess at the key that was meant and the place in the source.
-/

namespace Dashboard

/-- A source text that a diagnostic points into. -/
structure SourceSpan where
  source : String
  offset : Nat
  length : Nat
  deriving DecidableEq, Repr

inductive ConfigError where
  | unknownKey (key : String) (suggestion : Option String) (validKeys : List String)
      (span : Option SourceSpan)
  | invalidType (key found expected : String)
  | missingKey (key : String)
  | invalid (violation : Violation)
  /-- The named source is not TOML. -/
  | notToml (source : String)
  /-- The named source is not text. -/
  | notText (source : String)
  deriving DecidableEq, Repr

/-- The valid key most similar to a mistyped one, if it is similar enough. Of equally similar keys
the first is taken. -/
def suggestKey (mistyped : String) (valid : List String) : Option String :=
  (valid.foldl (fun (best : Float × Option String) key =>
    let score := Text.similarity mistyped key
    if score > best.1 then (score, some key) else best) (0.75, none)).2

namespace ConfigError

def message : ConfigError → String
  | unknownKey key _ _ _ => "unknown configuration key `" ++ key ++ "`"
  | invalidType key found expected =>
    "invalid type for key `" ++ key ++ "`: found " ++ found ++ ", expected " ++ expected
  | missingKey key => "missing required key `" ++ key ++ "`"
  | invalid v => "validation error: " ++ v.message
  | notToml source => "configuration error: TOML parse error\n in " ++ source ++ " TOML file"
  | notText source =>
    "configuration error: stream did not contain valid UTF-8\n in " ++ source ++ " TOML file"

def code : ConfigError → String
  | unknownKey .. => "plugboard::config::unknown_key"
  | invalidType .. => "plugboard::config::invalid_type"
  | missingKey _ => "plugboard::config::missing_key"
  | invalid _ => "plugboard::config::validation"
  | notToml _ | notText _ => "plugboard::config::other"

def help : ConfigError → Option String
  | unknownKey _ (some s) valid _ =>
    some ("did you mean `" ++ s ++ "`? Valid keys: " ++ ", ".intercalate valid)
  | unknownKey _ none valid _ => some ("valid keys: " ++ ", ".intercalate valid)
  | invalidType _ _ expected => some ("expected " ++ expected)
  | missingKey key => some ("add `" ++ key ++ " = <value>` to your plugboard.toml")
  | invalid _ | notToml _ | notText _ => none

end ConfigError

end Dashboard
