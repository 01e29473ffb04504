import TableGateway.Discovery.Rule
import TableGateway.Value.Integer

/-!
# Unusable configurations

Why a configuration cannot be used, and what is said about it.
-/

namespace TableGateway.Config

inductive Error where
  | missingVersion
  | unsupportedVersion (version : String)
  | noProviders
  /-- A provider without some of its parts. -/
  | missingParts (names : List String)
  | missingHost (id : Value)
  | invalidPort (id : Value) (cause : IntegerError)
  | rule (e : Discovery.RuleError)
  /-- The environment names no host. -/
  | unsetHost
  /-- The environment gives a port that is no integer. -/
  | invalidPortVariable (cause : IntegerError)
  /-- Data that has no members in the place of a configuration. -/
  | notAnObject (v : Value)
  /-- Data that cannot be listed in the place of providers or rules. -/
  | notAList (v : Value)
  /-- Data of the wrong kind in the place of a provider. -/
  | notAProvider (v : Value)
deriving Repr, DecidableEq

namespace Error

/-- A failure of the configuration. -/
def foreseen (message : String) : Failure :=
  .foreseen { area := .config, message }

/-- The failure of a configuration. A port too large for a number is not foreseen, nor is data of a
kind that no reading of it allows for. -/
def failure : Error → Failure
  | missingVersion => .foreseen
      { area := .config, message := "Configuration is missing 'version' property",
        code := .versionMissing }
  | unsupportedVersion version =>
    foreseen ("Unsupported configuration version '" ++ version ++ "'")
  | noProviders => foreseen "Configuration must define at least one provider"
  | missingParts names =>
    foreseen ("Provider configuration is missing " ++ Value.quotedNames names)
  | missingHost id => foreseen ("Provider '" ++ id.shown ++ "' options must include 'host'")
  | invalidPort _ .infinite => .unexpected IntegerError.infinite.fault
  | invalidPort id cause => .foreseen
      { area := .config, message := "Provider '" ++ id.shown ++ "' has an invalid port",
        cause := some cause.fault }
  | rule e => e.failure
  | unsetHost =>
    foreseen "POSTGRES_HOST environment variable not found. Please check your .env file."
  | invalidPortVariable cause => .foreseen
      { area := .config, message := "POSTGRES_PORT must be a number", cause := some cause.fault }
  | notAnObject v => .unexpected ⟨.noMembers, v.quoted ++ " is not an object"⟩
  | notAList v => .unexpected ⟨.wrongKind, v.quoted ++ " is not a list"⟩
  | notAProvider v => .unexpected ⟨.wrongKind, v.quoted ++ " is not a provider"⟩

end Error

end TableGateway.Config
