import DocHarvest.Json.Error
import DocHarvest.Language.Registry

/-!
# Why a run fails

A `RunError` ends a run. `message` words those errors whose wording is fixed.
-/

namespace DocHarvest

/-- Why no run can succeed with some settings. -/
inductive ConfigFault where
  | noShards
  | noWorkers
  /-- No count of tokens lies between the bounds. -/
  | boundsCrossed (least greatest : Nat)
deriving DecidableEq

/-- What ends a run. -/
inductive RunError where
  /-- A file cannot be read or written. -/
  | io
  /-- A directory cannot be walked. -/
  | walk
  /-- The pattern for file names is malformed. -/
  | glob
  /-- The settings cannot be read as YAML. -/
  | yaml
  | json (error : Json.ReadError)
  | unsupportedLanguage (name : Text)
  | invalidConfig (fault : ConfigFault)
  | badEntry (source : Text) (line : Nat) (error : Json.ReadError)
deriving DecidableEq

def ConfigFault.message : ConfigFault → Text
  | noShards => "shards must be at least 1".toList
  | noWorkers => "workers must be at least 1".toList
  | boundsCrossed least greatest =>
    "min_docstring_tokens (".toList ++ Text.decimal least ++
      ") must be below max_docstring_tokens (".toList ++ Text.decimal greatest ++ [')']

/-- The wording of an error, where it is fixed. -/
def RunError.message? : RunError → Option Text
  | io | walk | glob | yaml => none
  | json error => some error.message
  | unsupportedLanguage name =>
    some ("Language ".toList ++ Language.normalize name ++ " not supported".toList)
  | invalidConfig fault => some ("Invalid configuration: ".toList ++ fault.message)
  | badEntry source line error =>
    some ("Invalid dataset entry at ".toList ++ source ++ ':' :: Text.decimal line ++
      ": ".toList ++ error.message)

/-- The language that a name stands for. -/
def Language.resolve (name : Text) : Except RunError Language :=
  match Language.ofName? name with
  | some l => .ok l
  | none => .error (.unsupportedLanguage name)

end DocHarvest
