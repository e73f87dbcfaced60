/-! Log records. -/
namespace MavenResolution.Log

inductive Level where
  | debug
  | warning
  deriving DecidableEq, Repr

/-- The logger of a record. -/
inductive Source where
  | ranges
  | selection
  | configuration
  | settings
  | transport
  | cache
  | normalization
  | download
  | artifacts
  | session
  | resolution
  deriving DecidableEq, Repr

inductive Field where
  | text (value : String)
  | number (value : Nat)
  deriving DecidableEq, Repr

structure Entry where
  level : Level
  source : Source
  message : String
  fields : List (String × Field) := []
  deriving DecidableEq, Repr

def debug (source : Source) (message : String) (fields : List (String × Field) := []) : Entry :=
  ⟨.debug, source, message, fields⟩

def warning (source : Source) (message : String) (fields : List (String × Field) := []) : Entry :=
  ⟨.warning, source, message, fields⟩

/-- The fields that have a value. -/
def present (fields : List (String × Option α)) : List (String × α) :=
  fields.filterMap fun (name, value) => value.map (name, ·)

end MavenResolution.Log
