import MavenResolution.Configuration.Conversion
import MavenResolution.Log
import MavenResolution.Repository.Basic

/-! The `Constants` that a YAML configuration may override, and the overriding. -/
namespace MavenResolution

structure Configuration where
  requestTimeout : Int := 30
  retryMax : Int := 3
  retryDelay : Decimal.Binary64 := .ofDecimal false 3 (-1)
  maxWorkers : Int := 8
  centralUri : String := Repository.centralUri
  deriving DecidableEq, Repr

namespace Configuration

open Yaml

/-- The keys of a configuration that override `Constants`. -/
inductive Key where
  | requestTimeout
  | retryMax
  | retryDelay
  | maxWorkers
  | centralUri
  deriving DecidableEq, Repr

def Key.name : Key → String
  | .requestTimeout => "request_timeout"
  | .retryMax => "http_retry_max"
  | .retryDelay => "http_retry_delay_sec"
  | .maxWorkers => "max_workers"
  | .centralUri => "maven_central_url"

/-- The settings in the order in which they are changed. -/
def Key.all : List Key := [.requestTimeout, .retryMax, .retryDelay, .maxWorkers, .centralUri]

variable {α : Type} [Object α]

/-- The configuration with one setting changed to a value of its kind. -/
def set (configuration : Configuration) (key : Key) (value : Data α) :
    Except ConversionFault Configuration :=
  match key with
  | .requestTimeout => do return { configuration with requestTimeout := ← toInteger value }
  | .retryMax => do return { configuration with retryMax := ← toInteger value }
  | .retryDelay => do return { configuration with retryDelay := ← toNumber value }
  | .maxWorkers => do return { configuration with maxWorkers := ← toInteger value }
  | .centralUri => do return { configuration with centralUri := ← toText value }

/-- What changing settings gives: the configuration so far, what the log says, and the fault that
ended it. -/
structure Applied where
  configuration : Configuration
  log : List Log.Entry := []
  fault : Option ConversionFault := none
  deriving Repr

def ignored (key : Key) (value : Data α) : Log.Entry :=
  Log.warning .configuration ("Ignoring config value " ++ key.name ++ "=" ++ value.shown)

/-- Changes the settings that a document has values for. A value that does not suit is passed
over; a number out of bounds ends it. -/
def applyKeys (entries : List (Data α × Data α)) : List Key → Configuration → Applied
  | [], configuration => { configuration }
  | key :: rest, configuration =>
    match Data.entry? key.name entries with
    | none | some .null => applyKeys entries rest configuration
    | some value =>
      match configuration.set key value with
      | .ok changed => applyKeys entries rest changed
      | .error .unsuitable =>
        let applied := applyKeys entries rest configuration
        { applied with log := ignored key value :: applied.log }
      | .error fault => { configuration, fault := some fault }

def apply (configuration : Configuration) (entries : List (Data α × Data α)) : Applied :=
  applyKeys entries Key.all configuration

/-- Maven Central, at the URL that `maven_central_url` sets. -/
def central (configuration : Configuration) : Repository :=
  Repository.central configuration.centralUri

end Configuration
end MavenResolution
