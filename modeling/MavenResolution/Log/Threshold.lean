import MavenResolution.Text.Quoted

/-! The level from which on records are shown, and how it is chosen. -/
namespace MavenResolution.Log

open Text

/-- The setting of the log: the least level shown, and how many handlers show it. -/
structure Threshold where
  level : Nat := 30
  handlers : Nat := 0
  deriving DecidableEq, Repr

inductive ThresholdFault where
  /-- The name stands for a text that names no level. -/
  | unknownLevel (text : String)
  /-- The name stands for something that is no level at all. -/
  | notLevel
  deriving DecidableEq, Repr

def ThresholdFault.message : ThresholdFault → String
  | .unknownLevel text => "Unknown level: " ++ quote text
  | .notLevel => "Level not an integer or a valid string"

/-- Capitals of the characters that level names are written with: the ASCII letters, and two
letters whose capitals are ASCII. -/
def capital (c : Char) : Char :=
  if c == 'ı' then 'I' else if c == 'ſ' then 'S' else c.toUpper

/-- The number of a level; a name that is not known stands for the level of plain information. -/
def levelOfName (name : String) : Except ThresholdFault Nat :=
  match String.ofList (name.toList.map capital) with
  | "CRITICAL" => .ok 50
  | "FATAL" => .ok 50
  | "ERROR" => .ok 40
  | "WARNING" => .ok 30
  | "WARN" => .ok 30
  | "DEBUG" => .ok 10
  | "NOTSET" => .ok 0
  | "BASIC_FORMAT" => .error (.unknownLevel "%(levelname)s:%(name)s:%(message)s")
  | "_STYLES" => .error .notLevel
  | _ => .ok 20

/-- A name that is given and not empty. -/
def given (name : Option String) : Option String := name.filter (!·.isEmpty)

namespace Threshold

/-- Sets the level by name; the name asked for goes before the one from the environment. The
first call installs the one handler. -/
def configure (threshold : Threshold) (requested environment : Option String) :
    Except ThresholdFault Unit × Threshold :=
  let threshold := { threshold with handlers := if threshold.handlers = 0 then 1 else threshold.handlers }
  match levelOfName ((given requested <|> given environment).getD "INFO") with
  | .ok level => (.ok (), { threshold with level })
  | .error fault => (.error fault, threshold)

def showsDebug (threshold : Threshold) : Bool := threshold.level ≤ 10

end Threshold

/-- A record as the handler writes it. -/
def line (level message : String) : String := "[" ++ level ++ "] " ++ message

end MavenResolution.Log
