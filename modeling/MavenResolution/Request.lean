import MavenResolution.Coordinate
import MavenResolution.Text.Blank

/-! Requests: a module with the constraints declared for it, nearest first. -/
namespace MavenResolution

structure Request where
  group : String
  artifact : String
  constraints : List String
  type : Option String := none
  deriving DecidableEq, Repr

namespace Request

open Text

def moduleId (request : Request) : ModuleId := ⟨request.group, request.artifact⟩

def identifier (request : Request) : String := request.moduleId.text

/-- A text cut at its first colon. -/
def cut (text : List Char) : Option (List Char × List Char) :=
  if text.contains ':' then
    some (text.takeWhile (· != ':'), (text.dropWhile (· != ':')).drop 1)
  else none

/-- The message for a text that is no `group:artifact:constraint`. -/
def refusal (text : String) : String :=
  "expected group:artifact:version, got '" ++ text ++ "'"

/-- Group, artifact and constraint separated by colons, none of them blank; the constraint may
hold further colons. -/
def parse? (text : String) : Option Request := do
  let (group, rest) ← cut (trim text.toList)
  let (artifact, constraint) ← cut rest
  let group ← strip? (String.ofList group)
  let artifact ← strip? (String.ofList artifact)
  let constraint ← strip? (String.ofList constraint)
  return ⟨group, artifact, [constraint], none⟩

end Request
end MavenResolution
