import MavenResolution.Constraint.Validation
import MavenResolution.Coordinate
import MavenResolution.Files
import MavenResolution.Http.Basic
import MavenResolution.Pom
import MavenResolution.Requirement.Selection

/-! Why a resolution fails, and the messages of failures. -/
namespace MavenResolution

open Text

namespace Files.Fault

def message : Fault → String
  | .notFound => "[Errno 2] No such file or directory"
  | .isDirectory => "[Errno 21] Is a directory"
  | .notDirectory => "[Errno 20] Not a directory"
  | .nameTooLong => "[Errno 36] File name too long"
  | .nullCharacter => "embedded null byte"

/-- The operating system refused. It is not asked about a path that it could not read. -/
def isSystem (fault : Fault) : Bool := fault != .nullCharacter

end Files.Fault

/-- Why a repository failed to provide a POM or jar. -/
inductive DownloadFault where
  | status (code : Nat)
  | request (fault : Http.Fault)
  | unreadable (fault : Pom.Fault)
  | file (fault : Files.Fault) (path : Path)
  /-- An earlier answer in the same session counts. -/
  | knownAbsent
  deriving DecidableEq, Repr

def DownloadFault.message (fault : DownloadFault) : String :=
  "Download failure. " ++ match fault with
    | .status code => "Response code is [" ++ toString code ++ "]."
    | .request fault => fault.message
    | .unreadable fault => "Unparseable POM: " ++ fault.message
    | .file fault path => fault.message ++ ": " ++ quote path.text
    | .knownAbsent => "Not available in this session."

/-- The failures of a download, repository by repository. -/
abbrev DownloadFaults := List (Repository × DownloadFault)

inductive Failure where
  | missingCoordinate (coordinate : Coordinate)
  | missingGroup (coordinate : Coordinate)
  | pomUnavailable (coordinate : Coordinate) (faults : DownloadFaults)
  | jarUnavailable (coordinate : ResolvedCoordinate) (repository : Repository)
      (fault : DownloadFault)
  | metadataUnavailable (coordinate : Coordinate) (repository : Repository) (cause : String)
  | notNormalized (repository : Repository) (cause : String)
  | unsatisfied (id : ModuleId) (requested : String)
  | invalidConstraint (constraint : String) (rejections : List Rejection)
  | constraint (fault : Constraint.Fault)
  | declaration (fault : Declarations.Fault)
  | numeral (fault : NumeralError)
  | request (fault : Http.Fault)
  | document (fault : Xml.Fault)
  | file (fault : Files.Fault) (path : Path)
  | noSourcePath (coordinate : ResolvedCoordinate)
  deriving Repr

namespace Failure

/-- A repository as the reports of failures name it. -/
def place (repository : Repository) : String :=
  shown repository.id ++ " (" ++ repository.uri ++ ")"

/-- The message of a download that every repository failed. -/
def unavailable (coordinate : String) (faults : DownloadFaults) : String :=
  "Unable to download dependency " ++ coordinate ++ " from any of these repositories: \n" ++
    "\n".intercalate (faults.map fun (repository, fault) =>
      "    Id: " ++ shown repository.id ++ ", URL: " ++ repository.uri ++ ", cause: " ++
        fault.message)

def message : Failure → String
  | .missingCoordinate coordinate => "Unable to download dependency " ++ coordinate.text
  | .missingGroup _ => "Unable to download maven metadata because of a missing groupId."
  | .pomUnavailable coordinate faults => unavailable coordinate.text faults
  | .jarUnavailable coordinate repository fault =>
    unavailable coordinate.text [(repository, fault)]
  | .metadataUnavailable coordinate repository cause =>
    "Unable to download metadata for " ++ coordinate.text ++ " from " ++ place repository ++ ": " ++
      cause
  | .notNormalized repository cause =>
    "Unable to normalize repository " ++ place repository ++ ": " ++ cause
  | .unsatisfied id requested => "No version of " ++ id.text ++ " satisfies " ++ requested
  | .invalidConstraint text rejections => Validated.invalidMessage text rejections
  | .constraint fault => fault.message
  | .declaration fault => fault.message
  | .numeral fault => fault.message
  | .request fault => fault.message
  | .document fault => fault.message
  | .file fault path =>
    if fault.isSystem then fault.message ++ ": " ++ quote path.text else fault.message
  | .noSourcePath coordinate => "project POM " ++ coordinate.text ++ " has no source path"

/-- A request failed, so that another repository may be tried. -/
def isRequest : Failure → Bool
  | .request fault => fault.kind.isRequest
  | _ => false

end Failure
end MavenResolution
