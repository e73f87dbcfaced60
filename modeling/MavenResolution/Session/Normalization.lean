import MavenResolution.Session.Basic

/-! Normalization of repositories: mirrors and credentials applied, placeholders expanded, and the URL probed, with
https first. -/
namespace MavenResolution

namespace Repository

/-- Repositories without duplicates; the first one stays. -/
def distinct (repositories : List Repository) : List Repository :=
  repositories.foldl (fun distinct repository =>
    if distinct.any (·.same repository) then distinct else distinct ++ [repository]) []

/-- The URL with https in place of http. -/
def secureUri (uri : String) : String :=
  let scheme := "http://".toList
  if (uri.toList.take scheme.length).map Char.toLower = scheme then
    String.ofList ("https://".toList ++ uri.toList.drop scheme.length)
  else uri

/-- The repository with the placeholders of its URL expanded against the containing POM. -/
def expand (repository : Repository) : Option Pom → Repository
  | none => repository
  | some pom =>
    let uri := pom.value repository.uri
    if uri.isEmpty then repository else repository.withUri uri

end Repository

namespace Session

/-- Sends a HEAD request to a URL. A `RequestException` means that it is not reachable; other exceptions end the
probe. -/
def isReachable (session : Session) (repository : Repository) (uri : String) :
    StateM State (Except Http.Fault Bool) := do
  match ← session.send Http.defaultContext
      { method := .head, url := uri, auth := repository.auth } with
  | .ok _ => return .ok true
  | .error fault => return if fault.kind.isRequest then .ok false else .error fault

def probed (outcome : String) (uri : String) : List (String × Log.Field) :=
  [("event", .text "repository_probe"), ("component", .text "normalizer"),
    ("action", .text "probe"), ("outcome", .text outcome),
    ("target", .text (Redaction.safeUrl uri))]

/-- The repository at its https URL if that answers, or else at the declared one. -/
def answeringForm (session : Session) (repository : Repository) :
    ExceptT Http.Fault (StateM State) (Option Repository) := do
  let secure := Repository.secureUri repository.uri
  if ← ExceptT.mk (session.isReachable repository secure) then
    return some (repository.withUri secure)
  if secure = repository.uri then return none
  if ← ExceptT.mk (session.isReachable repository repository.uri) then return some repository
  return none

/-- Probes a repository, and logs an unreachable one. -/
def probe (session : Session) (repository : Repository) :
    ExceptT Http.Fault (StateM State) (Option Repository) := do
  let found ← session.answeringForm repository
  match found with
  | none =>
    note (Log.warning .normalization "Repository unreachable; skipping for this session"
      (probed "unreachable" repository.uri))
  | some found =>
    note (Log.debug .normalization "Repository reachable" (probed "reachable" found.uri))
  return found

/-- Probes a repository; an exception goes to `on_error`, and the repository counts as unreachable. -/
def probeOrReport (session : Session) (repository : Repository) :
    StateM State (Except Empty (Option Repository)) := do
  match ← (session.probe repository).run with
  | .ok found => return .ok found
  | .error fault =>
    session.report (.notNormalized repository fault.message)
    return .ok none

/-- The repository with mirrors and credentials applied and its placeholders expanded. -/
def declared (session : Session) (repository : Repository) (containing : Option Pom) :
    Repository :=
  (session.applyCredentials (session.applyMirrors repository)).expand containing

/-- The normalized repository, if it is reachable. It is probed once in a session, unless it is known to exist. -/
def normalize (session : Session) (repository : Repository) (containing : Option Pom) :
    StateM State (Option Repository) := do
  let declared := session.declared repository containing
  if declared.knownToExist then return some declared
  match (← normalizedRegion.compute declared.identity id (session.probeOrReport declared)).outcome
  with
  | .ok found => return found.map session.applyCredentials

/-- The search order: the distinct normalized repositories that accept a version, and Maven Central behind them. -/
def searched (session : Session) (repositories : List Repository) (containing : Option Pom)
    (version : Option String := none) : StateM State (List Repository) := do
  let forms ← repositories.mapM (session.normalize · containing)
  let accepting := (forms.filterMap id).filter fun repository =>
    (version.map repository.accepts).getD true
  let central ←
    if session.includesCentral then session.normalize session.configuration.central containing
    else pure none
  return Repository.distinct (accepting ++ central.toList)

end Session
end MavenResolution
