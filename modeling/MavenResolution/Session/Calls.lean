import MavenResolution.Session.Resolution

/-! Calls of a session, one after another. -/
namespace MavenResolution.Session

/-- What a session is asked to do. -/
inductive Call where
  | resolveAll (requests : List Request)
  | download (coordinate : Coordinate) (relativePath : Option String) (containing : Option Pom)
      (repositories : List Repository)
  | metadata (coordinate : Coordinate) (repositories : List Repository) (containing : Option Pom)

/-- Does what is asked; what it comes to is left to the caller. -/
def perform (session : Session) : Call → StateM State Unit
  | .resolveAll requests => do
    let _ ← session.resolveAll requests
  | .download coordinate relativePath containing repositories => do
    let _ ← session.download coordinate relativePath containing repositories
  | .metadata coordinate repositories containing => do
    let _ ← (session.metadata coordinate repositories containing).run

def performAll (session : Session) : List Call → StateM State Unit
  | [] => return
  | call :: rest => do
    session.perform call
    session.performAll rest

end MavenResolution.Session
