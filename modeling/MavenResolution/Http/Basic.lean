import MavenResolution.Decimal.Binary64

/-! HTTP requests and responses. -/
namespace MavenResolution.Http

inductive Method where
  | get
  | head
  deriving DecidableEq, Repr

def Method.text : Method → String
  | .get => "GET"
  | .head => "HEAD"

/-- A time in seconds. -/
inductive Seconds where
  | whole (count : Int)
  | fraction (count : Decimal.Binary64)
  deriving DecidableEq, Repr

/-- The `verify` option of requests. -/
inductive Verification where
  | flag (on : Bool)
  /-- By the authorities in a file. -/
  | authorities (path : String)
  deriving DecidableEq, Repr

structure Request where
  method : Method
  url : String
  auth : Option (String × String) := none
  headers : List (String × String) := []
  timeout : Seconds := .whole 30
  verify : Verification := .flag true
  followRedirects : Option Bool := none
  /-- The body is read chunk by chunk by the caller, who closes the response. -/
  stream : Option Bool := none
  deriving DecidableEq, Repr

/-- What went wrong. The last four kinds say nothing about the request: the operating system, a
value, the size of a number or the program itself was at fault. -/
inductive FaultKind where
  | timeout
  | connectTimeout
  | readTimeout
  | connection
  | status
  | redirects
  | request
  | chunkedEncoding
  | url
  | scheme
  | tls
  | proxy
  | system
  | value
  | overflow
  | runtime
  deriving DecidableEq, Repr

namespace FaultKind

def isTimeout : FaultKind → Bool
  | .timeout | .connectTimeout | .readTimeout => true
  | _ => false

/-- The request failed. -/
def isRequest : FaultKind → Bool
  | .system | .value | .overflow | .runtime => false
  | _ => true

end FaultKind

structure Fault where
  kind : FaultKind
  message : String
  deriving DecidableEq, Repr

/-- A chunk of a body, or the fault that came in its place. -/
abbrev Chunk := Except Fault (List UInt8)

structure Response where
  status : Nat
  content : List UInt8 := []
  /-- The body as it comes chunk by chunk. -/
  chunks : List Chunk := []

/-- The response has a 2xx status. -/
def Response.isSuccess (response : Response) : Bool :=
  200 ≤ response.status && response.status < 300

abbrev Outcome := Except Fault Response

/-- A server: the response or exception for a request, given the requests before it. -/
abbrev Server := List Request → Request → Outcome

namespace Server

/-- Whether two requests ask the same of the same URL. -/
def sameTarget (a b : Request) : Bool := a.method == b.method && a.url == b.url

/-- A server that does for every URL what a list says, one entry for each request, and at last
always the same. -/
def ofScript (script : Request → List Outcome) (otherwise : Request → Outcome) : Server :=
  fun earlier request =>
    let outcomes := script request
    (outcomes[min (earlier.countP (sameTarget request)) (outcomes.length - 1)]?).getD
      (otherwise request)

end Server

end MavenResolution.Http
