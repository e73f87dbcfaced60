import MavenResolution.Configuration.Basic
import MavenResolution.Entries
import MavenResolution.Http.Retrying
import MavenResolution.Redaction

/-! `HttpTransport`. A `requests.Timeout` is retried, up to `retry_max` attempts in total with a fixed wait;
any other exception is raised on the first attempt. -/
namespace MavenResolution.Http

structure Transport where
  timeout : Seconds
  /-- `retry_max`: how often a request is sent at most. -/
  attempts : Nat
  /-- `retry_delay`: how many seconds pass between two attempts. -/
  retryDelay : Decimal.Binary64
  verify : Verification := .flag true
  /-- The `requests.Session` was made for this transport, which closes it. -/
  ownsConnection : Bool := false
  retrying : Retrying := .loop

namespace Transport

/-- A transport by `Constants`, where nothing else is asked for. A request is sent once in any case. -/
def ofConfiguration (configuration : Configuration) (timeout : Option Seconds := none)
    (attempts : Option Int := none) : Transport :=
  { timeout := timeout.getD (.whole configuration.requestTimeout)
    attempts := (max 1 (attempts.getD configuration.retryMax)).toNat
    retryDelay := configuration.retryDelay }

/-- How often closing the transport closes its `requests.Session`. -/
def closings (transport : Transport) : Nat := if transport.ownsConnection then 1 else 0

def userAgent : String × String := ("User-Agent", "gavresolve/0.1")

/-- A request as it goes out. Headers that are asked for replace those that are always sent. -/
def prepare (transport : Transport) (request : Request) : Request :=
  { request with
    headers := Entries.putAll [userAgent] request.headers
    timeout := transport.timeout
    verify := transport.verify
    followRedirects := match request.method with
      | .get => request.followRedirects
      | .head => some (request.followRedirects.getD true) }

/-- What the log says of an attempt: at its start, of its timeout, and of its response. -/
def started (request : Request) (context : Option String) (number : Nat) : Log.Entry :=
  Log.debug .transport "HTTP request" (Log.present
    [("event", some (.text "http_request")), ("component", some (.text "http_client")),
      ("action", some (.text request.method.text)),
      ("target", some (.text (Redaction.safeUrl request.url))),
      ("context", context.map .text), ("attempt", some (.number number))])

def timedOut (request : Request) (number : Nat) : Log.Entry :=
  Log.debug .transport "HTTP timeout"
    [("event", .text "http_exception"), ("component", .text "http_client"),
      ("action", .text request.method.text), ("outcome", .text "timeout"),
      ("attempt", .number number), ("target", .text (Redaction.safeUrl request.url))]

def responded (request : Request) (context : Option String) (status : Nat) : Log.Entry :=
  Log.debug .transport "HTTP response" (Log.present
    [("event", some (.text "http_response")), ("component", some (.text "http_client")),
      ("action", some (.text request.method.text)), ("status_code", some (.number status)),
      ("target", some (.text (Redaction.safeUrl request.url))), ("context", context.map .text)])

def isTimeout : Outcome → Bool
  | .ok _ => false
  | .error fault => fault.kind.isTimeout

/-- One attempt. -/
def attempt (server : Server) (context : Option String) (request : Request) (number : Nat)
    (earlier : List Request) : Exchange :=
  let outcome := server earlier request
  { outcome, requests := [request]
    log := started request context number :: match outcome with
      | .ok response => [responded request context response.status]
      | .error fault => if fault.kind.isTimeout then [timedOut request number] else [] }

/-- Attempts are repeated while they time out. -/
def policy (transport : Transport) : Retrying.Policy :=
  ⟨transport.attempts, transport.retryDelay, isTimeout⟩

/-- Sends a request after others. -/
def send (transport : Transport) (server : Server) (earlier : List Request)
    (context : Option String) (request : Request) : Exchange :=
  transport.retrying.call transport.policy (attempt server context (transport.prepare request))
    earlier

end Transport

/-- What the log calls a request that nothing else is said of. -/
def defaultContext : String := "maven"

end MavenResolution.Http
