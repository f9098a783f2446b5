import ConnectorHub.Http.Message
import ConnectorHub.Number.Binary64
import ConnectorHub.Settings

/-! One exchange of a request and a response, which may be performed again and again. Its headers
and its last response outlive failures and closing. -/
namespace ConnectorHub.Http

open Text Number

/-- How a request can fail before there is a response. -/
inductive WireFault
  | connect | connectTimeout | read | readTimeout | write | writeTimeout | close | poolTimeout
  | proxy | unsupportedProtocol | localProtocol | remoteProtocol
  | tooManyRedirects | decoding
  deriving DecidableEq, Repr

/-- The fault lies with the transport. -/
def WireFault.isTransport : WireFault → Bool
  | .tooManyRedirects | .decoding => false
  | _ => true

/-- What a request is answered with. -/
inductive Reply
  | response (r : Response)
  | fault (f : WireFault) (message : String)
  deriving DecidableEq, Repr

/-- Why an operation on an exchange fails. -/
inductive ExchangeError
  | notPerformed
  /-- A header, or the name of one that is asked for, holds characters that cannot be sent. -/
  | unsendable
  | transport (message : String)
  | fault (f : WireFault)
  deriving DecidableEq, Repr

def ExchangeError.message : ExchangeError → String
  | .notPerformed => "exchange() has not been performed"
  | .transport message => message
  | .unsendable | .fault _ => ""

structure Exchange where
  method : String
  url : String
  data : List (String × String)
  timeout : Binary64
  proxy : Option String := none
  headers : Headers := []
  /-- A connection is open. -/
  connected : Bool := false
  response : Option Response := none
  deriving DecidableEq, Repr

/-- Sets a field of form data, in its old place if it is there. -/
def setField (name value : String) : List (String × String) → List (String × String)
  | [] => [(name, value)]
  | (n, v) :: r => if n = name then (name, value) :: r else (n, v) :: setField name value r

/-- The fields that pairs set one after the other. -/
def fieldsOf (pairs : List (String × String)) : List (String × String) :=
  pairs.foldl (fun fs p => setField p.1 p.2 fs) []

/-- A proxy without scheme is reached by HTTP. -/
def proxyUrl (proxy : String) : String :=
  if contains [':', '/', '/'] proxy.toList then proxy else "http://" ++ proxy

namespace Exchange

def setProxy (x : Exchange) (proxy : String) : Exchange := { x with proxy := some (proxyUrl proxy) }

/-- Sets a header in place of every one of that name, whatever its case. -/
def setHeader (x : Exchange) (name value : String) : Exchange :=
  { x with headers := (x.headers.filter fun h => lower h.1 ≠ lower name) ++ [(name, value)] }

/-- All headers are in ASCII, in which they are sent. -/
def isSendable (x : Exchange) : Bool :=
  x.headers.all fun h => isAscii (h.1 ++ h.2)

/-- The request that is sent. -/
def request (x : Exchange) : Request := .make x.method x.url x.headers x.data

/-- What is logged about a failure of the transport. -/
def warning (x : Exchange) (message : String) : String :=
  "HTTP " ++ x.method ++ " " ++ x.url ++ " failed: " ++ message

/-- Takes the reply to a request. Only a response changes what the accessors tell. -/
def receive (x : Exchange) : Reply → Except ExchangeError Int × Exchange
  | .response r => (.ok r.status, { x with connected := true, response := some r })
  | .fault f message =>
    (.error (if f.isTransport then .transport message else .fault f), { x with connected := true })

def close (x : Exchange) : Exchange := { x with connected := false }

/-- The name by which a header of a response is looked up: in small letters, which have to be in
ASCII. -/
def headerKey (name : String) : Except ExchangeError String :=
  if isAscii (lower name) then .ok (lower name) else .error .unsendable

/-- The last response, once there is one. -/
def lastResponse (x : Exchange) : Except ExchangeError Response :=
  match x.response with
  | some r => .ok r
  | none => .error .notPerformed

def status (x : Exchange) : Except ExchangeError Int := x.lastResponse.map (·.status)

def body (x : Exchange) (known : Charsets) : Except ExchangeError String :=
  x.lastResponse.map (·.text known)

def header (x : Exchange) (name : String) : Except ExchangeError (Option String) :=
  x.lastResponse.bind fun r => (headerKey name).map r.headers.value?

def headerValues (x : Exchange) (name : String) : Except ExchangeError (List String) :=
  x.lastResponse.bind fun r => (headerKey name).map r.headers.values

end Exchange

/-- What the exchanges of one client share. -/
structure Client where
  proxy : Option String
  timeout : Binary64
  deriving DecidableEq, Repr

namespace Client

/-- The client that the settings describe. -/
def ofSettings (s : Settings) : Client := ⟨s.httpProxy, s.httpTimeout⟩

/-- An empty proxy is none. -/
def prepare (c : Client) (x : Exchange) : Exchange :=
  match c.proxy with
  | none | some "" => x
  | some p => x.setProxy p

def get (c : Client) (url : String) : Exchange :=
  c.prepare { method := "GET", url, data := [], timeout := c.timeout }

def post (c : Client) (url : String) (parameters : List (String × String)) : Exchange :=
  c.prepare { method := "POST", url, data := fieldsOf parameters, timeout := c.timeout }

end Client

/-- The far end: the replies it has in store, of which the last is repeated, and the requests that
reached it. -/
structure Server where
  replies : List Reply
  received : List Request := []
  deriving DecidableEq, Repr

namespace Server

/-- The reply to the next request. -/
def nextReply (s : Server) : Reply :=
  match s.replies[s.received.length]?, s.replies.getLast? with
  | some r, _ => r
  | none, some r => r
  | none, none => .fault .connect ""

/-- Sends the request of an exchange. -/
def answer (s : Server) (x : Exchange) : Reply × Server :=
  (s.nextReply, { s with received := s.received ++ [x.request] })

end Server

namespace Exchange

/-- Performs an exchange. -/
def perform (x : Exchange) (s : Server) : Except ExchangeError Int × Exchange × Server :=
  if x.isSendable then
    let (reply, s) := s.answer x
    let (answer, x) := x.receive reply
    (answer, x, s)
  else (.error .unsendable, { x with connected := true }, s)

end Exchange

end ConnectorHub.Http
