import Relaunch.Config.Basic
import Relaunch.Registry.Fault
import Relaunch.Text.Utf8
import Relaunch.Workload.Wire

/-!
# Registry/Http — the registry over HTTP

A client has an endpoint, a time limit and perhaps a token; `Client.make` checks what can be wrong
with them.  A request either gets a reply, with a status and a body that may be cut short, or ends
in a transport error (`Exchange`); the outcome of a call is a function of that.

* A list call succeeds on a status in 200…299 with a body that holds a list response.
* A failure report succeeds on any status in 200…299.
* Any other status is an error that keeps the first 512 characters of the body.
-/

namespace Relaunch.Http

/-- What a client is made with. -/
structure Options where
  timeout : Duration
  token : Option String
deriving DecidableEq

/-- Thirty seconds, and no token. -/
def Options.default : Options := ⟨.ofSecs 30, none⟩

/-- The options of a configuration. -/
def Options.ofConfig (c : Config) : Options := ⟨c.requestTimeout, c.authToken⟩

/-- **Why there is no client.** -/
inductive ClientError where
  | zeroTimeout
  | token
  | config (e : ConfigError)
deriving DecidableEq

def ClientError.message : ClientError → String
  | zeroTimeout => "request_timeout must be greater than 0"
  | token => "registry auth token contains invalid header characters"
  | config e => (e.chain.head?).getD ""

/-- Whether a character can stand in a header: no control character but the tab. -/
def isHeaderChar (c : Char) : Bool := c = '\t' || (c ≠ '\x7f' && 0x20 ≤ c.toNat)

/-- **The base of all request URLs**: no white space around it and no slash behind. -/
def normalize (url : String) : String :=
  String.ofList (Text.dropRight (· == '/') (Text.trim url).toList)

structure Client where
  endpoint : String
  options : Options
deriving DecidableEq

namespace Client

/-- **The client of a URL.** -/
def make (url : String) (options : Options) : Except ClientError Client :=
  if options.timeout.isZero then .error .zeroTimeout
  else if !options.token.all (fun token => token.toList.all isHeaderChar) then .error .token
  else .ok ⟨normalize url, options⟩

/-- The client of a configuration. -/
def ofConfig (c : Config) : Except ClientError Client :=
  match c.validate with
  | .error e => .error (.config e)
  | .ok () => make c.registryUrl (.ofConfig c)

def listPath : String := "/api/v1/workload/list"

def failurePath : String := "/api/v1/workload/failure"

/-- The URL of a request to a path. -/
def requestUrl (client : Client) (path : String) : String := client.endpoint ++ path

end Client

/-! ## Replies -/

/-- **What became of a request.** -/
inductive Exchange where
  | failed (e : TransportError)
  /-- A reply: its status, and its body if all of it came. -/
  | replied (status : Nat) (body : Except TransportError (List UInt8))

/-- Whether a status means success. -/
def isSuccess (status : Nat) : Bool := 200 ≤ status && status ≤ 299

/-- How many characters of a body an error keeps. -/
def maxErrorChars : Nat := 512

/-- **What an error keeps of a body**: the beginning of its text, or nothing if it did not all
come. -/
def errorBody : Except TransportError (List UInt8) → String
  | .ok bytes => String.ofList ((Glyph.lossy bytes).toList.take maxErrorChars)
  | .error _ => ""

/-- The body of a successful reply, or the fault of an exchange. -/
def bodyOf : Exchange → Except Fault (Except TransportError (List UInt8))
  | .failed e => .error (.ofTransport e)
  | .replied status body =>
    if isSuccess status then .ok body else .error (.server status (errorBody body))

/-- **The outcome of a list call.** -/
def listOutcome (x : Exchange) : Except RegistryError ListResponse :=
  let fault (f : Fault) : Except RegistryError ListResponse := .error ⟨listMethod, f⟩
  match bodyOf x with
  | .error f => fault f
  | .ok (.error e) => fault (.ofTransport e)
  | .ok (.ok bytes) =>
    match decodeBytes ListResponse.read bytes with
    | .ok response => .ok response
    | .error problem => fault (.decode (.problem problem))

/-- **The outcome of a failure report**, whose reply's body is not read on success. -/
def reportOutcome (x : Exchange) : Except RegistryError Unit :=
  match bodyOf x with
  | .error f => .error ⟨failureMethod, f⟩
  | .ok _ => .ok ()

/-- The exchange with a network that leads nowhere. -/
def unreachable : Exchange :=
  .failed {
    text := "error sending request"
    isConnect := true
    links := [
      .plain "client error (Connect)", .plain "tcp connect error",
      .io (.ofCode 101)] }

end Relaunch.Http
