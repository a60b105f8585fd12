import ClusterBundle.Http.Certificate
import ClusterBundle.Url.Parser

/-!
Fetching the body behind a web address with a bearer token.

Redirections are followed, up to ten of them; the token does not go along to another host or port.
Any answer that does not report success is a failure with its status and its body.
-/

namespace ClusterBundle.Http

structure Request where
  url : Url
  authorization : Option String
  deriving Repr, DecidableEq

structure Response where
  status : Nat
  headers : List (String × String) := []
  body : Bytes := []
  /-- Whether the body came as a whole. -/
  complete : Bool := true
  deriving Repr, DecidableEq

/-- A network as what comes of a request: a response, or the reason why there is none. -/
structure Network where
  exchange : Request → Except String Response

/-- Why a fetch brings no body. -/
inductive Fault where
  | badBundle (fault : Certificate.Fault)
  | badAddress (fault : Url.Fault)
  | badToken
  | refusedScheme (url : Url)
  /-- There is no response from an address. -/
  | noResponse (url : Url) (cause : String)
  | tooManyRedirections (url : Url)
  | incompleteBody
  /-- The response does not report success. -/
  | badStatus (status : Nat) (body : String)
  deriving Repr, DecidableEq

/-- The phrase that goes with a status. -/
def reason? : Nat → Option String
  | 100 => some "Continue"
  | 101 => some "Switching Protocols"
  | 102 => some "Processing"
  | 200 => some "OK"
  | 201 => some "Created"
  | 202 => some "Accepted"
  | 203 => some "Non Authoritative Information"
  | 204 => some "No Content"
  | 205 => some "Reset Content"
  | 206 => some "Partial Content"
  | 207 => some "Multi-Status"
  | 208 => some "Already Reported"
  | 226 => some "IM Used"
  | 300 => some "Multiple Choices"
  | 301 => some "Moved Permanently"
  | 302 => some "Found"
  | 303 => some "See Other"
  | 304 => some "Not Modified"
  | 305 => some "Use Proxy"
  | 307 => some "Temporary Redirect"
  | 308 => some "Permanent Redirect"
  | 400 => some "Bad Request"
  | 401 => some "Unauthorized"
  | 402 => some "Payment Required"
  | 403 => some "Forbidden"
  | 404 => some "Not Found"
  | 405 => some "Method Not Allowed"
  | 406 => some "Not Acceptable"
  | 407 => some "Proxy Authentication Required"
  | 408 => some "Request Timeout"
  | 409 => some "Conflict"
  | 410 => some "Gone"
  | 411 => some "Length Required"
  | 412 => some "Precondition Failed"
  | 413 => some "Payload Too Large"
  | 414 => some "URI Too Long"
  | 415 => some "Unsupported Media Type"
  | 416 => some "Range Not Satisfiable"
  | 417 => some "Expectation Failed"
  | 418 => some "I'm a teapot"
  | 421 => some "Misdirected Request"
  | 422 => some "Unprocessable Entity"
  | 423 => some "Locked"
  | 424 => some "Failed Dependency"
  | 426 => some "Upgrade Required"
  | 428 => some "Precondition Required"
  | 429 => some "Too Many Requests"
  | 431 => some "Request Header Fields Too Large"
  | 451 => some "Unavailable For Legal Reasons"
  | 500 => some "Internal Server Error"
  | 501 => some "Not Implemented"
  | 502 => some "Bad Gateway"
  | 503 => some "Service Unavailable"
  | 504 => some "Gateway Timeout"
  | 505 => some "HTTP Version Not Supported"
  | 506 => some "Variant Also Negotiates"
  | 507 => some "Insufficient Storage"
  | 508 => some "Loop Detected"
  | 510 => some "Not Extended"
  | 511 => some "Network Authentication Required"
  | _ => none

def statusText (status : Nat) : String :=
  s!"{status} " ++ (reason? status).getD "<unknown status code>"

def Fault.message : Fault → String
  | .badBundle fault => s!"builder error: {fault.message}"
  | .badAddress fault => s!"builder error: {fault.message}"
  | .badToken => "builder error: failed to parse header value"
  | .refusedScheme url => s!"builder error for url ({url.text}): URL scheme is not allowed"
  | .noResponse url cause => s!"error sending request for url ({url.text}): {cause}"
  | .tooManyRedirections url =>
      s!"error following redirect for url ({url.text}): too many redirects"
  | .incompleteBody =>
      "request or response body error: error reading a body from connection: " ++
        "end of file before message length reached"
  | .badStatus status body => s!"HTTP {statusText status}: {body}"

def Response.isSuccess (response : Response) : Bool :=
  200 ≤ response.status && response.status < 300

def Response.isRedirection (response : Response) : Bool :=
  [301, 302, 303, 307, 308].contains response.status

/-- The value of a header; names of headers do not tell upper and lower case apart. -/
def Response.header? (response : Response) (name : String) : Option String :=
  (response.headers.find? fun (key, _) => Text.lower key = Text.lower name).map Prod.snd

/-- A body as text, without a mark of its byte order. -/
def bodyText (body : Bytes) : String :=
  match body with
  | 0xEF :: 0xBB :: 0xBF :: rest => Utf8.lossy rest
  | _ => Utf8.lossy body

/-- Whether a text can be sent as the value of a header. -/
def isHeaderValue (text : String) : Bool :=
  (Utf8.encode text).all fun b => b = 9 || (32 ≤ b && b ≠ 127)

def isWebScheme (scheme : String) : Bool := scheme = "http" || scheme = "https"

/-- What a response comes to in the end. -/
def conclude (response : Response) : Except Fault Bytes :=
  if response.isSuccess then
    if response.complete then .ok response.body else .error .incompleteBody
  else
    let body := if response.complete then Text.trim (bodyText response.body) else ""
    .error (.badStatus response.status body)

/-- The authorization that is sent to the next address. -/
def carried (request : Request) (next : Url) : Option String :=
  if request.url.host? = next.host? ∧ request.url.effectivePort? = next.effectivePort? then
    request.authorization
  else none

/-- Where a response sends the reader on to. -/
def redirection? (request : Request) (response : Response) : Option Url :=
  if response.isRedirection then
    match response.header? "location" with
    | none => none
    | some location =>
        match request.url.join location with
        | .ok url => some url
        | .error _ => none
  else none

/-- How many redirections are followed. -/
def maxRedirections : Nat := 10

/-- Makes a request and follows as many redirections as are left. -/
def follow (network : Network) : (left : Nat) → Request → Except Fault Bytes
  | left, request =>
      match network.exchange request with
      | .error cause => .error (.noResponse request.url cause)
      | .ok response =>
          match redirection? request response, left with
          | none, _ => conclude response
          | some _, 0 => .error (.tooManyRedirections request.url)
          | some next, left + 1 =>
              if isWebScheme next.scheme then
                follow network left { url := next, authorization := carried request next }
              else .error (.refusedScheme next)

/-- The body behind an address, trusting only the certificates of a bundle. The bundle is looked at
first, then the address, then the token. -/
def fetch (network : Network) (address token : String) (bundle : Bytes) : Except Fault Bytes :=
  match Certificate.check bundle with
  | .error fault => .error (.badBundle fault)
  | .ok () =>
      match Url.parseAbsolute address with
      | .error fault => .error (.badAddress fault)
      | .ok url =>
          if url.host?.isNone then .error (.refusedScheme url)
          else if !isHeaderValue token then
            .error .badToken
          else if !isWebScheme url.scheme then .error (.refusedScheme url)
          else follow network maxRedirections { url, authorization := some s!"Bearer {token}" }

end ClusterBundle.Http
