import BridgeKeeper.Credentials
import BridgeKeeper.Json.Printer
import BridgeKeeper.Json.Reader
import BridgeKeeper.Settings
import BridgeKeeper.Url.Edit
import BridgeKeeper.Url.Printer

/-!
The directory service as its clients see it: what is asked for under a base URL, and what a reply
means. A call is a request together with how the body of a reply is read.
-/
namespace BridgeKeeper.Directory

inductive Error where
  /-- No reply came from a URL. -/
  | unanswered (url : String)
  /-- A URL that no request can be made for. -/
  | unsendable (url : String)
  | status (code : Nat)
  /-- The start of a body that does not decode. -/
  | malformed (excerpt : List Char)
  | invalidUrl (text : String)
deriving DecidableEq

/-- The text of an error. What is wrong with a body is not spelled out. -/
def Error.message : Error → String
  | unanswered url => "HTTP request failed: error sending request for url (" ++ url ++ ")"
  | unsendable url => "HTTP request failed: builder error for url (" ++ url ++ ")"
  | status code => "Directory service returned HTTP " ++ Text.numeral code
  | malformed excerpt =>
    "Malformed response: <json> (body: " ++ String.ofList (Text.quotedChars excerpt) ++ ")"
  | invalidUrl text => "Invalid directory URL: " ++ text

/-- A failure to report: whose host, which bridge, and why. -/
structure Report where
  email : String
  identity : String
  target : String
  message : String
  timestamp : String
deriving DecidableEq

def Report.toJson (r : Report) : Json.Value := .record [
  ("email", .text r.email),
  ("identity", .text r.identity),
  ("target", .text r.target),
  ("message", .text r.message),
  ("timestamp", .text r.timestamp)]

/-- A request: one with a body is a `POST` of JSON, one without a `GET`. -/
structure Request where
  url : Url
  body : Option String
deriving DecidableEq

/-- The longest URL that is sent. -/
def longestUrl : Nat := 65534

/-- The URL as it is sent. A login that stands for text is taken out and goes in a header; one that
is no UTF-8 stays where it is. -/
def Request.sent (r : Request) : Url :=
  let isText (s : List Char) : Bool := (Text.Utf8.decode? (Text.Percent.decode s)).isSome
  if isText r.url.username && (r.url.username != [] || isText r.url.password) then
    { r.url with username := [], password := [] }
  else r.url

/-- Whether a request can be made: the scheme is one of HTTP, the URL is not too long, and its host
has no character that a URL has to escape. -/
def Request.isSendable (r : Request) : Bool :=
  let isPlain : Url.Host → Bool
    | .name s => s.all fun c => !Text.Percent.inPath c
    | _ => true
  (r.url.scheme = "http".toList || r.url.scheme = "https".toList) &&
    r.sent.text.length ≤ longestUrl && r.url.host.all isPlain

/-- The error of a request without a reply. -/
def Request.failure (r : Request) : Error :=
  if r.isSendable then .unanswered r.sent.text else .unsendable r.sent.text

inductive Reply where
  | lost
  | response (status : Nat) (body : List UInt8)
deriving DecidableEq

/-- How much of a body that does not decode is kept. -/
def excerptLength : Nat := 64

structure Call (α : Type) where
  request : Request
  read : Json.Value → Option α

/-- What a reply to the call means. Only the statuses from 200 to 299 carry an answer. -/
def Call.answer {α : Type} (c : Call α) : Reply → Except Error α
  | .lost => .error c.request.failure
  | .response status body =>
    if 200 ≤ status ∧ status < 300 then
      match Json.ofBytes? body >>= c.read with
      | some a => .ok a
      | none => .error (.malformed (Text.Utf8.decodeLossy (body.take excerptLength)))
    else .error (.status status)

/-- A client of the service under a base URL. -/
structure Client where
  base : Url
deriving DecidableEq

namespace Client

/-- A base URL must be one to which segments can be appended. -/
def ofUrl (text : String) : Except Error Client :=
  match Url.parse text.toList with
  | .error e => .error (.invalidUrl (text ++ ": " ++ e.message))
  | .ok u => if u.hasOpaquePath then .error (.invalidUrl u.text) else .ok ⟨u⟩

def ofSettings (s : Settings.DirectoryService) : Except Error Client :=
  ofUrl s.baseUrl

/-- The URL of the segments under the base. -/
def endpoint (c : Client) (segments : List String) : Url :=
  c.base.appendSegments (segments.map String.toList)

/-- Asks whether a port can be reached. -/
def proxyTest (c : Client) (port : UInt16) : Call Int32 where
  request := ⟨c.endpoint ["proxy_test", Text.numeral port.toNat], none⟩
  read := Json.Value.int32?

/-- Asks for the credentials of an account. -/
def getSettings (c : Client) (account password : String) : Call (List Credentials) where
  request := ⟨c.endpoint ["get_settings", "0.1", "1", account, password], none⟩
  read := Json.Value.list? Credentials.ofJson?

/-- Hands in a report. -/
def logError (c : Client) (r : Report) : Call Int32 where
  request := ⟨c.endpoint ["log_error2"], some r.toJson.compact⟩
  read := Json.Value.int32?

end Client
end BridgeKeeper.Directory
