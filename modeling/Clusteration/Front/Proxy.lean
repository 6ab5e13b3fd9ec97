import Clusteration.Framework.Charset
import Clusteration.Framework.Items
import Clusteration.Panel.Routes

open Charset

namespace Clusteration.Front

def hopByHop : List String :=
  ["connection", "keep-alive", "proxy-authenticate", "proxy-authorization", "te", "trailer",
    "transfer-encoding", "upgrade"]

/-- A token of HTTP. Its characters are ASCII, the same bytes in every character set below. -/
def isToken (name : String) : Bool :=
  !name.isEmpty && name.toList.all fun c => c.isAlphanum || "!#$%&'*+-.^_`|~".toList.contains c

/-- A header of an upstream response, as it came in. -/
structure Header where
  name : String
  value : Bytes
  token : isToken name = true

/-- `httpx.Headers.encoding` -/
inductive Encoding where
  | ascii
  | utf8
  | iso88591
  deriving DecidableEq, Repr

def Encoding.decode : Encoding → Bytes → Option (List Char)
  | .ascii, bytes => decodeAscii bytes
  | .utf8, bytes => decodeUtf8 bytes
  | .iso88591, bytes => some (decodeLatin1 bytes)

/-- The first of them that decodes every header. -/
def encoding (headers : List Header) : Encoding :=
  if headers.all fun h => (Encoding.ascii.decode h.value).isSome then .ascii
  else if headers.all fun h => (Encoding.utf8.decode h.value).isSome then .utf8
  else .iso88591

/-- `httpx.Headers.items`: repeated names are one item, their values joined. -/
def items (headers : List Header) : List (String × List Char) :=
  Items.ofPairs (fun old new => old ++ [',', ' '] ++ new) <|
    headers.map fun h => (h.name.toLower, ((encoding headers).decode h.value).getD [])

structure UpstreamResponse where
  statusCode : Nat
  headers : List Header
  body : Bytes

/-- The chunks of `aiter_bytes`, one after the other. -/
structure Decoded where
  bytes : Bytes
  /-- An `httpx.DecodingError` ends the stream. -/
  broken : Bool
  deriving DecidableEq, Repr

/-- The content decoders of `httpx`. They go by the values of the `Content-Encoding` headers. -/
structure Httpx where
  /-- One of the values names a coding there is a decoder for. -/
  undoes : List Bytes → Bool
  decode : List Bytes → Bytes → Decoded
  undoes_nil : undoes [] = false
  decode_left : ∀ values body, undoes values = false → decode values body = ⟨body, false⟩

def valuesOf (name : String) (headers : List (String × Bytes)) : List Bytes :=
  (headers.filter fun h => h.1 = name).map Prod.snd

/-- The headers of an upstream response with their names in lower case. -/
def lowered (headers : List Header) : List (String × Bytes) :=
  headers.map fun h => (h.name.toLower, h.value)

def Httpx.aiterBytes (httpx : Httpx) (response : UpstreamResponse) : Decoded :=
  httpx.decode (valuesOf "content-encoding" (lowered response.headers)) response.body

/-- What the proxy sends to the browser. -/
structure ProxyResponse where
  statusCode : Nat
  headers : List (String × Bytes)
  body : Decoded
  deriving DecidableEq, Repr

/-- `Response.init_headers`; `none` stands for a `UnicodeEncodeError`. A streaming response has no
media type and no length of its own to add. -/
def initHeaders (headers : List (String × List Char)) : Option (List (String × Bytes)) :=
  headers.mapM fun h => (encodeLatin1 h.2).map (h.1.toLower, ·)

/-- A request of the browser, its header texts as Starlette decodes them. -/
structure ProxyRequest where
  method : String
  path : String
  query : String
  headers : List (String × String)
  body : Bytes
  client : Option String

def ProxyRequest.host (request : ProxyRequest) : String :=
  ((request.headers.find? fun h => h.1.toLower = "host").map Prod.snd).getD ""

structure UpstreamRequest where
  method : String
  url : String
  headers : List (String × String)
  content : Bytes

/-- A later value takes the place of an earlier one. -/
def replace (_ new : String) : String := new

def upstreamRequest (dial : String) (request : ProxyRequest) : UpstreamRequest :=
  let query := if request.query = "" then "" else "?" ++ request.query
  let headers := Items.ofPairs replace <| request.headers.filter fun h =>
    !hopByHop.contains h.1.toLower && h.1.toLower ≠ "host"
  let headers := Items.insertWith replace "x-forwarded-proto" "https" headers
  let headers := Items.insertWith replace "x-forwarded-host" request.host headers
  let headers := Items.insertWith replace "x-forwarded-for" (request.client.getD "") headers
  { method := request.method
    url := "http://" ++ dial ++ request.path ++ query
    headers
    content := request.body }

/-- `PlainTextResponse("not found", status_code=404)` -/
def notFound : ProxyResponse where
  statusCode := 404
  headers := [("content-length", [57]),
    ("content-type", "text/plain; charset=utf-8".toList.map fun c => UInt8.ofNat c.toNat)]
  body := ⟨"not found".toList.map fun c => UInt8.ofNat c.toNat, false⟩

/-- The answer made of an upstream response. -/
def forward (httpx : Httpx) (response : UpstreamResponse) : Option ProxyResponse := do
  let headers ← initHeaders <|
    (items response.headers).filter fun h => !hopByHop.contains h.1.toLower
  pure { statusCode := response.statusCode, headers, body := httpx.aiterBytes response }

/-- `proxy_http`; `resolve` is what the lookup of the host comes to and `stream` the exchange with
the guest. -/
def proxyHttp (httpx : Httpx) (resolve : String → Option String)
    (stream : UpstreamRequest → UpstreamResponse) (request : ProxyRequest) : Option ProxyResponse :=
  let dial := (resolve request.host).getD ""
  if dial = "" then some notFound
  else forward httpx (stream (upstreamRequest dial request))

end Clusteration.Front
