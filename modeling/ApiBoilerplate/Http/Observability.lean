import ApiBoilerplate.Http.Message

/-!
# The observability middleware

The middleware stands between the server and the application. It reads request
and response bodies that look like text, hands on what it read, and writes one
row a request to the log.
-/

namespace ApiBoilerplate.Http.Observability

open Foundation Text

universe u v w
variable {PayloadError : Type u} {BodyError : Type v} {Error : Type w}

structure HttpRequestLoggingConfig where
  enabled : Bool
  logRequestBody : Bool
  logResponseBody : Bool
  deriving DecidableEq, Repr

/-- A row of `http_observability_logs`. -/
structure LogRow where
  requestId : String
  method : String
  path : String
  queryString : Option String
  ipAddress : Option String
  requestHeaders : String
  requestBody : Option String
  responseStatus : Nat
  responseHeaders : String
  responseBody : Option String
  durationMs : Int
  deriving DecidableEq, Repr

/-- One request through the middleware: what the inner service was handed, what
it was answered, and the row written. -/
structure Exchange (PayloadError : Type u) (BodyError : Type v) (Error : Type w) where
  handed : ServiceRequest PayloadError
  answer : Except Error (ServiceResponse BodyError)
  row : Option LogRow

def isTextOrJson (contentType : String) : Bool :=
  let ct := contentType.toList.map Char.toLower
  contains ct "json" || contains ct "text" || contains ct "xml" || contains ct "urlencoded"

def binaryNote (contentType : String) : Option String :=
  if contentType = "" then none
  else some ("[Binary/Multipart data (content-type: " ++ contentType ++ ")]")

def bodyLimit : Nat := 65536

/-- The loop over the payload: the bytes kept, and the note that replaces them
in the log when the next chunk would not fit. -/
def readPayload : List (Except PayloadError Bytes) → Bytes → Bytes × Option String
  | [], bodyBytes => (bodyBytes, none)
  | .ok bytes :: rest, bodyBytes =>
    if bodyBytes.length + bytes.length ≤ bodyLimit then readPayload rest (bodyBytes ++ bytes)
    else (bodyBytes, some "[Request body too large, truncated]")
  | .error _ :: _, bodyBytes => (bodyBytes, none)

/-- The request with its payload read and restored, and the body to be logged. -/
def takeRequestBody (req : ServiceRequest PayloadError) :
    ServiceRequest PayloadError × Option String :=
  let contentType := req.head.headers.contentType
  if isTextOrJson contentType then
    let (body, note) := readPayload req.payload.items []
    ({ req with payload := .once body }, some (note.getD (fromUtf8Lossy body)))
  else (req, binaryNote contentType)

/-- The response body to be sent on, and the body to be logged. -/
def takeResponseBody (response : ServiceResponse BodyError) :
    ByteStream BodyError × Option String :=
  let contentType := response.headers.contentType
  if isTextOrJson contentType then
    match response.body.collect with
    | .ok bytes =>
      (.once bytes,
        if bytes.length ≤ bodyLimit then some (fromUtf8Lossy bytes)
        else some "[Response body too large, truncated]")
    | .error _ => (.once [], none)
  else (response.body, binaryNote contentType)

def xRequestId : String := "x-request-id"

def withRequestId (headers : HeaderMap) (requestId : String) : HeaderMap :=
  match HeaderValue.fromStr requestId with
  | some value => headers.insert xRequestId value
  | none => headers

/-- The request goes to the inner service as it is and nothing is logged. -/
def bypass (service : Service PayloadError BodyError Error) (req : ServiceRequest PayloadError) :
    Exchange PayloadError BodyError Error :=
  ⟨req, service.call req, none⟩

def excluded (path : String) : Bool := "/api/observability".toList.isPrefixOf path.toList

/-- The middleware. The state is missing when the application holds none; then
every request is read, and no row can be written. -/
def call (debug : Error → String) (state : Option HttpRequestLoggingConfig) (requestId : Uuid)
    (durationMs : Int) (service : Service PayloadError BodyError Error)
    (req : ServiceRequest PayloadError) : Exchange PayloadError BodyError Error :=
  if excluded req.head.path then bypass service req
  else if state.any (fun config => !config.enabled) then bypass service req
  else
    let row : Option String → Nat → String → Option String → LogRow :=
      fun reqBodyStr status resHeaders resBodyStr =>
        { requestId := requestId.hyphenated
          method := req.head.method
          path := req.head.path
          queryString := if req.head.queryString = "" then none else some req.head.queryString
          ipAddress := req.head.realipRemoteAddr
          requestHeaders := req.head.headers.logged
          requestBody := reqBodyStr
          responseStatus := status
          responseHeaders := resHeaders
          responseBody := resBodyStr
          durationMs := durationMs }
    let (restored, reqBodyStr) := takeRequestBody req
    match service.call restored with
    | .ok response =>
      let (body, resBodyStr) := takeResponseBody response
      { handed := restored
        answer := .ok
          { status := response.status
            headers := withRequestId response.headers requestId.hyphenated
            body := body }
        row := state.map (fun _ =>
          row reqBodyStr response.status response.headers.logged resBodyStr) }
    | .error e =>
      { handed := restored
        answer := .error e
        row := state.map (fun _ =>
          row reqBodyStr 500 "\x7b\x7d" (some ("[Internal Error]: " ++ debug e))) }

end ApiBoilerplate.Http.Observability
