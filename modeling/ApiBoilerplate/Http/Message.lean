import ApiBoilerplate.Text

/-!
# Requests, responses and services

Headers are a list of names and values in which a name may occur more than
once. A service answers a request from its head and from what its payload
carries; it cannot tell how the payload was cut into chunks.
-/

namespace ApiBoilerplate.Http

open Foundation Text

abbrev HeaderValue := Bytes

namespace HeaderValue

/-- The value as text, when all of it is visible ASCII, blanks or tabs. -/
def toStr (value : HeaderValue) : Option String :=
  if value.all (fun b => (0x20 ≤ b && b < 0x7F) || b = 0x09) then
    some (String.ofList (value.map (fun b => Char.ofNat b.toNat)))
  else none

def fromStr (text : String) : Option HeaderValue :=
  let bytes := text.toList.flatMap String.utf8EncodeChar
  if bytes.all (fun b => (0x20 ≤ b && b ≠ 0x7F) || b = 0x09) then some bytes else none

end HeaderValue

abbrev HeaderMap := List (String × HeaderValue)

namespace HeaderMap

/-- The first value under a name. -/
def get (headers : HeaderMap) (name : String) : Option HeaderValue :=
  (headers.find? (fun entry => entry.1 = name)).map (·.2)

def without (headers : HeaderMap) (name : String) : HeaderMap :=
  headers.filter (fun entry => entry.1 ≠ name)

/-- Set a header, dropping every value it had. -/
def insert (headers : HeaderMap) (name : String) (value : HeaderValue) : HeaderMap :=
  headers.without name ++ [(name, value)]

/-- The value of `content-type` as text, empty when there is none to be read. -/
def contentType (headers : HeaderMap) : String :=
  ((headers.get "content-type").bind HeaderValue.toStr).getD ""

/-- The headers whose values are text, as the JSON object the log keeps of them. -/
def logged (headers : HeaderMap) : String :=
  StringMap.toJson (headers.foldl (fun map entry =>
    match HeaderValue.toStr entry.2 with
    | some text => StringMap.insert entry.1 text map
    | none => map) [])

@[simp] theorem without_insert (headers : HeaderMap) (name : String) (value : HeaderValue) :
    (headers.insert name value).without name = headers.without name := by
  simp [insert, without, List.filter_append, List.filter_filter]

theorem get_insert (headers : HeaderMap) (name : String) (value : HeaderValue) :
    (headers.insert name value).get name = some value := by
  have absent : (headers.without name).find? (fun entry => entry.1 = name) = none := by
    apply List.find?_eq_none.mpr
    intro entry kept
    simpa [without] using (List.mem_filter.mp kept).2
  simp [insert, get, List.find?_append, absent]

end HeaderMap

structure RequestHead where
  method : String
  path : String
  queryString : String
  headers : HeaderMap
  realipRemoteAddr : Option String
  deriving DecidableEq, Repr

universe u v w

structure ServiceRequest (PayloadError : Type u) where
  head : RequestHead
  payload : ByteStream PayloadError
  deriving DecidableEq, Repr

structure ServiceResponse (BodyError : Type v) where
  status : Nat
  headers : HeaderMap
  body : ByteStream BodyError
  deriving DecidableEq, Repr

abbrev Service (PayloadError : Type u) (BodyError : Type v) (Error : Type w) :=
  RequestHead → Bytes × Option PayloadError → Except Error (ServiceResponse BodyError)

/-- Hand a request to a service. -/
def Service.call {PayloadError : Type u} {BodyError : Type v} {Error : Type w}
    (service : Service PayloadError BodyError Error) (req : ServiceRequest PayloadError) :
    Except Error (ServiceResponse BodyError) :=
  service req.head req.payload.contents

end ApiBoilerplate.Http
