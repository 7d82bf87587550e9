import ApiBoilerplate.Http.Transparency

/-!
# What the log keeps of a body

The configuration has a switch for request bodies and one for response bodies,
and the middleware reads neither. Two requests that differ in their bodies alone
leave the same row only if the bodies happen to look the same in it; the same
holds of two responses.
-/

namespace ApiBoilerplate.Http.Observability

open Foundation Text

universe u v w
variable {PayloadError : Type u} {BodyError : Type v} {Error : Type w}

/-- A row without what differs between any two requests: its id, and how long it took. -/
def LogRow.essence (row : LogRow) : LogRow := { row with requestId := "", durationMs := 0 }

def SameRow (a b : Option LogRow) : Prop := a.map LogRow.essence = b.map LogRow.essence

/-- What stands for a body in a row: its text, or a note when it is too long. -/
def bodyText (note : String) (bytes : Bytes) : String :=
  if bytes.length ≤ bodyLimit then fromUtf8Lossy bytes else note

/-- Two bodies that cannot be told apart by what a row keeps of them. -/
inductive SameText (note : String) (a b : Bytes) : Prop where
  | short : a.length ≤ bodyLimit → b.length ≤ bodyLimit → fromUtf8Lossy a = fromUtf8Lossy b →
      SameText note a b
  | long : bodyLimit < a.length → bodyLimit < b.length → SameText note a b
  | noteRight : a.length ≤ bodyLimit → bodyLimit < b.length → fromUtf8Lossy a = note →
      SameText note a b
  | noteLeft : bodyLimit < a.length → b.length ≤ bodyLimit → fromUtf8Lossy b = note →
      SameText note a b

theorem sameText_iff (note : String) (a b : Bytes) :
    bodyText note a = bodyText note b ↔ SameText note a b := by
  by_cases fits : a.length ≤ bodyLimit
  · by_cases fits' : b.length ≤ bodyLimit
    · rw [bodyText, if_pos fits, bodyText, if_pos fits']
      constructor
      · exact fun same => .short fits fits' same
      · intro same
        cases same with
        | short _ _ same => exact same
        | long beyond _ => omega
        | noteRight _ beyond _ => omega
        | noteLeft beyond _ _ => omega
    · rw [bodyText, if_pos fits, bodyText, if_neg fits']
      constructor
      · exact fun same => .noteRight fits (by omega) same
      · intro same
        cases same with
        | short _ within _ => omega
        | long beyond _ => omega
        | noteRight _ _ same => exact same
        | noteLeft beyond _ _ => omega
  · by_cases fits' : b.length ≤ bodyLimit
    · rw [bodyText, if_neg fits, bodyText, if_pos fits']
      constructor
      · exact fun same => .noteLeft (by omega) fits' same.symm
      · intro same
        cases same with
        | short within _ _ => omega
        | long _ beyond => omega
        | noteRight within _ _ => omega
        | noteLeft _ _ same => exact same.symm
    · rw [bodyText, if_neg fits, bodyText, if_neg fits']
      exact ⟨fun _ => .long (by omega) (by omega), fun _ => rfl⟩

def requestNote : String := "[Request body too large, truncated]"

def responseNote : String := "[Response body too large, truncated]"

theorem takeRequestBody_text {req : ServiceRequest PayloadError}
    (textual : isTextOrJson req.head.headers.contentType = true) :
    (takeRequestBody req).2 = some (bodyText requestNote req.payload.bytes) := by
  obtain ⟨head, ⟨chunks, error⟩⟩ := req
  have textual : isTextOrJson head.headers.contentType = true := textual
  by_cases fits : chunks.flatten.length ≤ bodyLimit
  · have read := readPayload_fits error chunks [] (by simpa using fits)
    have kept : bodyText requestNote chunks.flatten = fromUtf8Lossy chunks.flatten := if_pos fits
    simp [takeRequestBody, textual, read, ByteStream.bytes, kept]
  · obtain ⟨k, read, _⟩ := readPayload_overflows error chunks [] (by simp)
      (by rw [List.length_nil]; omega)
    have noted : bodyText requestNote chunks.flatten = requestNote := if_neg fits
    simp only [takeRequestBody, textual, if_true, read, Option.getD_some, ByteStream.bytes, noted]
    rfl

theorem takeRequestBody_binary {req : ServiceRequest PayloadError}
    (binary : isTextOrJson req.head.headers.contentType = false) :
    (takeRequestBody req).2 = binaryNote req.head.headers.contentType := by
  simp [takeRequestBody, binary]

/-- Two response bodies that look the same in a row: both break off, or both
end well with the same text. -/
def SameBody (a b : ByteStream BodyError) : Prop :=
  (a.error ≠ none ∧ b.error ≠ none) ∨
    (a.error = none ∧ b.error = none ∧ SameText responseNote a.bytes b.bytes)

theorem takeResponseBody_text {response : ServiceResponse BodyError}
    (textual : isTextOrJson response.headers.contentType = true) :
    (takeResponseBody response).2 =
      if response.body.error = none then some (bodyText responseNote response.body.bytes)
      else none := by
  obtain ⟨status, headers, ⟨chunks, error⟩⟩ := response
  have textual : isTextOrJson headers.contentType = true := textual
  cases error with
  | some failure => simp [takeResponseBody, textual, ByteStream.collect]
  | none =>
    simp only [takeResponseBody, textual, ByteStream.collect, if_true, bodyText]
    split <;> rfl

theorem takeResponseBody_binary {response : ServiceResponse BodyError}
    (binary : isTextOrJson response.headers.contentType = false) :
    (takeResponseBody response).2 = binaryNote response.headers.contentType := by
  simp [takeResponseBody, binary]

/-- Responses that differ in their bodies alone are logged alike exactly when
their type is not read, or the bodies look the same. -/
theorem takeResponseBody_same_iff {a b : ServiceResponse BodyError}
    (headers : a.headers = b.headers) : (takeResponseBody a).2 = (takeResponseBody b).2 ↔
      isTextOrJson a.headers.contentType = false ∨ SameBody a.body b.body := by
  rcases textual : isTextOrJson a.headers.contentType with _ | _
  · have textual' : isTextOrJson b.headers.contentType = false := headers ▸ textual
    rw [takeResponseBody_binary textual, takeResponseBody_binary textual', headers]
    exact ⟨fun _ => Or.inl rfl, fun _ => rfl⟩
  · have textual' : isTextOrJson b.headers.contentType = true := headers ▸ textual
    rw [takeResponseBody_text textual, takeResponseBody_text textual', SameBody]
    by_cases ends : a.body.error = none
    · by_cases ends' : b.body.error = none
      · simp [ends, ends', sameText_iff]
      · simp [ends, ends']
    · by_cases ends' : b.body.error = none
      · simp [ends, ends']
      · simp [ends, ends']

/-- The same answer; of a body only what it carries counts. -/
def SameAnswer : Except Error (ServiceResponse BodyError) →
    Except Error (ServiceResponse BodyError) → Prop
  | .ok a, .ok b => a.status = b.status ∧ a.headers = b.headers ∧ a.body.contents = b.body.contents
  | .error e, .error e' => e = e'
  | _, _ => False

/-- Answers that differ in the body alone; of an error all that a client sees of
it is left open. -/
def DifferInBody : Except Error (ServiceResponse BodyError) →
    Except Error (ServiceResponse BodyError) → Prop
  | .ok a, .ok b => a.status = b.status ∧ a.headers = b.headers
  | .error _, .error _ => True
  | _, _ => False

/-- Answers whose bodies a row cannot tell apart. -/
def SameInLog (debug : Error → String) : Except Error (ServiceResponse BodyError) →
    Except Error (ServiceResponse BodyError) → Prop
  | .ok a, .ok b => isTextOrJson a.headers.contentType = false ∨ SameBody a.body b.body
  | .error e, .error e' => debug e = debug e'
  | _, _ => False

/-- The columns of a row that describe the answer. -/
def answerColumns (debug : Error → String) : Except Error (ServiceResponse BodyError) →
    Nat × String × Option String
  | .ok response => (response.status, response.headers.logged, (takeResponseBody response).2)
  | .error e => (500, "\x7b\x7d", some ("[Internal Error]: " ++ debug e))

theorem answerColumns_same_iff (debug : Error → String)
    {a b : Except Error (ServiceResponse BodyError)} (differ : DifferInBody a b) :
    answerColumns debug a = answerColumns debug b ↔ SameInLog debug a b := by
  rcases a with e | a
  · rcases b with e' | b
    · simp [answerColumns, SameInLog]
    · exact differ.elim
  · rcases b with e' | b
    · exact differ.elim
    · obtain ⟨status, headers⟩ := differ
      rw [SameInLog, ← takeResponseBody_same_iff headers]
      simp [answerColumns, status, headers]

theorem SameAnswer.differInBody {a b : Except Error (ServiceResponse BodyError)}
    (same : SameAnswer a b) : DifferInBody a b := by
  rcases a with e | a
  · rcases b with e' | b
    · trivial
    · exact same.elim
  · rcases b with e' | b
    · exact same.elim
    · exact ⟨same.1, same.2.1⟩

theorem SameBody.of_contents {a b : ByteStream BodyError} (same : a.contents = b.contents) :
    SameBody a b := by
  obtain ⟨bytes, error⟩ := Prod.mk.inj same
  by_cases ends : a.error = none
  · exact Or.inr ⟨ends, error ▸ ends, (sameText_iff _ _ _).mp (by rw [bytes])⟩
  · exact Or.inl ⟨ends, error ▸ ends⟩

theorem SameAnswer.sameInLog (debug : Error → String)
    {a b : Except Error (ServiceResponse BodyError)} (same : SameAnswer a b) :
    SameInLog debug a b := by
  rcases a with e | a
  · rcases b with e' | b
    · exact congrArg debug same
    · exact same.elim
  · rcases b with e' | b
    · exact same.elim
    · exact Or.inr (.of_contents same.2.2)

section Call
variable {debug : Error → String} {config : HttpRequestLoggingConfig} {requestId requestId' : Uuid}
  {durationMs durationMs' : Int} {service service' : Service PayloadError BodyError Error}
  {req req' : ServiceRequest PayloadError}

theorem call_read (on : config.enabled = true) (path : excluded req.head.path = false) :
    (call debug (some config) requestId durationMs service req).handed =
      (takeRequestBody req).1 := by
  simp only [call, path, on, Bool.false_eq_true, if_false, Option.any_some, Bool.not_true]
  split <;> rfl

theorem call_unlogged (path : excluded req.head.path = true) :
    (call debug (some config) requestId durationMs service req).row = none := by
  simp [call, path, bypass]

/-- The row of a logged exchange, from the request and the answer. -/
theorem call_row (on : config.enabled = true) (path : excluded req.head.path = false) :
    (call debug (some config) requestId durationMs service req).row.map LogRow.essence =
      some {
        requestId := ""
        method := req.head.method
        path := req.head.path
        queryString := if req.head.queryString = "" then none else some req.head.queryString
        ipAddress := req.head.realipRemoteAddr
        requestHeaders := req.head.headers.logged
        requestBody := (takeRequestBody req).2
        responseStatus := (answerColumns debug (service.call (takeRequestBody req).1)).1
        responseHeaders := (answerColumns debug (service.call (takeRequestBody req).1)).2.1
        responseBody := (answerColumns debug (service.call (takeRequestBody req).1)).2.2
        durationMs := 0 } := by
  simp only [call, path, on, Bool.false_eq_true, if_false, Option.any_some, Bool.not_true]
  split
  · rename_i response answered
    simp [answered, answerColumns, LogRow.essence]
  · rename_i e answered
    simp [answered, answerColumns, LogRow.essence]

/-- Two exchanges under one head leave the same row exactly when the request
bodies and the answers are logged alike. -/
theorem sameRow_iff (on : config.enabled = true) (head : req.head = req'.head)
    (path : excluded req.head.path = false) :
    SameRow (call debug (some config) requestId durationMs service req).row
        (call debug (some config) requestId' durationMs' service' req').row ↔
      (takeRequestBody req).2 = (takeRequestBody req').2 ∧
        answerColumns debug (service.call (takeRequestBody req).1) =
          answerColumns debug (service'.call (takeRequestBody req').1) := by
  rw [SameRow, call_row on path, call_row on (head ▸ path), head]
  simp [Prod.ext_iff]

/-- Two text bodies are logged alike exactly when they look the same. -/
theorem takeRequestBody_same_iff (head : req.head = req'.head) :
    (takeRequestBody req).2 = (takeRequestBody req').2 ↔
      isTextOrJson req.head.headers.contentType = false ∨
        SameText requestNote req.payload.bytes req'.payload.bytes := by
  rcases textual : isTextOrJson req.head.headers.contentType with _ | _
  · have textual' : isTextOrJson req'.head.headers.contentType = false := head ▸ textual
    rw [takeRequestBody_binary textual, takeRequestBody_binary textual', head]
    exact ⟨fun _ => Or.inl rfl, fun _ => rfl⟩
  · have textual' : isTextOrJson req'.head.headers.contentType = true := head ▸ textual
    rw [takeRequestBody_text textual, takeRequestBody_text textual', Option.some.injEq,
      sameText_iff]
    simp

end Call

/-- With a switch off, rows still depend on the bodies it stands for: exchanges
that differ in the request body alone, or in the response body alone, leave the
same row exactly when the path is not logged, the type of the body is not read,
or the bodies look the same. -/
theorem body_unlogged_iff (debug : Error → String) (config : HttpRequestLoggingConfig)
    (on : config.enabled = true) (requestId requestId' : Uuid) (durationMs durationMs' : Int)
    (service service' : Service PayloadError BodyError Error)
    (req req' : ServiceRequest PayloadError) (head : req.head = req'.head) :
    (config.logRequestBody = false →
      SameAnswer
        (service.call (call debug (some config) requestId durationMs service req).handed)
        (service'.call (call debug (some config) requestId' durationMs' service' req').handed) →
      (SameRow (call debug (some config) requestId durationMs service req).row
          (call debug (some config) requestId' durationMs' service' req').row ↔
        excluded req.head.path = true ∨ isTextOrJson req.head.headers.contentType = false ∨
          SameText requestNote req.payload.bytes req'.payload.bytes)) ∧
    (config.logResponseBody = false → req = req' →
      DifferInBody
        (service.call (call debug (some config) requestId durationMs service req).handed)
        (service'.call (call debug (some config) requestId' durationMs' service' req').handed) →
      (SameRow (call debug (some config) requestId durationMs service req).row
          (call debug (some config) requestId' durationMs' service' req').row ↔
        excluded req.head.path = true ∨ SameInLog debug
          (service.call (call debug (some config) requestId durationMs service req).handed)
          (service'.call
            (call debug (some config) requestId' durationMs' service' req').handed))) := by
  rcases path : excluded req.head.path with _ | _
  · have path' : excluded req'.head.path = false := head ▸ path
    rw [sameRow_iff on head path, call_read on path, call_read on path',
      takeRequestBody_same_iff head]
    constructor
    · intro _ same
      have columns := (answerColumns_same_iff debug same.differInBody).mpr (same.sameInLog debug)
      simp [columns]
    · rintro _ rfl differ
      have same : SameText requestNote req.payload.bytes req.payload.bytes :=
        (sameText_iff _ _ _).mp rfl
      simp [same, answerColumns_same_iff debug differ]
  · have path' : excluded req'.head.path = true := head ▸ path
    rw [call_unlogged path, call_unlogged path']
    exact ⟨fun _ _ => iff_of_true rfl (Or.inl rfl), fun _ _ _ => iff_of_true rfl (Or.inl rfl)⟩

section Login

def silent : HttpRequestLoggingConfig := ⟨true, false, false⟩

/-- A login with any body. -/
def loginWith (body : Bytes) : ServiceRequest String where
  head :=
    { method := "POST"
      path := "/api/auth/login"
      queryString := ""
      headers := [("content-type", "application/json".toList.flatMap String.utf8EncodeChar)]
      realipRemoteAddr := none }
  payload := ⟨[body], none⟩

/-- Only the password differs from one login to the next. -/
def login (password : String) : ServiceRequest String :=
  loginWith (password.toList.flatMap String.utf8EncodeChar)

/-- Everybody is let in. -/
def welcome : Service String String String := fun _ _ => .ok ⟨200, [], .once []⟩

/-- Everybody is told these bytes. -/
def answering (body : Bytes) : Service String String String := fun _ _ =>
  .ok ⟨200, [("content-type", "text/plain".toList.flatMap String.utf8EncodeChar)], .once body⟩

/-- Two bytes that are no text are two bodies that look alike: two logins with them leave
the same row, and so do two answers of them. -/
theorem body_unlogged_iff_sameLogin :
    SameRow (call id (some silent) 1 10 welcome (loginWith [0xFF])).row
      (call id (some silent) 2 20 welcome (loginWith [0xFE])).row ∧
    SameRow (call id (some silent) 1 10 (answering [0xFF]) (login "hunter2")).row
      (call id (some silent) 2 20 (answering [0xFE]) (login "hunter2")).row := by
  have alike (note : String) : SameText note [0xFF] [0xFE] :=
    .short (by decide) (by decide) (by decide +kernel)
  obtain ⟨request, _⟩ := body_unlogged_iff id silent rfl 1 2 10 20 welcome welcome
    (loginWith [0xFF]) (loginWith [0xFE]) rfl
  obtain ⟨_, response⟩ := body_unlogged_iff id silent rfl 1 2 10 20 (answering [0xFF])
    (answering [0xFE]) (login "hunter2") (login "hunter2") rfl
  refine ⟨(request rfl ⟨rfl, rfl, rfl⟩).mpr ?_, (response rfl rfl ⟨rfl, rfl⟩).mpr ?_⟩
  · exact Or.inr (Or.inr (alike requestNote))
  · exact Or.inr (Or.inr (Or.inr ⟨rfl, rfl, alike responseNote⟩))

/-- The password of a login is in the log although request bodies are not to be logged. -/
theorem password_logged :
    ¬ ∀ req req' : ServiceRequest String, req.head = req'.head →
      SameAnswer (welcome.call (call id (some silent) 1 10 welcome req).handed)
        (welcome.call (call id (some silent) 1 10 welcome req').handed) →
      SameRow (call id (some silent) 1 10 welcome req).row
        (call id (some silent) 1 10 welcome req').row := by
  intro claim
  have same := claim (login "hunter2") (login "letmein") rfl ⟨rfl, rfl, rfl⟩
  have differ : (call id (some silent) 1 10 welcome (login "hunter2")).row.map LogRow.essence ≠
      (call id (some silent) 1 10 welcome (login "letmein")).row.map LogRow.essence := by
    decide +kernel
  exact differ same

end Login

end ApiBoilerplate.Http.Observability
