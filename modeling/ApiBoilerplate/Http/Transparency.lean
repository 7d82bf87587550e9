import ApiBoilerplate.Http.Observability
import Mathlib.Tactic.IntervalCases

/-!
# Where the observability middleware is transparent

Turning the middleware on should change nothing but the row it writes and the
request id it adds. It does so for the requests whose text body ends well within
the limit and whose text response ends well, and for no others.
-/

namespace ApiBoilerplate.Http.Observability

open Foundation Text

universe u v w
variable {PayloadError : Type u} {BodyError : Type v} {Error : Type w}

section Payload

theorem readPayload_fits (error : Option PayloadError) : ∀ (chunks : List Bytes) (body : Bytes),
    body.length + chunks.flatten.length ≤ bodyLimit →
    readPayload (ByteStream.items ⟨chunks, error⟩) body = (body ++ chunks.flatten, none) := by
  intro chunks
  induction chunks with
  | nil =>
    intro body _
    cases error <;> simp [ByteStream.items, readPayload]
  | cons chunk rest ih =>
    intro body fits
    rw [List.flatten_cons, List.length_append] at fits
    have first : body.length + chunk.length ≤ bodyLimit := by omega
    have tail := ih (body ++ chunk) (by rw [List.length_append]; omega)
    simp only [ByteStream.items, List.map_cons, List.cons_append, readPayload, first, if_true]
      at tail ⊢
    rw [tail, List.flatten_cons, List.append_assoc]

/-- A body that does not fit is cut between two chunks, before the last. -/
theorem readPayload_overflows (error : Option PayloadError) :
    ∀ (chunks : List Bytes) (body : Bytes), body.length ≤ bodyLimit →
    bodyLimit < body.length + chunks.flatten.length →
    ∃ k, readPayload (ByteStream.items ⟨chunks, error⟩) body =
        (body ++ (chunks.take k).flatten, some "[Request body too large, truncated]") ∧
      (body ++ (chunks.take k).flatten).length ≤ bodyLimit := by
  intro chunks
  induction chunks with
  | nil =>
    intro body within beyond
    rw [List.flatten_nil, List.length_nil] at beyond
    omega
  | cons chunk rest ih =>
    intro body within beyond
    by_cases first : body.length + chunk.length ≤ bodyLimit
    · rw [List.flatten_cons, List.length_append] at beyond
      have joined : (body ++ chunk).length = body.length + chunk.length := List.length_append
      obtain ⟨k, read, kept⟩ := ih (body ++ chunk) (by omega) (by omega)
      refine ⟨k + 1, ?_, ?_⟩
      · simp only [ByteStream.items, List.map_cons, List.cons_append, readPayload, first, if_true]
          at read ⊢
        rw [read, List.take_succ_cons, List.flatten_cons, List.append_assoc]
      · rw [List.take_succ_cons, List.flatten_cons, ← List.append_assoc]
        exact kept
    · refine ⟨0, ?_, ?_⟩
      · simp [ByteStream.items, readPayload, first]
      · simpa using within

/-- The bytes kept are a prefix of the body, and fit. -/
theorem readPayload_taken (payload : ByteStream PayloadError) :
    (readPayload payload.items []).1 <+: payload.bytes ∧
      (readPayload payload.items []).1.length ≤ bodyLimit := by
  obtain ⟨chunks, error⟩ := payload
  by_cases fits : chunks.flatten.length ≤ bodyLimit
  · have read := readPayload_fits error chunks [] (by simpa using fits)
    rw [read]
    exact ⟨by simp [ByteStream.bytes], by simpa using fits⟩
  · obtain ⟨k, read, kept⟩ := readPayload_overflows error chunks [] (by simp)
      (by rw [List.length_nil]; omega)
    rw [read]
    refine ⟨⟨(chunks.drop k).flatten, ?_⟩, kept⟩
    rw [List.nil_append, ← List.flatten_append, List.take_append_drop, ByteStream.bytes]

theorem readPayload_all_iff (payload : ByteStream PayloadError) :
    (readPayload payload.items []).1 = payload.bytes ↔ payload.bytes.length ≤ bodyLimit := by
  constructor
  · intro all
    rw [← all]
    exact (readPayload_taken payload).2
  · intro fits
    have read := readPayload_fits payload.error payload.chunks []
      (by simpa [ByteStream.bytes] using fits)
    rw [read, List.nil_append, ByteStream.bytes]

end Payload

/-- A request whose body, if it looks like text, ends well within the limit. -/
def RequestFits (req : ServiceRequest PayloadError) : Prop :=
  isTextOrJson req.head.headers.contentType = true →
    req.payload.error = none ∧ req.payload.bytes.length ≤ bodyLimit

/-- A response whose body, if it looks like text, ends well. -/
def ResponseEnds (response : ServiceResponse BodyError) : Prop :=
  isTextOrJson response.headers.contentType = true → response.body.error = none

theorem takeRequestBody_head (req : ServiceRequest PayloadError) :
    (takeRequestBody req).1.head = req.head := by
  by_cases textual : isTextOrJson req.head.headers.contentType = true <;>
    simp [takeRequestBody, textual]

theorem takeRequestBody_contents_iff (req : ServiceRequest PayloadError) :
    (takeRequestBody req).1.payload.contents = req.payload.contents ↔ RequestFits req := by
  by_cases textual : isTextOrJson req.head.headers.contentType = true
  · have restored : (takeRequestBody req).1.payload =
        .once (readPayload req.payload.items []).1 := by simp [takeRequestBody, textual]
    rw [restored, ByteStream.contents_eq_once_iff, readPayload_all_iff]
    exact ⟨fun ⟨fits, ends⟩ _ => ⟨ends, fits⟩, fun kept => (kept textual).symm⟩
  · have untouched : (takeRequestBody req).1 = req := by simp [takeRequestBody, textual]
    rw [untouched]
    exact ⟨fun _ text => absurd text textual, fun _ => rfl⟩

theorem takeResponseBody_contents_iff (response : ServiceResponse BodyError) :
    (takeResponseBody response).1.contents = response.body.contents ↔ ResponseEnds response := by
  by_cases textual : isTextOrJson response.headers.contentType = true
  · have ends : ResponseEnds response ↔ response.body.error = none :=
      ⟨fun ends => ends textual, fun ends _ => ends⟩
    rw [ends]
    rcases collected : response.body.collect with failure | bytes
    · have sent : (takeResponseBody response).1 = .once [] := by
        simp [takeResponseBody, textual, collected]
      have failed := response.body.collect_error_iff.mp ⟨failure, collected⟩
      rw [sent, ByteStream.contents_eq_once_iff]
      exact ⟨fun same => absurd same.2 failed, fun ended => absurd ended failed⟩
    · have sent : (takeResponseBody response).1 = .once bytes := by
        simp [takeResponseBody, textual, collected]
      rw [sent, ByteStream.contents_once_collect collected]
      have carried := (response.body.collect_ok_iff bytes).mp collected
      exact ⟨fun _ => congrArg Prod.snd carried, fun _ => rfl⟩
  · have sent : (takeResponseBody response).1 = response.body := by
      simp [takeResponseBody, textual]
    rw [sent]
    exact ⟨fun _ text => absurd text textual, fun _ => rfl⟩

@[simp] theorem withRequestId_without (headers : HeaderMap) (requestId : String) :
    (withRequestId headers requestId).without xRequestId = headers.without xRequestId := by
  unfold withRequestId
  split
  · exact HeaderMap.without_insert headers xRequestId _
  · rfl

/-- What the client receives, the request id aside; the body counts by what it carries. -/
def received (answer : Except Error (ServiceResponse BodyError)) :
    Except Error (Nat × HeaderMap × Bytes × Option BodyError) :=
  answer.map (fun response =>
    (response.status, response.headers.without xRequestId, response.body.contents))

section Call
variable (debug : Error → String) (config : HttpRequestLoggingConfig) (requestId : Uuid)
  (durationMs : Int) (service : Service PayloadError BodyError Error)
  (req : ServiceRequest PayloadError)

theorem call_excluded (state : Option HttpRequestLoggingConfig)
    (path : excluded req.head.path = true) :
    call debug state requestId durationMs service req = bypass service req := by
  simp [call, path]

theorem call_disabled :
    call debug (some { config with enabled := false }) requestId durationMs service req =
      bypass service req := by
  simp [call]

theorem call_handed (path : excluded req.head.path = false) :
    (call debug (some { config with enabled := true }) requestId durationMs service req).handed =
      (takeRequestBody req).1 := by
  simp only [call, path, Bool.false_eq_true, if_false, Option.any_some, Bool.not_true]
  split <;> rfl

theorem call_received (path : excluded req.head.path = false) :
    received (call debug (some { config with enabled := true }) requestId durationMs
        service req).answer =
      (service.call (takeRequestBody req).1).map (fun response =>
        (response.status, response.headers.without xRequestId,
          (takeResponseBody response).1.contents)) := by
  simp only [call, path, Bool.false_eq_true, if_false, Option.any_some, Bool.not_true]
  split
  · rename_i response answered
    simp [received, answered, Except.map]
  · rename_i e answered
    simp [received, answered, Except.map]

/-- The same exchange with the middleware on and off. -/
structure Transparent : Prop where
  head : (call debug (some { config with enabled := true }) requestId durationMs
        service req).handed.head =
    (call debug (some { config with enabled := false }) requestId durationMs
        service req).handed.head
  requestBody : (call debug (some { config with enabled := true }) requestId durationMs
        service req).handed.payload.contents =
    (call debug (some { config with enabled := false }) requestId durationMs
        service req).handed.payload.contents
  client : received (call debug (some { config with enabled := true }) requestId durationMs
        service req).answer =
    received (call debug (some { config with enabled := false }) requestId durationMs
        service req).answer

theorem received_eq_iff (restored : (takeRequestBody req).1.payload.contents = req.payload.contents)
    (path : excluded req.head.path = false) :
    received (call debug (some { config with enabled := true }) requestId durationMs
        service req).answer = received (service.call req) ↔
      ∀ response, service.call req = .ok response → ResponseEnds response := by
  have same : service.call (takeRequestBody req).1 = service.call req := by
    rw [Service.call, Service.call, restored, takeRequestBody_head]
  rw [call_received debug config requestId durationMs service req path, same]
  rcases answered : service.call req with e | response
  · simp [received, Except.map]
  · simp only [received, Except.map, Except.ok.injEq, Prod.mk.injEq, true_and, forall_eq']
    exact takeResponseBody_contents_iff response

/-- Logging changes nothing exactly when the path is left alone, or the request
fits and what the inner service answers to it ends well. -/
theorem transparent_iff :
    Transparent debug config requestId durationMs service req ↔
      excluded req.head.path = true ∨
        RequestFits req ∧
          ∀ response, service.call req = .ok response → ResponseEnds response := by
  have off := call_disabled debug config requestId durationMs service req
  by_cases path : excluded req.head.path = true
  · have on := call_excluded debug requestId durationMs service req
      (some { config with enabled := true }) path
    refine ⟨fun _ => Or.inl path, fun _ => ⟨?_, ?_, ?_⟩⟩ <;> rw [on, off]
  · have read : excluded req.head.path = false := by simpa using path
    have handed := call_handed debug config requestId durationMs service req read
    constructor
    · intro transparent
      have restored := transparent.requestBody
      rw [handed, off] at restored
      have client := transparent.client
      rw [off] at client
      refine Or.inr ⟨(takeRequestBody_contents_iff req).mp restored, ?_⟩
      exact (received_eq_iff debug config requestId durationMs service req restored read).mp client
    · rintro (skipped | ⟨fits, ends⟩)
      · exact absurd skipped path
      · have restored := (takeRequestBody_contents_iff req).mpr fits
        refine ⟨?_, ?_, ?_⟩
        · rw [handed, off]
          exact takeRequestBody_head req
        · rw [handed, off]
          exact restored
        · rw [off]
          exact (received_eq_iff debug config requestId durationMs service req restored read).mpr
            ends

end Call

section RequestId

theorem visible_hexDigit {n : Nat} (hn : n < 16) :
    (String.utf8EncodeChar (Uuid.hexDigit n)).all
      (fun b => (0x20 ≤ b && b ≠ 0x7F) || b = 0x09) = true := by
  interval_cases n <;> decide

theorem fromStr_hyphenated (u : Uuid) :
    HeaderValue.fromStr u.hyphenated =
      some (u.hyphenated.toList.flatMap String.utf8EncodeChar) := by
  have visible : (u.hyphenated.toList.flatMap String.utf8EncodeChar).all
      (fun b => (0x20 ≤ b && b ≠ 0x7F) || b = 0x09) = true := by
    rw [List.all_flatMap, List.all_eq_true]
    intro c hc
    rcases Uuid.mem_hyphenated hc with rfl | ⟨n, hn, rfl⟩
    · decide
    · exact visible_hexDigit hn
  rw [HeaderValue.fromStr]
  exact if_pos visible

/-- Every response that went through the log carries the id of its row. -/
theorem answer_requestId (debug : Error → String) (state : Option HttpRequestLoggingConfig)
    (requestId : Uuid) (durationMs : Int) (service : Service PayloadError BodyError Error)
    (req : ServiceRequest PayloadError) (row : LogRow) (response : ServiceResponse BodyError)
    (written : (call debug state requestId durationMs service req).row = some row)
    (answered : (call debug state requestId durationMs service req).answer = .ok response) :
    row.requestId = requestId.hyphenated ∧
      response.headers.get xRequestId =
        some (row.requestId.toList.flatMap String.utf8EncodeChar) := by
  unfold call at written answered
  split at written
  · cases written
  · split at written
    · cases written
    · rename_i read enabled
      simp only [read, enabled, Bool.false_eq_true, if_false] at written answered
      rcases inner : service.call (takeRequestBody req).1 with e | reply
      · simp only [inner] at answered
        cases answered
      · simp only [inner, Option.map_eq_some_iff] at written answered
        obtain ⟨config, _, rfl⟩ := written
        cases answered
        refine ⟨rfl, ?_⟩
        simp only [withRequestId, fromStr_hyphenated]
        exact HeaderMap.get_insert _ xRequestId _

end RequestId

section Truncation

/-- JSON behind some padding. -/
def paddedRequest (padding : Bytes) : ServiceRequest String where
  head :=
    { method := "POST"
      path := "/api/users"
      queryString := ""
      headers := [("content-type", "application/json".toList.flatMap String.utf8EncodeChar)]
      realipRemoteAddr := none }
  payload := ⟨[padding, [0x7B, 0x7D]], none⟩

def echo : Service String String String := fun _ payload => .ok ⟨200, [], ⟨[payload.1], none⟩⟩

/-- Padding one byte short of the limit arrives without the JSON behind it. -/
theorem paddedRequest_handed (padding : Bytes) (long : padding.length = 65535) :
    (call (fun e => e) (some ⟨true, true, true⟩) 0 1 echo
      (paddedRequest padding)).handed.payload.contents = (padding, none) := by
  have path : excluded (paddedRequest padding).head.path = false := by
    change excluded "/api/users" = false
    decide
  have read := call_handed (fun e : String => e) ⟨true, true, true⟩ 0 1 echo
    (paddedRequest padding) path
  have json : (paddedRequest padding).head.headers.contentType = "application/json" := by
    change HeaderMap.contentType [("content-type",
      "application/json".toList.flatMap String.utf8EncodeChar)] = "application/json"
    decide
  have textual : isTextOrJson (paddedRequest padding).head.headers.contentType = true := by
    rw [json]
    decide
  have kept : (readPayload (paddedRequest padding).payload.items []).1 = padding := by
    simp [paddedRequest, ByteStream.items, readPayload, bodyLimit, long]
  have restored : (takeRequestBody (paddedRequest padding)).1.payload = .once padding := by
    simp [takeRequestBody, textual, kept]
  rw [read, restored, ByteStream.contents_once]

theorem padded_body_truncated :
    ¬ Transparent (fun e : String => e) ⟨true, true, true⟩ 0 1 echo
      (paddedRequest (List.replicate 65535 0x20)) := by
  intro transparent
  have long : (List.replicate 65535 (0x20 : UInt8)).length = 65535 := List.length_replicate
  generalize List.replicate 65535 (0x20 : UInt8) = padding at transparent long
  have handed := transparent.requestBody
  rw [paddedRequest_handed padding long, call_disabled] at handed
  have lengths := congrArg (fun contents => contents.1.length) handed
  simp [bypass, paddedRequest, ByteStream.contents, ByteStream.bytes] at lengths

end Truncation

end ApiBoilerplate.Http.Observability
