import ApiBoilerplate.Http.Transparency

/-!
# Requests through the server

The routes stand behind the middlewares: the answers to cross-origin requests, the security
headers, and the log around both. Whatever response the routes answer with, it leaves with
each of the security headers once; an error they answer with instead gets none of them.
-/

namespace ApiBoilerplate.Http

open Foundation

universe u v w
variable {PayloadError : Type u} {BodyError : Type v} {Error : Type w}

namespace HeaderMap

/-- All values under a name, in order. -/
def values (headers : HeaderMap) (name : String) : List HeaderValue :=
  (headers.filter fun entry => entry.1 = name).map Prod.snd

theorem values_insert_self (headers : HeaderMap) (name : String) (value : HeaderValue) :
    (headers.insert name value).values name = [value] := by
  simp [values, insert, without, List.filter_append, List.filter_filter]

theorem values_insert_of_ne (headers : HeaderMap) {name other : String} (differ : other ≠ name)
    (value : HeaderValue) : (headers.insert name value).values other = headers.values other := by
  have kept : (headers.without name).filter (fun entry => entry.1 = other) =
      headers.filter fun entry => entry.1 = other := by
    rw [without, List.filter_filter]
    refine List.filter_congr fun entry _ => ?_
    by_cases here : entry.1 = other
    · simp [here, differ]
    · simp [here]
  simp [values, insert, List.filter_append, kept, Ne.symm differ]

/-- Set one header after the other. -/
def insertAll (headers : HeaderMap) (entries : List (String × HeaderValue)) : HeaderMap :=
  entries.foldl (fun headers entry => headers.insert entry.1 entry.2) headers

theorem values_insertAll_of_ne {entries : List (String × HeaderValue)} {name : String}
    (other : ∀ entry ∈ entries, name ≠ entry.1) (headers : HeaderMap) :
    (headers.insertAll entries).values name = headers.values name := by
  induction entries generalizing headers with
  | nil => rfl
  | cons entry entries ih =>
    obtain ⟨differ, others⟩ := List.forall_mem_cons.mp other
    exact (ih others _).trans (values_insert_of_ne headers differ entry.2)

theorem values_insertAll {entries : List (String × HeaderValue)}
    (distinct : (entries.map Prod.fst).Nodup) (headers : HeaderMap)
    {entry : String × HeaderValue} (listed : entry ∈ entries) :
    (headers.insertAll entries).values entry.1 = [entry.2] := by
  induction entries generalizing headers with
  | nil => cases listed
  | cons first entries ih =>
    obtain ⟨fresh, distinct⟩ := List.nodup_cons.mp distinct
    rcases List.mem_cons.mp listed with rfl | later
    · have others : ∀ other ∈ entries, entry.1 ≠ other.1 := fun other there same =>
        fresh (same ▸ List.mem_map_of_mem there)
      exact (values_insertAll_of_ne others _).trans (values_insert_self headers entry.1 entry.2)
    · exact ih distinct _ later

end HeaderMap

namespace SecurityHeaders

/-- `HeaderValue::from_static`. -/
def fromStatic (text : String) : HeaderValue := text.toList.flatMap String.utf8EncodeChar

def added : List (String × HeaderValue) :=
  [("x-content-type-options", fromStatic "nosniff"),
    ("x-frame-options", fromStatic "DENY"),
    ("x-xss-protection", fromStatic "1; mode=block"),
    ("referrer-policy", fromStatic "strict-origin-when-cross-origin"),
    ("content-security-policy", fromStatic "default-src 'self'"),
    ("permissions-policy", fromStatic "geolocation=(), microphone=(), camera=()")]

def secure (res : ServiceResponse BodyError) : ServiceResponse BodyError :=
  { res with headers := res.headers.insertAll added }

/-- The middleware; an error of the inner service is passed on as it is. -/
def call (service : Service PayloadError BodyError Error) :
    Service PayloadError BodyError Error :=
  fun head payload => (service head payload).map secure

theorem added_distinct : (added.map Prod.fst).Nodup := by decide

end SecurityHeaders

open Observability (HttpRequestLoggingConfig Exchange xRequestId)

/-- The middlewares of `HttpServer::new`, the one wrapped last on the outside. -/
def pipeline (debug : Error → String) (state : Option HttpRequestLoggingConfig) (requestId : Uuid)
    (durationMs : Int)
    (cors : Service PayloadError BodyError Error → Service PayloadError BodyError Error)
    (routes : Service PayloadError BodyError Error) (req : ServiceRequest PayloadError) :
    Exchange PayloadError BodyError Error :=
  Observability.call debug state requestId durationMs (SecurityHeaders.call (cors routes)) req

/-- What the server makes of an answer. -/
structure Secured (inner response : ServiceResponse BodyError) : Prop where
  status : response.status = inner.status
  secured : ∀ entry ∈ SecurityHeaders.added, response.headers.values entry.1 = [entry.2]
  others : ∀ name, (∀ entry ∈ SecurityHeaders.added, name ≠ entry.1) → name ≠ xRequestId →
    response.headers.values name = inner.headers.values name

section Pipeline
variable (debug : Error → String) (state : Option HttpRequestLoggingConfig) (requestId : Uuid)
  (durationMs : Int) (service : Service PayloadError BodyError Error)
  (req : ServiceRequest PayloadError)

theorem secured_secure (inner : ServiceResponse BodyError) :
    Secured inner (SecurityHeaders.secure inner) where
  status := rfl
  secured := fun _ listed => HeaderMap.values_insertAll SecurityHeaders.added_distinct _ listed
  others := fun _ other _ => HeaderMap.values_insertAll_of_ne other _

/-- The request id is a header of its own. -/
theorem Secured.withRequestId {inner response : ServiceResponse BodyError}
    (secured : Secured inner response) (id : String) (body : ByteStream BodyError) :
    Secured inner ⟨response.status, Observability.withRequestId response.headers id, body⟩ := by
  have apart : ∀ entry ∈ SecurityHeaders.added, entry.1 ≠ xRequestId := by decide
  have kept : ∀ name, name ≠ xRequestId →
      (Observability.withRequestId response.headers id).values name =
        response.headers.values name := by
    intro name other
    rw [Observability.withRequestId]
    split
    · exact HeaderMap.values_insert_of_ne _ other _
    · rfl
  refine ⟨secured.status, fun entry listed => ?_, fun name others other => ?_⟩
  · exact (kept entry.1 (apart entry listed)).trans (secured.secured entry listed)
  · exact (kept name other).trans (secured.others name others other)

/-- A response of the log's middleware is the inner one, or has another body and the id. -/
theorem answer_cases {response : ServiceResponse BodyError}
    (answered : (Observability.call debug state requestId durationMs service req).answer =
      .ok response) :
    ∃ inner, service.call (Observability.call debug state requestId durationMs service req).handed =
        .ok inner ∧ (response = inner ∨ ∃ body, response = ⟨inner.status,
          Observability.withRequestId inner.headers requestId.hyphenated, body⟩) := by
  unfold Observability.call at answered ⊢
  split
  · rename_i excluded
    rw [if_pos excluded] at answered
    exact ⟨response, answered, Or.inl rfl⟩
  · rename_i included
    rw [if_neg included] at answered
    split
    · rename_i disabled
      rw [if_pos disabled] at answered
      exact ⟨response, answered, Or.inl rfl⟩
    · rename_i enabled
      rw [if_neg enabled] at answered
      cases reply : service.call (Observability.takeRequestBody req).1 with
      | error e =>
        simp only [reply] at answered
        cases answered
      | ok inner =>
        simp only [reply] at answered ⊢
        obtain rfl := Except.ok.inj answered
        exact ⟨inner, rfl, Or.inr ⟨_, rfl⟩⟩

/-- An error is the inner one. -/
theorem answer_error {e : Error}
    (failed : (Observability.call debug state requestId durationMs service req).answer =
      .error e) :
    service.call (Observability.call debug state requestId durationMs service req).handed =
      .error e := by
  unfold Observability.call at failed ⊢
  split
  · rename_i excluded
    rw [if_pos excluded] at failed
    exact failed
  · rename_i included
    rw [if_neg included] at failed
    split
    · rename_i disabled
      rw [if_pos disabled] at failed
      exact failed
    · rename_i enabled
      rw [if_neg enabled] at failed
      cases reply : service.call (Observability.takeRequestBody req).1 with
      | error e' =>
        simp only [reply] at failed ⊢
        exact failed
      | ok inner =>
        simp only [reply] at failed
        cases failed

variable {cors : Service PayloadError BodyError Error → Service PayloadError BodyError Error}
  {routes : Service PayloadError BodyError Error}

theorem pipeline_ok {response : ServiceResponse BodyError}
    (answered : (pipeline debug state requestId durationMs cors routes req).answer = .ok response) :
    ∃ inner, (cors routes).call
        (pipeline debug state requestId durationMs cors routes req).handed = .ok inner ∧
      Secured inner response := by
  obtain ⟨reply, replied, shape⟩ :=
    answer_cases debug state requestId durationMs (SecurityHeaders.call (cors routes)) req answered
  change ((cors routes).call _).map SecurityHeaders.secure = _ at replied
  cases given : (cors routes).call
      (pipeline debug state requestId durationMs cors routes req).handed with
  | error e =>
    rw [pipeline] at given
    rw [given] at replied
    cases replied
  | ok inner =>
    rw [pipeline] at given
    rw [given] at replied
    obtain rfl := Except.ok.inj replied
    refine ⟨inner, rfl, ?_⟩
    rcases shape with rfl | ⟨body, rfl⟩
    · exact secured_secure inner
    · exact (secured_secure inner).withRequestId requestId.hyphenated body

theorem pipeline_error {e : Error}
    (failed : (pipeline debug state requestId durationMs cors routes req).answer = .error e) :
    (cors routes).call (pipeline debug state requestId durationMs cors routes req).handed =
      .error e := by
  have passed := answer_error debug state requestId durationMs (SecurityHeaders.call (cors routes))
    req failed
  change ((cors routes).call _).map SecurityHeaders.secure = _ at passed
  cases given : (cors routes).call
      (pipeline debug state requestId durationMs cors routes req).handed with
  | error e' =>
    rw [pipeline] at given
    rw [given] at passed
    exact passed
  | ok inner =>
    rw [pipeline] at given
    rw [given] at passed
    cases passed

/-- Whatever response the routes answer with, of an error status or not, logged or not: that
of the server has each security header once, with its value, and the other headers and the
status are those of the answer. An error they answer with is that of the server. -/
theorem pipeline_secured (answer : Except Error (ServiceResponse BodyError))
    (answered : (pipeline debug state requestId durationMs cors routes req).answer = answer) :
    match answer with
    | .ok response => ∃ inner, (cors routes).call
        (pipeline debug state requestId durationMs cors routes req).handed = .ok inner ∧
      Secured inner response
    | .error e => (cors routes).call
        (pipeline debug state requestId durationMs cors routes req).handed = .error e := by
  cases answer with
  | ok response => exact pipeline_ok debug state requestId durationMs req answered
  | error e => exact pipeline_error debug state requestId durationMs req answered

end Pipeline

/-- A route that sets one of the headers itself. -/
def framed : Service String String String := fun _ _ =>
  .ok ⟨404, [("x-frame-options", SecurityHeaders.fromStatic "SAMEORIGIN"),
    ("x-frame-options", SecurityHeaders.fromStatic "DENY")], .once []⟩

theorem pipeline_secured_framed :
    ∃ response, (pipeline id (some ⟨true, true, true⟩) 0 1 id framed
        (Observability.paddedRequest [])).answer = .ok response ∧
      ∃ inner, framed.call (pipeline id (some ⟨true, true, true⟩) 0 1 id framed
        (Observability.paddedRequest [])).handed = .ok inner ∧ Secured inner response := by
  have answered : (pipeline id (some ⟨true, true, true⟩) 0 1 id framed
      (Observability.paddedRequest [])).answer = .ok _ := rfl
  exact ⟨_, answered, pipeline_secured id _ 0 1 _ _ answered⟩

end ApiBoilerplate.Http
