import ApiBoilerplate.Http.AppError
import ApiBoilerplate.Http.Message
import ApiBoilerplate.Uuid

/-!
# Bearer tokens

The verification of a token, and the extractor that protected handlers take their
user from. How a token is decoded and how a UUID is read is left open.
-/

namespace ApiBoilerplate.Http

structure AuthConfig where
  jwtSecret : String
  deriving DecidableEq, Repr

structure Claims where
  sub : String
  email : String
  exp : Nat
  deriving DecidableEq, Repr

/-- What `jsonwebtoken` makes of a token under a secret at the time of the request,
and how `uuid` reads a text. -/
structure TokenReader where
  decode : String → String → Except String Claims
  parseStr : String → Option Uuid

def verifyToken (reader : TokenReader) (token : String) (cfg : AuthConfig) :
    Except AppError Claims :=
  (reader.decode token cfg.jwtSecret).mapError fun _ => .unauthorized "Invalid or expired token"

structure AuthUser where
  userId : Uuid
  email : String
  deriving DecidableEq, Repr

/-- `strip_prefix("Bearer ")` -/
def stripBearer (value : String) : Option String :=
  let start := "Bearer ".toList
  if start.isPrefixOf value.toList then some (String.ofList (value.toList.drop start.length))
  else none

/-- `AuthUser::from_request`; the state is missing where the application was built
without it. -/
def fromRequest (reader : TokenReader) (state : Option AuthConfig) (headers : HeaderMap) :
    Except AppError AuthUser :=
  match state with
  | none => .error (.internal "App state unavailable in extractor")
  | some auth =>
    match headers.get "authorization" with
    | none => .error (.unauthorized "Missing Authorization header")
    | some value =>
      match HeaderValue.toStr value with
      | none => .error (.unauthorized "Malformed Authorization header")
      | some text =>
        match stripBearer text with
        | none => .error (.unauthorized "Authorization header must start with 'Bearer '")
        | some token =>
          match verifyToken reader token auth with
          | .ok claims =>
            match reader.parseStr claims.sub with
            | some userId => .ok ⟨userId, claims.email⟩
            | none => .error (.unauthorized "Invalid token subject")
          | .error e => .error e

/-- The user a token stands for. -/
def identify (reader : TokenReader) (auth : AuthConfig) (token : String) :
    Except AppError AuthUser :=
  match verifyToken reader token auth with
  | .ok claims =>
    match reader.parseStr claims.sub with
    | some userId => .ok ⟨userId, claims.email⟩
    | none => .error (.unauthorized "Invalid token subject")
  | .error e => .error e

/-- The token of an `Authorization` header that has one. -/
def bearerToken (headers : HeaderMap) : Option String :=
  ((headers.get "authorization").bind HeaderValue.toStr).bind stripBearer

variable {reader : TokenReader} {auth : AuthConfig} {headers : HeaderMap} {token : String}

theorem verifyToken_ok {claims : Claims} :
    verifyToken reader token auth = .ok claims ↔
      reader.decode token auth.jwtSecret = .ok claims := by
  rw [verifyToken]
  cases reader.decode token auth.jwtSecret <;> simp [Except.mapError]

theorem identify_ok {user : AuthUser} :
    identify reader auth token = .ok user ↔
      ∃ claims, reader.decode token auth.jwtSecret = .ok claims ∧
        reader.parseStr claims.sub = some user.userId ∧ claims.email = user.email := by
  constructor
  · intro identified
    cases verified : verifyToken reader token auth with
    | error e =>
      simp only [identify, verified] at identified
      cases identified
    | ok claims =>
      cases subject : reader.parseStr claims.sub with
      | none =>
        simp only [identify, verified, subject] at identified
        cases identified
      | some userId =>
        simp only [identify, verified, subject] at identified
        cases identified
        exact ⟨claims, verifyToken_ok.mp verified, subject, rfl⟩
  · rintro ⟨claims, decoded, subject, email⟩
    simp only [identify, verifyToken_ok.mpr decoded, subject, email]

/-- The extractor asks for the user of the bearer token. -/
theorem fromRequest_bearer (given : bearerToken headers = some token) :
    fromRequest reader (some auth) headers = identify reader auth token := by
  obtain ⟨text, read, stripped⟩ := Option.bind_eq_some_iff.mp given
  obtain ⟨value, present, read⟩ := Option.bind_eq_some_iff.mp read
  simp only [fromRequest, present, read, stripped, identify]

/-- Without a bearer token the extractor rejects. -/
theorem fromRequest_other (other : bearerToken headers = none) :
    ∃ message, fromRequest reader (some auth) headers = .error (.unauthorized message) := by
  cases present : headers.get "authorization" with
  | none => exact ⟨"Missing Authorization header", by simp only [fromRequest, present]⟩
  | some value =>
    cases read : HeaderValue.toStr value with
    | none => exact ⟨"Malformed Authorization header", by simp only [fromRequest, present, read]⟩
    | some text =>
      have stripped : stripBearer text = none := by
        simpa [bearerToken, present, read] using other
      exact ⟨"Authorization header must start with 'Bearer '",
        by simp only [fromRequest, present, read, stripped]⟩

end ApiBoilerplate.Http
