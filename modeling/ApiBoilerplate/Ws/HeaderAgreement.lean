import ApiBoilerplate.Ws.Handshake

/-!
# The header, read twice

Protected handlers and the handshake read the same `Authorization` header. Where the
extractor finds a bearer token the handshake takes the same one, unless it never comes
to the header because the query string cannot be read; any other header the extractor
rejects, and the handshake takes for none at all.
-/

namespace ApiBoilerplate

open Foundation Http

variable {reader : TokenReader} {config : HandshakeConfig}
  {extract : String → Except String WsQuery} {headers : HeaderMap} {queryString : String}
  {query : WsQuery}

/-- The handshake does with a request what the extractor does. -/
structure HeaderAgreement (reader : TokenReader) (config : HandshakeConfig)
    (extract : String → Except String WsQuery) (headers : HeaderMap) (queryString : String) :
    Prop where
  /-- The same user, whom the handshake lets in. -/
  user : ∀ user, fromRequest reader (some config.auth) headers = .ok user →
    ∃ query, extract queryString = .ok query ∧
      authenticate reader config headers query = .ok (some user)
  /-- No connection, whatever the upgrade gives and the hub holds. -/
  rejected : ∀ e, fromRequest reader (some config.auth) headers = .error e →
    ∀ (Value Response : Type) (upgrade : Except String Response) id now (server : WsServer Value),
      ∃ e', (handshake reader config extract headers queryString upgrade id now server).1 =
        .error e'

/-- The query token, where the handshake looks at it. -/
def queryToken (config : HandshakeConfig) (query : WsQuery) : Option String :=
  if config.allowQueryToken then query.token else none

/-- The token does not verify, or its subject is no UUID. -/
def Refused (reader : TokenReader) (config : HandshakeConfig) (token : String) : Prop :=
  ∀ claims, reader.decode token config.auth.jwtSecret = .ok claims →
    reader.parseStr claims.sub = none

/-- The header has a bearer token, or the handshake is rejected for want of another
token or because of it. Where the query cannot be read, the header has no token that
is accepted. -/
inductive HeaderCovered (reader : TokenReader) (config : HandshakeConfig)
    (extract : String → Except String WsQuery) (value : HeaderValue) (queryString : String) :
    Prop where
  | bearer (query : WsQuery) (text token : String) : extract queryString = .ok query →
      HeaderValue.toStr value = some text → stripBearer text = some token →
      HeaderCovered reader config extract value queryString
  | required (query : WsQuery) : extract queryString = .ok query →
      queryToken config query = none → config.requireAuth = true →
      HeaderCovered reader config extract value queryString
  | refused (query : WsQuery) (token : String) : extract queryString = .ok query →
      queryToken config query = some token → Refused reader config token →
      HeaderCovered reader config extract value queryString
  | unread (e : String) : extract queryString = .error e →
      (∀ text token, HeaderValue.toStr value = some text → stripBearer text = some token →
        Refused reader config token) →
      HeaderCovered reader config extract value queryString

theorem authenticate_token {token : String} (found : tokenOf config headers query = some token) :
    authenticate reader config headers query = (identify reader config.auth token).map some := by
  simp only [authenticate, resolveIdentity_eq, found]
  cases identify reader config.auth token with
  | error e => rfl
  | ok user => simp [Except.map]

theorem authenticate_no_token (none : tokenOf config headers query = none) :
    authenticate reader config headers query =
      if config.requireAuth then .error authenticationRequired else .ok Option.none := by
  rw [authenticate, resolveIdentity_eq, none]
  simp

theorem wsConnect_rejected {Value Response : Type} {upgrade : Except String Response}
    {id : ConnectionId} {now : DateTime} {server : WsServer Value} {e : AppError}
    (refused : authenticate reader config headers query = .error e) :
    (wsConnect reader config headers query upgrade id now server).1 = .error (.app e) := by
  simp only [wsConnect, admission, refused]

/-- A caller that is let in is connected by an empty hub without a limit. -/
theorem wsConnect_empty {identity : Option AuthUser}
    (letIn : authenticate reader config headers query = .ok identity) :
    (wsConnect reader config headers query (.ok ()) 0 0
      (⟨.new 0 ⟨0, 0, 0⟩ none, []⟩ : WsServer Unit)).1 = .ok () := by
  have room : ¬ (WsHub.new 0 ⟨0, 0, 0⟩ none : WsHub Unit).atCapacity := by
    rintro ⟨limited, _⟩
    exact Nat.lt_irrefl 0 limited
  cases identity with
  | none => simp only [wsConnect, admission, letIn, WsHub.register, if_neg room, Option.map_none]
  | some user =>
    simp only [wsConnect, admission, letIn, WsHub.register, if_neg room, Option.map_some]

theorem handshake_read {Value Response : Type} {upgrade : Except String Response}
    {id : ConnectionId} {now : DateTime} {server : WsServer Value}
    (read : extract queryString = .ok query) :
    handshake reader config extract headers queryString upgrade id now server =
      wsConnect reader config headers query upgrade id now server := by
  rw [handshake, read]

theorem identify_error_iff {token : String} :
    (∃ e, identify reader config.auth token = .error e) ↔ Refused reader config token := by
  constructor
  · rintro ⟨e, refused⟩ claims decoded
    by_contra subject
    obtain ⟨userId, parsed⟩ := Option.ne_none_iff_exists'.mp subject
    have identified : identify reader config.auth token = .ok ⟨userId, claims.email⟩ :=
      identify_ok.mpr ⟨claims, decoded, parsed, rfl⟩
    rw [identified] at refused
    cases refused
  · intro refused
    cases identified : identify reader config.auth token with
    | error e => exact ⟨e, rfl⟩
    | ok user =>
      obtain ⟨claims, decoded, parsed, _⟩ := identify_ok.mp identified
      rw [refused claims decoded] at parsed
      cases parsed

/-- With a bearer token both ask for its user. -/
theorem headerAgreement_bearer {token : String} (read : extract queryString = .ok query)
    (given : bearerToken headers = some token) :
    HeaderAgreement reader config extract headers queryString := by
  have found : tokenOf config headers query = some token := tokenOf_eq_some.mpr (.header given)
  have asked : authenticate reader config headers query =
      (identify reader config.auth token).map some := authenticate_token found
  rw [← fromRequest_bearer given] at asked
  constructor
  · intro user extracted
    refine ⟨query, read, ?_⟩
    rw [asked, extracted]
    rfl
  · intro e refused Value Response upgrade id now server
    rw [refused] at asked
    rw [handshake_read read]
    exact ⟨_, wsConnect_rejected asked⟩

/-- Without one, they agree where the handshake is rejected. -/
theorem headerAgreement_other_iff (read : extract queryString = .ok query)
    (other : bearerToken headers = none) :
    HeaderAgreement reader config extract headers queryString ↔
      ∃ e, authenticate reader config headers query = .error e := by
  obtain ⟨message, extracted⟩ : ∃ message,
      fromRequest reader (some config.auth) headers = .error (.unauthorized message) :=
    fromRequest_other other
  constructor
  · intro agreement
    cases authenticated : authenticate reader config headers query with
    | error e => exact ⟨e, rfl⟩
    | ok identity =>
      obtain ⟨e, failed⟩ := agreement.rejected _ extracted Unit Unit (.ok ()) 0 0
        ⟨.new 0 ⟨0, 0, 0⟩ none, []⟩
      rw [handshake_read read, wsConnect_empty authenticated] at failed
      cases failed
  · rintro ⟨e, refused⟩
    constructor
    · intro user extracted'
      rw [extracted] at extracted'
      cases extracted'
    · intro _ _ Value Response upgrade id now server
      rw [handshake_read read]
      exact ⟨_, wsConnect_rejected refused⟩

/-- A query that cannot be read rejects every request, so they agree where the
extractor rejects too. -/
theorem headerAgreement_unread_iff {e : String} (unread : extract queryString = .error e) :
    HeaderAgreement reader config extract headers queryString ↔
      ∀ token, bearerToken headers = some token → Refused reader config token := by
  constructor
  · intro agreement token given
    rw [← identify_error_iff, ← fromRequest_bearer given]
    cases extracted : fromRequest reader (some config.auth) headers with
    | error e => exact ⟨e, rfl⟩
    | ok user =>
      obtain ⟨query, read, _⟩ := agreement.user user extracted
      rw [unread] at read
      cases read
  · intro refused
    constructor
    · intro user extracted
      cases given : bearerToken headers with
      | none =>
        obtain ⟨_, rejected⟩ : ∃ message, fromRequest reader (some config.auth) headers =
            .error (.unauthorized message) := fromRequest_other given
        rw [extracted] at rejected
        cases rejected
      | some token =>
        obtain ⟨_, rejected⟩ := identify_error_iff.mpr (refused token given)
        rw [← fromRequest_bearer given, extracted] at rejected
        cases rejected
    · intro _ _ Value Response upgrade id now server
      exact ⟨.badRequest e, by rw [handshake, unread]⟩

/-- Without a bearer token the handshake is rejected for want of another token or
because of it. -/
theorem authenticate_error_iff (other : bearerToken headers = none) :
    (∃ e, authenticate reader config headers query = .error e) ↔
      (queryToken config query = none ∧ config.requireAuth = true) ∨
        ∃ token, queryToken config query = some token ∧ Refused reader config token := by
  have found : tokenOf config headers query = queryToken config query := by
    rw [tokenOf, other, queryToken]
  cases asked : queryToken config query with
  | none =>
    rw [authenticate_no_token (found.trans asked)]
    by_cases required : config.requireAuth
    · rw [if_pos required]
      exact iff_of_true ⟨_, rfl⟩ (Or.inl ⟨rfl, required⟩)
    · rw [if_neg required]
      refine iff_of_false ?_ ?_
      · rintro ⟨_, ⟨⟩⟩
      · rintro (⟨_, required'⟩ | ⟨_, ⟨⟩, _⟩)
        exact required required'
  | some token =>
    have stage : (∃ e, authenticate reader config headers query = .error e) ↔
        ∃ e, identify reader config.auth token = .error e := by
      rw [authenticate_token (found.trans asked)]
      cases identify reader config.auth token <;> simp [Except.map]
    rw [stage, identify_error_iff]
    constructor
    · exact fun refused => Or.inr ⟨token, rfl, refused⟩
    · rintro (⟨⟨⟩, _⟩ | ⟨_, ⟨⟩, refused⟩)
      exact refused

/-- Beside a query that cannot be read, only a header without a token that is accepted
is covered. -/
theorem headerCovered_unread_iff {value : HeaderValue} {e : String}
    (unread : extract queryString = .error e)
    (header : bearerToken headers = (HeaderValue.toStr value).bind stripBearer) :
    HeaderCovered reader config extract value queryString ↔
      ∀ token, bearerToken headers = some token → Refused reader config token := by
  rw [header]
  constructor
  · rintro (⟨_, _, _, read, _⟩ | ⟨_, read, _⟩ | ⟨_, _, read, _⟩ | ⟨_, _, refused⟩) token given
    · cases unread.symm.trans read
    · cases unread.symm.trans read
    · cases unread.symm.trans read
    · obtain ⟨text, visible, stripped⟩ := Option.bind_eq_some_iff.mp given
      exact refused text token visible stripped
  · intro refused
    refine .unread e unread fun text token visible stripped => refused token ?_
    rw [visible, Option.bind_some, stripped]

/-- Without a bearer token, only one beside which the handshake is rejected is. -/
theorem headerCovered_other_iff {value : HeaderValue} (read : extract queryString = .ok query)
    (header : (HeaderValue.toStr value).bind stripBearer = none) :
    HeaderCovered reader config extract value queryString ↔
      (queryToken config query = none ∧ config.requireAuth = true) ∨
        ∃ token, queryToken config query = some token ∧ Refused reader config token := by
  have same : ∀ {query'}, extract queryString = .ok query' → query' = query :=
    fun read' => Except.ok.inj (read'.symm.trans read)
  constructor
  · rintro (⟨_, text, token, _, visible, stripped⟩ | ⟨_, read', asked, required⟩ |
      ⟨_, token, read', asked, refused⟩ | ⟨e, unread, _⟩)
    · rw [visible, Option.bind_some, stripped] at header
      cases header
    · obtain rfl := same read'
      exact Or.inl ⟨asked, required⟩
    · obtain rfl := same read'
      exact Or.inr ⟨token, asked, refused⟩
    · cases read.symm.trans unread
  · rintro (⟨asked, required⟩ | ⟨token, asked, refused⟩)
    · exact .required query read asked required
    · exact .refused query token read asked refused

/-- The two readings of a header agree where it has a bearer token, or where the
handshake is rejected anyway; they disagree on a token that is accepted beside a query
that cannot be read. -/
theorem headerAgreement_iff {value : HeaderValue}
    (present : headers.get "authorization" = some value) :
    HeaderAgreement reader config extract headers queryString ↔
      HeaderCovered reader config extract value queryString := by
  have header : bearerToken headers = (HeaderValue.toStr value).bind stripBearer := by
    rw [bearerToken, present, Option.bind_some]
  cases read : extract queryString with
  | error e => rw [headerAgreement_unread_iff read, headerCovered_unread_iff read header]
  | ok query =>
    cases given : bearerToken headers with
    | some token =>
      obtain ⟨text, visible, stripped⟩ := Option.bind_eq_some_iff.mp (header.symm.trans given)
      exact iff_of_true (headerAgreement_bearer read given)
        (.bearer query text token read visible stripped)
    | none =>
      rw [headerAgreement_other_iff read given, authenticate_error_iff given,
        headerCovered_other_iff read (header.symm.trans given)]

section Examples

/-- The `token` fields of a query string without escapes: one at most. -/
def plainQuery (queryString : String) : Except String WsQuery :=
  match (queryString.toList.splitOn '&').filterMap fun field =>
      if "token=".toList.isPrefixOf field then some (String.ofList (field.drop 6)) else none with
  | [] => .ok ⟨none⟩
  | [token] => .ok ⟨some token⟩
  | _ => .error "duplicate field `token`"

/-- A reader that no token satisfies. -/
def strictReader : TokenReader := ⟨fun _ _ => .error "InvalidToken", Uuid.ofHyphenated⟩

/-- `Bearer` with a byte that is no visible ASCII after it. -/
def malformedValue : HeaderValue := [0x42, 0x65, 0x61, 0x72, 0x65, 0x72, 0x20, 0xFF]

def malformedHeader : HeaderMap := [("authorization", malformedValue)]

theorem malformedHeader_value : malformedHeader.get "authorization" = some malformedValue := by
  decide

theorem malformed_header_refused :
    HeaderAgreement strictReader ⟨true, false, ⟨"secret"⟩⟩ plainQuery malformedHeader "a=1" :=
  (headerAgreement_iff malformedHeader_value).mpr (.required ⟨none⟩ (by decide) rfl rfl)

/-- The extractor rejects the header; the handshake lets the client in as nobody. -/
theorem malformed_header_anonymous :
    ¬ HeaderAgreement strictReader ⟨false, false, ⟨"secret"⟩⟩ plainQuery malformedHeader "" := by
  intro agreement
  have read : plainQuery "" = .ok ⟨none⟩ := by decide
  have letIn : authenticate strictReader ⟨false, false, ⟨"secret"⟩⟩ malformedHeader ⟨none⟩ =
      .ok none := by decide
  have extracted : fromRequest strictReader (some ⟨"secret"⟩) malformedHeader =
      .error (.unauthorized "Malformed Authorization header") := by decide
  obtain ⟨e, failed⟩ := agreement.rejected _ extracted Unit Unit (.ok ()) 0 0
    ⟨.new 0 ⟨0, 0, 0⟩ none, []⟩
  rw [handshake_read read, wsConnect_empty letIn] at failed
  cases failed

end Examples
end ApiBoilerplate
