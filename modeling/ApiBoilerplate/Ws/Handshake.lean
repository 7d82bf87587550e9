import ApiBoilerplate.Foundation.Semaphore
import ApiBoilerplate.Http.Auth
import ApiBoilerplate.Ws.CallEffects
import ApiBoilerplate.Ws.Policy

/-!
# The handshake

`ws_connect` resolves the caller, checks whether it may be anonymous, upgrades the
connection and only then registers it with the hub. Every connection of the hub has
come this way.
-/

namespace ApiBoilerplate

open Foundation Http
open WsHub (Op)

/-- What the handshake reads of the configuration. -/
structure HandshakeConfig where
  requireAuth : Bool
  allowQueryToken : Bool
  auth : AuthConfig
  deriving DecidableEq, Repr

/-- What the query string of the handshake is read to. -/
structure WsQuery where
  token : Option String
  deriving DecidableEq, Repr

inductive ConnectError where
  | app (error : AppError)
  | badRequest (error : String)
  | upgrade (error : String)
  | serviceUnavailable (message : String)
  deriving DecidableEq, Repr

/-- The hub with the sessions started so far. -/
structure WsServer (Value : Type) where
  hub : WsHub Value
  sessions : List WsContext

section Program
variable (reader : TokenReader) (config : HandshakeConfig)

def resolveIdentity (headers : HeaderMap) (query : WsQuery) :
    Except AppError (Option AuthUser) :=
  let headerToken := ((headers.get "authorization").bind HeaderValue.toStr).bind stripBearer
  let token :=
    match headerToken with
    | some token => some token
    | none => if config.allowQueryToken then query.token else none
  match token with
  | none => .ok none
  | some token =>
    match verifyToken reader token config.auth with
    | .error e => .error e
    | .ok claims =>
      match reader.parseStr claims.sub with
      | none => .error (.unauthorized "Invalid token subject")
      | some userId => .ok (some ⟨userId, claims.email⟩)

def authenticationRequired : AppError :=
  .unauthorized "Authentication required for websocket connections"

/-- `ws_connect` until the caller is known and admitted. -/
def authenticate (headers : HeaderMap) (query : WsQuery) : Except AppError (Option AuthUser) :=
  match resolveIdentity reader config headers query with
  | .error e => .error e
  | .ok identity =>
    if config.requireAuth ∧ identity.isNone then .error authenticationRequired else .ok identity

/-- `ws_connect` until it registers; `upgrade` is what `actix_ws::handle` gives. -/
def admission {Response : Type} (headers : HeaderMap) (query : WsQuery)
    (upgrade : Except String Response) : Except ConnectError (Response × Option AuthUser) :=
  match authenticate reader config headers query with
  | .error e => .error (.app e)
  | .ok identity =>
    match upgrade with
    | .error e => .error (.upgrade e)
    | .ok response => .ok (response, identity)

/-- `id` and `now` are the new id and the clock that `register` reads. -/
def wsConnect {Value Response : Type} (headers : HeaderMap) (query : WsQuery)
    (upgrade : Except String Response) (id : ConnectionId) (now : DateTime)
    (server : WsServer Value) : Except ConnectError Response × WsServer Value :=
  match admission reader config headers query upgrade with
  | .error e => (.error e, server)
  | .ok (response, identity) =>
    let userId := identity.map AuthUser.userId
    match server.hub.register id userId now with
    | (.error e, hub) => (.error (.serviceUnavailable e.text), { server with hub := hub })
    | (.ok connectionId, hub) =>
      let context : WsContext := ⟨connectionId, userId, identity.map AuthUser.email⟩
      (.ok response, ⟨hub, server.sessions ++ [context]⟩)

/-- The request on its way to `ws_connect`. `extract` is `web::Query<WsQuery>`; where it
refuses the query string, as one with two tokens, the handler is not called. -/
def handshake {Value Response : Type} (extract : String → Except String WsQuery)
    (headers : HeaderMap) (queryString : String) (upgrade : Except String Response)
    (id : ConnectionId) (now : DateTime) (server : WsServer Value) :
    Except ConnectError Response × WsServer Value :=
  match extract queryString with
  | .error e => (.error (.badRequest e), server)
  | .ok query => wsConnect reader config headers query upgrade id now server

end Program

/-- The token a request supplies: the bearer token of its header, or else the one of
its query where that is allowed. -/
inductive Supplies (config : HandshakeConfig) (headers : HeaderMap) (query : WsQuery)
    (token : String) : Prop where
  | header : bearerToken headers = some token → Supplies config headers query token
  | query : bearerToken headers = none → config.allowQueryToken = true →
      query.token = some token → Supplies config headers query token

section Handshake
variable {reader : TokenReader} {config : HandshakeConfig} {headers : HeaderMap}
  {query : WsQuery} {Value Response : Type} {upgrade : Except String Response}

/-- The token that the program looks for. -/
def tokenOf (config : HandshakeConfig) (headers : HeaderMap) (query : WsQuery) : Option String :=
  match bearerToken headers with
  | some token => some token
  | none => if config.allowQueryToken then query.token else none

theorem tokenOf_eq_some {token : String} :
    tokenOf config headers query = some token ↔ Supplies config headers query token := by
  constructor
  · intro found
    rw [tokenOf] at found
    cases header : bearerToken headers with
    | some given =>
      rw [header] at found
      obtain rfl := Option.some.inj found
      exact .header header
    | none =>
      simp only [header] at found
      by_cases allowed : config.allowQueryToken
      · rw [if_pos allowed] at found
        exact .query header allowed found
      · rw [if_neg allowed] at found
        cases found
  · rintro (header | ⟨header, allowed, given⟩)
    · rw [tokenOf, header]
    · simp only [tokenOf, header, allowed, if_true, given]

theorem tokenOf_eq_none :
    tokenOf config headers query = none ↔ ∀ token, ¬ Supplies config headers query token := by
  rw [Option.eq_none_iff_forall_ne_some]
  constructor
  · intro none token supplied
    exact none token (tokenOf_eq_some.mpr supplied)
  · intro none token found
    exact none token (tokenOf_eq_some.mp found)

/-- The caller is the user of the token supplied, and nobody without one. -/
theorem resolveIdentity_eq :
    resolveIdentity reader config headers query =
      match tokenOf config headers query with
      | none => .ok none
      | some token => (identify reader config.auth token).map some := by
  change (match tokenOf config headers query with
    | none => (.ok none : Except AppError (Option AuthUser))
    | some token =>
      match verifyToken reader token config.auth with
      | .error e => .error e
      | .ok claims =>
        match reader.parseStr claims.sub with
        | none => .error (.unauthorized "Invalid token subject")
        | some userId => .ok (some ⟨userId, claims.email⟩)) = _
  cases tokenOf config headers query with
  | none => rfl
  | some token =>
    simp only [identify]
    cases verifyToken reader token config.auth with
    | error e => rfl
    | ok claims =>
      simp only
      cases reader.parseStr claims.sub <;> rfl

theorem resolveIdentity_user {user : AuthUser}
    (resolved : resolveIdentity reader config headers query = .ok (some user)) :
    ∃ token, Supplies config headers query token ∧
      identify reader config.auth token = .ok user := by
  rw [resolveIdentity_eq] at resolved
  cases found : tokenOf config headers query with
  | none =>
    rw [found] at resolved
    cases resolved
  | some token =>
    simp only [found] at resolved
    refine ⟨token, tokenOf_eq_some.mp found, ?_⟩
    cases identified : identify reader config.auth token with
    | error e =>
      rw [identified] at resolved
      cases resolved
    | ok user' =>
      rw [identified] at resolved
      cases resolved
      rfl

theorem resolveIdentity_nobody
    (resolved : resolveIdentity reader config headers query = .ok none) :
    ∀ token, ¬ Supplies config headers query token := by
  rw [resolveIdentity_eq] at resolved
  apply tokenOf_eq_none.mp
  cases found : tokenOf config headers query with
  | none => rfl
  | some token =>
    simp only [found] at resolved
    cases identified : identify reader config.auth token with
    | error e =>
      rw [identified] at resolved
      cases resolved
    | ok user =>
      rw [identified] at resolved
      cases resolved

/-- Who a successful handshake lets in. -/
inductive LetIn (reader : TokenReader) (config : HandshakeConfig) (headers : HeaderMap)
    (query : WsQuery) : Option AuthUser → Prop where
  | user (token : String) (claims : Claims) (user : AuthUser) :
      Supplies config headers query token →
      reader.decode token config.auth.jwtSecret = .ok claims →
      reader.parseStr claims.sub = some user.userId → claims.email = user.email →
      LetIn reader config headers query (some user)
  | anonymous : config.requireAuth = false → (∀ token, ¬ Supplies config headers query token) →
      LetIn reader config headers query none

theorem authenticate_letIn {identity : Option AuthUser}
    (authenticated : authenticate reader config headers query = .ok identity) :
    LetIn reader config headers query identity := by
  rw [authenticate] at authenticated
  cases resolved : resolveIdentity reader config headers query with
  | error e =>
    rw [resolved] at authenticated
    cases authenticated
  | ok found =>
    simp only [resolved] at authenticated
    by_cases refused : config.requireAuth ∧ found.isNone
    · rw [if_pos refused] at authenticated
      cases authenticated
    · rw [if_neg refused] at authenticated
      obtain rfl := Except.ok.inj authenticated
      cases found with
      | some user =>
        obtain ⟨token, supplied, identified⟩ := resolveIdentity_user resolved
        obtain ⟨claims, decoded, subject, email⟩ := identify_ok.mp identified
        exact .user token claims user supplied decoded subject email
      | none =>
        refine .anonymous ?_ (resolveIdentity_nobody resolved)
        simpa using refused

theorem admission_ok {response : Response} {identity : Option AuthUser}
    (admitted : admission reader config headers query upgrade = .ok (response, identity)) :
    upgrade = .ok response ∧ LetIn reader config headers query identity := by
  rw [admission] at admitted
  cases authenticated : authenticate reader config headers query with
  | error e =>
    rw [authenticated] at admitted
    cases admitted
  | ok found =>
    simp only [authenticated] at admitted
    cases upgrade with
    | error e => cases admitted
    | ok given =>
      cases admitted
      exact ⟨rfl, authenticate_letIn authenticated⟩

/-- One connection more, and its session started. -/
structure Joined (before after : WsServer Value) (id : ConnectionId) (now : DateTime)
    (identity : Option AuthUser) : Prop where
  connections : after.hub.connections =
    before.hub.connections.insert id ⟨identity.map AuthUser.userId, ∅, now⟩
  one_more : id ∉ before.hub.connections →
    after.hub.connections.keys.card = before.hub.connections.keys.card + 1
  topics : after.hub.topics = before.hub.topics
  users : after.hub.users =
    match identity with
    | some user => before.hub.users.attach user.userId id
    | none => before.hub.users
  sessions : after.sessions = before.sessions ++
    [⟨id, identity.map AuthUser.userId, identity.map AuthUser.email⟩]

variable {id : ConnectionId} {now : DateTime} {server : WsServer Value}

/-- A handshake that fails leaves everything as it was. -/
theorem wsConnect_error {e : ConnectError}
    (failed : (wsConnect reader config headers query upgrade id now server).1 = .error e) :
    (wsConnect reader config headers query upgrade id now server).2 = server := by
  rw [wsConnect] at failed ⊢
  cases admitted : admission reader config headers query upgrade with
  | error e => rfl
  | ok found =>
    simp only [admitted] at failed ⊢
    by_cases full : server.hub.atCapacity
    · simp only [WsHub.register, if_pos full]
    · cases user : found.2 with
      | none => simp [WsHub.register, full, user] at failed
      | some user => simp [WsHub.register, full, user] at failed

/-- A handshake that succeeds adds one connection, of the user it let in. -/
theorem wsConnect_ok {response : Response}
    (succeeded : (wsConnect reader config headers query upgrade id now server).1 = .ok response) :
    ∃ identity, LetIn reader config headers query identity ∧
      Joined server (wsConnect reader config headers query upgrade id now server).2 id now
        identity := by
  rw [wsConnect] at succeeded ⊢
  cases admitted : admission reader config headers query upgrade with
  | error e =>
    rw [admitted] at succeeded
    cases succeeded
  | ok found =>
    obtain ⟨given, identity⟩ := found
    refine ⟨identity, (admission_ok admitted).2, ?_⟩
    simp only [admitted] at succeeded ⊢
    by_cases full : server.hub.atCapacity
    · simp [WsHub.register, full] at succeeded
    · have inserted (fresh : id ∉ server.hub.connections) (conn : Connection) :
          (server.hub.connections.insert id conn).keys.card =
            server.hub.connections.keys.card + 1 :=
        FinMap.card_insert_fresh (Finmap.lookup_eq_none.mpr fresh) conn
      cases identity with
      | none =>
        simp only [WsHub.register, if_neg full, Option.map_none]
        exact ⟨rfl, fun fresh => inserted fresh _, rfl, rfl, rfl⟩
      | some user =>
        simp only [WsHub.register, if_neg full, Option.map_some]
        exact ⟨rfl, fun fresh => inserted fresh _, rfl, rfl, rfl⟩

end Handshake

/-- The user a call will register a connection for. -/
def Call.registers {Value : Type} : Call Value → Option (Option Uuid)
  | .connectionsLen _ userId _ => some userId
  | .connectionsInsert _ userId _ => some userId
  | _ => none

namespace HubTasks
variable {Value : Type} {encode : ServerMessage Value → Except WsError ByteString}
  {P : Option Uuid → Prop} {s t : HubTasks Value}

/-- Every connection, registered or about to be, is of a user with a property. -/
structure Registered (P : Option Uuid → Prop) (s : HubTasks Value) : Prop where
  table : ∀ id conn, s.hub.connections.lookup id = some conn → P conn.userId
  calls : ∀ c userId, s.Awaits c → c.registers = some userId → P userId

theorem Puts.registers {h : WsHub Value} {c d : Call Value} {userId : Option Uuid}
    (puts : Puts encode h c d) (registers : d.registers = some userId) :
    c.registers = some userId := by
  cases puts with
  | cleanup cleaning => cases d <;> cases registers <;> cases cleaning
  | register => exact registers
  | user => cases registers
  | topic => cases registers
  | audience => cases registers
  | deliver => cases registers

theorem run_registered {name : TaskName} {ids : List ConnectionId} {topics : List Topic}
    (registered : Registered P s) (ran : step encode s (.run name ids topics) = some t) :
    Registered P t := by
  obtain ⟨c, rest, h, more, found, done, rfl⟩ := run_cases ran
  have head : s.Awaits c := ⟨name, c :: rest, found, List.mem_cons_self⟩
  constructor
  · intro id conn lookup
    rcases (exec_touch done).gains lookup with ⟨now, rfl, _⟩ | ⟨before, held, same, _⟩
    · exact registered.calls _ _ head rfl
    · rw [same]
      exact registered.table id before held
  · rintro d userId ⟨m, calls, lookup, member⟩ registers
    rcases awaits_after found lookup member with put | awaited
    · exact registered.calls c userId head ((exec_puts done put).registers registers)
    · exact registered.calls d userId awaited registers

/-- Only a registration starts with a call that registers. -/
theorem registers_of_calls {op : Op Value} {d : Call Value} {userId : Option Uuid}
    (member : d ∈ op.calls) (registers : d.registers = some userId) :
    ∃ id now, op = .register id userId now := by
  cases op with
  | register id user now =>
    obtain rfl := List.mem_singleton.mp member
    obtain rfl := Option.some.inj registers
    exact ⟨id, now, rfl⟩
  | publish topic payload | publishToUser userId topic payload | broadcast topic payload =>
    cases payload with
    | error e => cases member
    | ok value =>
      rcases List.mem_cons.mp member with rfl | member
      · cases registers
      · obtain rfl := List.mem_singleton.mp member
        cases registers
  | sendTo id topic payload =>
    cases payload with
    | error e => cases member
    | ok value =>
      obtain rfl := List.mem_singleton.mp member
      cases registers
  | _ =>
    obtain rfl := List.mem_singleton.mp member
    cases registers

theorem start_registered {name : TaskName} {op : Op Value} (registered : Registered P s)
    (allowed : ∀ id userId now, op = .register id userId now → P userId)
    (started : step encode s (.start name op) = some t) : Registered P t := by
  obtain ⟨_, _, rfl⟩ := start_cases started
  constructor
  · exact registered.table
  · rintro d userId ⟨m, calls, lookup, member⟩ registers
    change (setCalls s.pending name op.calls).lookup m = some calls at lookup
    rw [lookup_setCalls] at lookup
    by_cases same : m = name
    · rw [if_pos same] at lookup
      by_cases empty : op.calls = []
      · rw [if_pos empty] at lookup
        cases lookup
      · rw [if_neg empty] at lookup
        obtain rfl := Option.some.inj lookup
        obtain ⟨id, now, rfl⟩ := registers_of_calls member registers
        exact allowed id userId now rfl
    · rw [if_neg same] at lookup
      exact registered.calls d userId ⟨m, calls, lookup, member⟩ registers

end HubTasks

inductive ServerLabel (Value : Type) where
  /-- A handshake request, with the outcome of its upgrade. -/
  | connect (name : TaskName) (headers : HeaderMap) (query : WsQuery)
      (upgrade : Except String Unit) (id : ConnectionId) (now : DateTime)
  /-- A step of the hub's tasks that starts no registration. -/
  | task (label : TaskLabel Value)

/-- Some other operation than a registration, or a call. -/
def TaskLabel.isConnect {Value : Type} : TaskLabel Value → Bool
  | .start _ (.register _ _ _) => true
  | _ => false

namespace HubTasks
variable {Value : Type}

/-- Handshakes run beside all other tasks of the hub, which register nobody. -/
def serverStep (encode : ServerMessage Value → Except WsError ByteString) (reader : TokenReader)
    (config : HandshakeConfig) (s : HubTasks Value) : ServerLabel Value → Option (HubTasks Value)
  | .connect name headers query upgrade id now =>
    match admission reader config headers query upgrade with
    | .error _ => some s
    | .ok (_, identity) =>
      step encode s (.start name (.register id (identity.map AuthUser.userId) now))
  | .task label => if label.isConnect then none else step encode s label

def serverMachine (encode : ServerMessage Value → Except WsError ByteString)
    (reader : TokenReader) (config : HandshakeConfig) (nodeId : Uuid) (hubConfig : WebSocketConfig)
    (clusterTx : Option (Mpsc (ClusterFrame Value))) :
    Machine (HubTasks Value) (ServerLabel Value) where
  init := ⟨.new nodeId hubConfig clusterTx, ∅, ∅, []⟩
  step := serverStep encode reader config

variable {encode : ServerMessage Value → Except WsError ByteString} {reader : TokenReader}
  {config : HandshakeConfig} {s t : HubTasks Value}

/-- The connections are of callers that a handshake let in. -/
def OfLetIn (reader : TokenReader) (config : HandshakeConfig) (userId : Option Uuid) : Prop :=
  ∃ headers query identity, LetIn reader config headers query identity ∧
    userId = identity.map AuthUser.userId

theorem serverStep_registered {l : ServerLabel Value}
    (registered : Registered (OfLetIn reader config) s)
    (hs : serverStep encode reader config s l = some t) :
    Registered (OfLetIn reader config) t := by
  cases l with
  | connect name headers query upgrade id now =>
    rw [serverStep] at hs
    cases admitted : admission reader config headers query upgrade with
    | error e =>
      rw [admitted] at hs
      cases hs
      exact registered
    | ok found =>
      obtain ⟨response, identity⟩ := found
      simp only [admitted] at hs
      refine start_registered registered ?_ hs
      rintro _ _ _ ⟨⟩
      exact ⟨headers, query, identity, (admission_ok admitted).2, rfl⟩
  | task label =>
    rw [serverStep] at hs
    by_cases connects : label.isConnect
    · rw [if_pos connects] at hs
      cases hs
    · rw [if_neg connects] at hs
      cases label with
      | start name op =>
        refine start_registered registered ?_ hs
        rintro id userId now rfl
        exact absurd rfl connects
      | run name ids topics => exact run_registered registered hs

theorem reachable_registered {nodeId : Uuid} {hubConfig : WebSocketConfig}
    {clusterTx : Option (Mpsc (ClusterFrame Value))}
    (reach : (serverMachine encode reader config nodeId hubConfig clusterTx).Reachable s) :
    Registered (OfLetIn reader config) s := by
  refine Machine.ReachableWhere.invariant ?_ ?_ reach
  · constructor
    · intro id conn lookup
      cases lookup
    · rintro c userId ⟨name, calls, lookup, _⟩
      cases lookup
  · intro s l t registered _ hs
    exact serverStep_registered registered hs

end HubTasks

/-- A handshake that fails changes nothing, one that succeeds adds the connection of
the caller it let in, and a server that requires authentication has no other
connections. -/
theorem ws_admission (reader : TokenReader) (config : HandshakeConfig) :
    (∀ (Value Response : Type) headers query (upgrade : Except String Response) id now
        (server : WsServer Value),
      match wsConnect reader config headers query upgrade id now server with
      | (.error _, after) => after = server
      | (.ok _, after) => ∃ identity, LetIn reader config headers query identity ∧
          Joined server after id now identity) ∧
    (config.requireAuth = true →
      ∀ (Value : Type) encode nodeId hubConfig clusterTx (s : HubTasks Value),
        (HubTasks.serverMachine encode reader config nodeId hubConfig clusterTx).Reachable s →
        ∀ id conn, s.hub.connections.lookup id = some conn → conn.userId.isSome) := by
  constructor
  · intro Value Response headers query upgrade id now server
    cases ended : wsConnect reader config headers query upgrade id now server with
    | mk result after =>
      have first : (wsConnect reader config headers query upgrade id now server).1 = result :=
        congrArg Prod.fst ended
      have second : (wsConnect reader config headers query upgrade id now server).2 = after :=
        congrArg Prod.snd ended
      cases result with
      | error e =>
        exact second.symm.trans (wsConnect_error first)
      | ok response =>
        obtain ⟨identity, letIn, joined⟩ := wsConnect_ok first
        exact ⟨identity, letIn, second ▸ joined⟩
  · intro required Value encode nodeId hubConfig clusterTx s reach id conn lookup
    obtain ⟨headers, query, identity, letIn, same⟩ :=
      (HubTasks.reachable_registered reach).table id conn lookup
    rw [same]
    cases letIn with
    | user token claims user supplied decoded subject email => rfl
    | anonymous optional none =>
      rw [required] at optional
      cases optional

end ApiBoilerplate
